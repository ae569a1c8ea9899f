import Bindings.Name.Words
import Bindings.Proofs.Unicode.Letters

/-! Where words end inside of a text.

A word is cut where another starts, and where that is depends on one character before and one after.
So a text can be cut into words at any start of a word, and nothing is cut inside of a word again.
-/

set_option autoImplicit false

namespace Bindings.Name

open Unicode

/-- No word starts inside of a text. -/
def Unbroken : List Char → Prop
  | before :: c :: rest => startsWord before c rest.head? = false ∧ Unbroken (c :: rest)
  | _ => True

section
variable {before c x y : Char} {first second text word : List Char}

theorem startsWord_of_none {after : Option Char} (starts : startsWord before c none = true) :
    startsWord before c after = true := by
  simp only [startsWord, Option.any_none, Bool.and_false, Bool.or_false, Bool.and_eq_true,
    Bool.or_eq_true] at starts ⊢
  exact ⟨starts.1, .inl starts.2⟩

theorem isUppercase_of_startsWord {after : Option Char} (starts : startsWord before c after = true) :
    isUppercase c = true := by
  rw [startsWord, Bool.and_eq_true] at starts
  exact starts.1

/-- A capital before a small letter starts a word after any letter or digit. -/
theorem startsWord_of_isLowercase (alnum : before.isAlphanum = true) (capital : isUppercase x = true)
    (small : isLowercase y = true) : startsWord before x (some y) = true := by
  rcases isAlphanum_cases alnum with upper | lower | digit
  · simp [startsWord, capital, small, isUppercase_of_isAlphanum alnum, upper]
  · simp [startsWord, capital, isLowercase_of_isAlphanum alnum, lower]
  · simp [startsWord, capital, digit]

theorem ne_nil_of_mem_segment (member : word ∈ segment text) : word ≠ [] := by
  fun_induction segment text with
  | case1 => cases member
  | case2 c =>
    rw [List.mem_singleton.1 member]
    exact List.cons_ne_nil _ _
  | case3 before c rest cut ih => exact absurd cut segment_ne_nil
  | case4 before c rest first others cut starts ih =>
    rw [cut] at ih
    rcases List.mem_cons.1 member with rfl | member
    · exact List.cons_ne_nil _ _
    · exact ih member
  | case5 before c rest first others cut inside ih =>
    rw [cut] at ih
    rcases List.mem_cons.1 member with rfl | member
    · exact List.cons_ne_nil _ _
    · exact ih (List.mem_cons_of_mem _ member)

/-- The first word of a text begins like the text. -/
theorem exists_of_segment_eq_cons {others : List (List Char)} {rest : List Char}
    (cut : segment (c :: rest) = first :: others) :
    ∃ word, first = c :: word ∧ rest = word ++ others.flatten := by
  have whole := flatten_segment (c :: rest)
  rw [cut, List.flatten_cons] at whole
  cases first with
  | nil => exact absurd rfl (ne_nil_of_mem_segment (cut ▸ List.mem_cons_self))
  | cons d word =>
    obtain ⟨rfl, rest⟩ := List.cons.inj whole
    exact ⟨word, rfl, rest.symm⟩

theorem unbroken_of_mem_segment (member : word ∈ segment text) : Unbroken word := by
  fun_induction segment text generalizing word with
  | case1 => cases member
  | case2 c =>
    rw [List.mem_singleton.1 member]
    trivial
  | case3 before c rest cut ih => exact absurd cut segment_ne_nil
  | case4 before c rest first others cut starts ih =>
    rw [cut] at ih
    rcases List.mem_cons.1 member with rfl | member
    · trivial
    · exact ih member
  | case5 before c rest first others cut inside ih =>
    rw [cut] at ih
    rcases List.mem_cons.1 member with rfl | member
    · have later := ih List.mem_cons_self
      obtain ⟨word, rfl, rfl⟩ := exists_of_segment_eq_cons cut
      refine ⟨?_, later⟩
      -- The word may end where the text goes on; a start without what follows is a start with it.
      cases word with
      | nil =>
        rw [← Bool.not_eq_true]
        exact fun starts => inside (startsWord_of_none starts)
      | cons d word => simpa using inside
    · exact ih (List.mem_cons_of_mem _ member)

/-- A text in which no word starts is one word. -/
theorem segment_of_unbroken (given : text ≠ []) (unbroken : Unbroken text) :
    segment text = [text] := by
  fun_induction segment text with
  | case1 => exact absurd rfl given
  | case2 c => rfl
  | case3 before c rest cut ih => exact absurd cut segment_ne_nil
  | case4 before c rest first others cut starts ih =>
    rw [unbroken.1] at starts
    cases starts
  | case5 before c rest first others cut inside ih =>
    have whole := ih (List.cons_ne_nil _ _) unbroken.2
    rw [cut] at whole
    obtain ⟨rfl, rfl⟩ := List.cons.inj whole
    rfl

/-- All words but the first begin with a capital. -/
theorem isUppercase_of_mem_tail_segment (member : word ∈ (segment text).tail) :
    ∃ c rest, word = c :: rest ∧ isUppercase c = true := by
  fun_induction segment text with
  | case1 => cases member
  | case2 c => cases member
  | case3 before c rest cut ih => exact absurd cut segment_ne_nil
  | case4 before c rest first others cut starts ih =>
    rw [cut] at ih
    rcases List.mem_cons.1 member with rfl | member
    · obtain ⟨rest, same, -⟩ := exists_of_segment_eq_cons cut
      exact ⟨c, rest, same, isUppercase_of_startsWord starts⟩
    · exact ih member
  | case5 before c rest first others cut inside ih =>
    rw [cut] at ih
    exact ih member

/-- A text is cut into words at the start of a word. -/
theorem segment_append {rest : List Char} (small : isLowercase c = false)
    (starts : startsWord before c rest.head? = true) :
    segment (first ++ before :: c :: rest) =
      segment (first ++ [before]) ++ segment (c :: rest) := by
  induction first with
  | nil =>
    rw [List.nil_append, List.nil_append, segment, segment]
    cases cut : segment (c :: rest) with
    | nil => exact absurd cut segment_ne_nil
    | cons word words =>
      dsimp only
      rw [if_pos starts, List.singleton_append]
  | cons d first ih =>
    -- The cut is not seen from `d`, unless through the small letter that `c` is not.
    cases first with
    | nil =>
      rw [List.nil_append, List.nil_append] at ih
      rw [List.cons_append, List.cons_append, List.nil_append, List.nil_append, segment, ih, segment,
        segment]
      have same : startsWord d before (c :: rest).head? = startsWord d before [].head? := by
        simp [startsWord, small]
      rw [same]
      simp only [List.singleton_append]
      split
      · rfl
      · rfl
    | cons e first =>
      rw [List.cons_append, List.cons_append] at ih ⊢
      rw [List.cons_append, List.cons_append, segment, ih, segment]
      cases cut : segment (e :: (first ++ [before])) with
      | nil => exact absurd cut segment_ne_nil
      | cons word words =>
        have same : (first ++ before :: c :: rest).head? = (first ++ [before]).head? := by
          cases first <;> rfl
        simp only [List.cons_append, same]
        split
        · rfl
        · rfl

theorem Unbroken.of_append (unbroken : Unbroken (first ++ second)) : Unbroken second := by
  induction first with
  | nil => exact unbroken
  | cons c first ih =>
    refine ih ?_
    rw [List.cons_append] at unbroken
    cases next : first ++ second with
    | nil => trivial
    | cons d rest =>
      rw [next] at unbroken
      exact unbroken.2

/-- Inside of a word, a capital stands after a capital. -/
theorem Unbroken.isUpper_of_isUpper (unbroken : Unbroken (first ++ x :: y :: second))
    (alnum : AlnumText (first ++ x :: y :: second)) (capital : y.isUpper = true) :
    x.isUpper = true := by
  obtain ⟨-, alnum⟩ := alnumText_append.1 alnum
  obtain ⟨ofX, alnum⟩ := alnumText_cons.1 alnum
  obtain ⟨ofY, -⟩ := alnumText_cons.1 alnum
  have inside := unbroken.of_append.1
  simp only [startsWord, isUppercase_of_isAlphanum ofY, capital, isLowercase_of_isAlphanum ofX,
    Bool.true_and, Bool.or_eq_false_iff] at inside
  rcases isAlphanum_cases ofX with upper | lower | digit
  · exact upper
  · rw [lower] at inside
    cases inside.1.1
  · rw [digit] at inside
    cases inside.1.2

/-- A capital before a small letter begins its word. -/
theorem Unbroken.eq_nil_of_isLower (unbroken : Unbroken (first ++ x :: y :: second))
    (alnum : AlnumText (first ++ x :: y :: second)) (capital : x.isUpper = true)
    (small : y.isLower = true) : first = [] := by
  rcases List.eq_nil_or_concat first with rfl | ⟨start, w, rfl⟩
  · rfl
  · rw [List.concat_eq_append, List.append_assoc, List.singleton_append] at unbroken alnum
    have upper : w.isUpper = true := unbroken.isUpper_of_isUpper alnum capital
    obtain ⟨-, alnum⟩ := alnumText_append.1 alnum
    obtain ⟨ofW, alnum⟩ := alnumText_cons.1 alnum
    obtain ⟨ofX, alnum⟩ := alnumText_cons.1 alnum
    obtain ⟨ofY, -⟩ := alnumText_cons.1 alnum
    have inside := unbroken.of_append.1
    simp [startsWord, isUppercase_of_isAlphanum ofX, isUppercase_of_isAlphanum ofW,
      isLowercase_of_isAlphanum ofY, capital, upper, small] at inside

/-- After a character that is no capital, a word has no capitals. -/
theorem Unbroken.isUpper_eq_false {c : Char} (unbroken : Unbroken (c :: word))
    (alnum : AlnumText (c :: word)) (other : c.isUpper = false) :
    ∀ d ∈ c :: word, d.isUpper = false := by
  induction word generalizing c with
  | nil => simpa using other
  | cons d word ih =>
    have next : d.isUpper = false := by
      rw [← Bool.not_eq_true]
      intro upper
      have whole : Unbroken ([] ++ c :: d :: word) := unbroken
      rw [whole.isUpper_of_isUpper alnum upper] at other
      cases other
    exact List.forall_mem_cons.2 ⟨other, ih unbroken.2 (alnumText_cons.1 alnum).2 next⟩

/-- After a capital and what is no small letter, a word has no small letters before a digit. -/
theorem Unbroken.isLower_eq_false {x y : Char} (unbroken : Unbroken (x :: y :: word))
    (alnum : AlnumText (x :: y :: word)) (capital : x.isUpper = true) (other : y.isLower = false)
    (digits : ∀ c ∈ (y :: word).dropLast, c.isDigit = false) :
    ∀ c ∈ y :: word, c.isLower = false := by
  induction word generalizing x y with
  | nil => simpa using other
  | cons z word ih =>
    obtain ⟨-, later⟩ := alnumText_cons.1 alnum
    rw [List.dropLast_cons_of_ne_nil (List.cons_ne_nil z word), List.forall_mem_cons] at digits
    have upper : y.isUpper = true := by
      rcases isAlphanum_cases (alnumText_cons.1 later).1 with upper | lower | digit
      · exact upper
      · rw [lower] at other
        cases other
      · rw [digits.1] at digit
        cases digit
    have next : z.isLower = false := by
      rw [← Bool.not_eq_true]
      intro small
      have whole : Unbroken ([x] ++ y :: z :: word) := unbroken
      cases whole.eq_nil_of_isLower alnum upper small
    exact List.forall_mem_cons.2 ⟨other, ih unbroken.2 later upper next digits.2⟩

end

end Bindings.Name
