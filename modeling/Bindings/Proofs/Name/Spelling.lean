import Bindings.Proofs.Name.Titles

/-! Words in a joined identifier.

When words are joined, the only place where a capital stands before a small letter is the start of a
word. A word in title case has to begin there, and then it is a word, unless it takes in a word that
begins with a digit.
-/

set_option autoImplicit false

namespace Bindings.Name

open Unicode

/-- What the words of a text of letters and digits are like. -/
structure Proper (word : List Char) : Prop where
  given : word ≠ []
  alnum : AlnumText word
  unbroken : Unbroken word

/-- How a word looks that has been spelled: it does not begin with a small letter, and a capital inside
of it stands after a capital and not before a small letter. -/
structure Spelled (word : List Char) : Prop where
  given : word ≠ []
  head : ∀ c ∈ word.head?, c.isLower = false
  capital : ∀ {first second x y}, word = first ++ x :: y :: second → y.isUpper = true →
    x.isUpper = true
  start : ∀ {first second x y}, word = first ++ x :: y :: second → x.isUpper = true →
    y.isLower = true → first = []

/-- Initialisms are made of capitals, and of a digit at the end. -/
theorem initialisms_shape : ∀ initialism ∈ initialisms, initialism ≠ [] ∧
    (∀ c ∈ initialism, c.isLower = false) ∧ ∀ c ∈ initialism.dropLast, c.isUpper = true := by
  decide

theorem spelled_initialism {word : List Char} (member : word ∈ initialisms) : Spelled word := by
  obtain ⟨given, small, capitals⟩ := initialisms_shape word member
  refine ⟨given, fun c first => small c (List.mem_of_mem_head? first), ?_, ?_⟩
  · rintro first second x y rfl -
    refine capitals x ?_
    rw [List.dropLast_append_of_ne_nil (List.cons_ne_nil _ _)]
    exact List.mem_append_right first List.mem_cons_self
  · rintro first second x y rfl - lower
    have notLower := small y (List.mem_append_right first (List.mem_cons_of_mem x List.mem_cons_self))
    rw [notLower] at lower
    cases lower

section
variable {word t after before rest : List Char} {words : List (List Char)}

theorem Proper.spelled_capitalized (proper : Proper word) : Spelled (capitalized word) := by
  obtain ⟨given, alnum, unbroken⟩ := proper
  obtain ⟨c, rest, rfl⟩ := List.exists_cons_of_ne_nil given
  obtain ⟨now, others⟩ := alnumText_cons.1 alnum
  rw [capitalized, upper_of_isAscii (isAscii_of_isAlphanum now), List.singleton_append]
  refine ⟨List.cons_ne_nil _ _, ?_, ?_, ?_⟩
  · intro d first
    obtain rfl := Option.some.inj first
    exact Char.isLower_toUpper_eq_false c
  · -- Only the first letter is not the one of the word.
    intro first second x y same capital
    cases first with
    | nil =>
      obtain ⟨rfl, rfl⟩ := List.cons.inj same
      have whole : Unbroken ([] ++ c :: y :: second) := unbroken
      have upper : c.isUpper = true := whole.isUpper_of_isUpper alnum capital
      rwa [toUpper_of_not_isLower (isLower_eq_false_of_isUpper upper)]
    | cons d first =>
      obtain ⟨-, rfl⟩ := List.cons.inj same
      have whole : Unbroken ((c :: first) ++ x :: y :: second) := unbroken
      exact whole.isUpper_of_isUpper alnum capital
  · intro first second x y same capital small
    cases first with
    | nil => rfl
    | cons d first =>
      obtain ⟨-, rfl⟩ := List.cons.inj same
      have whole : Unbroken ((c :: first) ++ x :: y :: second) := unbroken
      cases whole.eq_nil_of_isLower alnum capital small

theorem spellWord_cases (word : List Char) :
    spellWord word ∈ initialisms ∧ spellWord word = uppercase word ∨
      spellWord word = capitalized word := by
  rw [spellWord]
  split
  · next known => exact .inl ⟨List.contains_iff_mem.1 known, rfl⟩
  · exact .inr rfl

theorem head?_spellWord {c : Char} {rest : List Char} (ascii : isAscii c = true) :
    (spellWord (c :: rest)).head? = some c.toUpper := by
  rcases spellWord_cases (c :: rest) with ⟨-, same⟩ | same
  · rw [same, uppercase, List.flatMap_cons, upper_of_isAscii ascii]
    rfl
  · rw [same, capitalized, upper_of_isAscii ascii]
    rfl

theorem Proper.spelled (proper : Proper word) : Spelled (spellWord word) := by
  rcases spellWord_cases word with ⟨known, -⟩ | same
  · exact spelled_initialism known
  · rw [same]
    exact proper.spelled_capitalized

theorem uppercase_titles : ∀ t ∈ titles, uppercase t ∈ initialisms := by
  decide

/-- No word is spelled in title case if it is an initialism. -/
theorem spellWord_notMem_titles (alnum : AlnumText word) : spellWord word ∉ titles := by
  intro member
  rw [spellWord] at member
  split at member
  · next known =>
    obtain ⟨x, y, rest, same, -, -, small, -⟩ := (titleCase_of_mem_titles _ member).cases
    have shape := (initialisms_shape _ (List.contains_iff_mem.1 known)).2.1
    rw [same] at shape
    rw [shape y (List.mem_cons_of_mem x List.mem_cons_self)] at small
    cases small
  · next unknown =>
    cases word with
    | nil => exact absurd member (by decide)
    | cons c rest =>
      obtain ⟨now, others⟩ := alnumText_cons.1 alnum
      have known := uppercase_titles _ member
      have again : uppercase (capitalized (c :: rest)) = uppercase (c :: rest) := by
        have ascii := isAscii_of_isAlphanum now
        rw [capitalized, upper_of_isAscii ascii, List.singleton_append, uppercase, uppercase,
          List.flatMap_cons, List.flatMap_cons, upper_of_isAscii ascii,
          upper_of_isAscii (isAscii_of_isAlphanum (isAlphanum_toUpper now)), Char.toUpper_toUpper_eq_toUpper]
      rw [again] at known
      exact unknown (List.contains_iff_mem.2 known)

theorem head_flatten (spelled : ∀ word ∈ words, Spelled word) :
    ∀ c ∈ words.flatten.head?, c.isLower = false := by
  cases words with
  | nil => exact fun _ member => nomatch member
  | cons word words =>
    have now := spelled word List.mem_cons_self
    rw [List.flatten_cons, List.head?_append_of_ne_nil _ now.given]
    exact now.head

/-- Where a capital stands before a small letter, a word begins. -/
theorem exists_of_flatten_eq (spelled : ∀ word ∈ words, Spelled word) {x y : Char}
    (split : words.flatten = before ++ x :: y :: rest) (capital : x.isUpper = true)
    (small : y.isLower = true) :
    ∃ first second, words = first ++ second ∧ first.flatten = before := by
  -- The capital may stand in the first word, on its border to the others, or beyond it.
  induction words generalizing before with
  | nil => simp at split
  | cons word words ih =>
    obtain ⟨now, others⟩ := List.forall_mem_cons.1 spelled
    rw [List.flatten_cons] at split
    rcases List.append_eq_append_iff.1 split with ⟨middle, rfl, later⟩ | ⟨part, rfl, later⟩
    · obtain ⟨first, second, rfl, rfl⟩ := ih others later
      exact ⟨word :: first, second, rfl, rfl⟩
    · rcases part with _ | ⟨c, _ | ⟨d, part⟩⟩
      · have next : words.flatten = [] ++ x :: y :: rest := later.symm
        obtain ⟨first, second, rfl, start⟩ := ih others next
        exact ⟨(before ++ []) :: first, second, rfl, by simp [start]⟩
      · -- The small letter would begin the next word.
        simp only [List.cons_append, List.nil_append, List.cons.injEq] at later
        have first : y ∈ words.flatten.head? := by
          rw [← later.2]
          rfl
        rw [head_flatten others y first] at small
        cases small
      · simp only [List.cons_append, List.cons.injEq] at later
        obtain ⟨rfl, rfl, -⟩ := later
        obtain rfl := now.start rfl capital small
        exact ⟨[], _, rfl, rfl⟩

/-- A word in title case that begins with a word is that word, or goes on with the next one. -/
theorem TitleCase.eq_or_of_flatten (title : TitleCase t) (now : Spelled word)
    (split : word ++ words.flatten = t ++ after) (ends : ∀ c ∈ after.head?, c.isUpper = true) :
    word = t ∧ words.flatten = after ∨
      ∃ c part, t = word ++ c :: part ∧ words.flatten = c :: (part ++ after) := by
  rcases List.append_eq_append_iff.1 split with ⟨part, rfl, later⟩ | ⟨part, rfl, rfl⟩
  · cases part with
    | nil => exact .inl ⟨(List.append_nil word).symm, later⟩
    | cons c part => exact .inr ⟨c, part, rfl, later⟩
  · cases part with
    | nil => exact .inl ⟨List.append_nil t, rfl⟩
    | cons c part =>
      -- The word would hold a capital after the last character of `t`, which is none.
      obtain ⟨start, d, rfl, small⟩ := title.exists_last
      have upper : d.isUpper = true :=
        now.capital (by rw [List.append_assoc, List.singleton_append]) (ends c rfl)
      rw [small] at upper
      cases upper

end

end Bindings.Name
