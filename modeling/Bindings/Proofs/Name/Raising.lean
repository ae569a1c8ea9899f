import Bindings.Proofs.Name.Separators
import Bindings.Proofs.Unicode.Letters

/-! Spelling an identifier only raises letters.

Every step on the way to an exported identifier keeps its characters or puts them in upper case. Two
texts that are raised to each other are the same, which is how a fixed point is recognized.
-/

set_option autoImplicit false

namespace Bindings.Name

open Unicode

/-- No letter or digit is a separator. -/
theorem solid_of_alnum {text : List Char} (alnum : AlnumText text) : Solid text := by
  intro c member
  have plain := alnum c member
  exact of_isAscii (P := fun c => c.isAlphanum = true → isSeparator c = false) (by decide)
    (isAscii_of_isAlphanum plain) plain

/-- The second text is the first with some of its characters in upper case. -/
def Raises : List Char → List Char → Prop := List.Forall₂ fun c d => d = c ∨ d = c.toUpper

section
variable {first second third other text : List Char}

theorem Raises.refl (text : List Char) : Raises text text := List.forall₂_same.2 fun _ _ => .inl rfl

theorem Raises.alnum (raises : Raises first second) (alnum : AlnumText first) :
    AlnumText second := by
  induction raises with
  | nil => exact alnum
  | cons same _ ih =>
    obtain ⟨now, later⟩ := alnumText_cons.1 alnum
    refine alnumText_cons.2 ⟨?_, ih later⟩
    rcases same with rfl | rfl
    · exact now
    · exact isAlphanum_toUpper now

theorem Raises.trans (before : Raises first second) (after : Raises second third) :
    Raises first third := by
  induction before generalizing third with
  | nil => exact after
  | cons same _ ih =>
    cases after with
    | cons again after =>
      refine .cons ?_ (ih after)
      rcases same with rfl | rfl
      · exact again
      · rcases again with rfl | rfl
        · exact .inr rfl
        · exact .inr (Char.toUpper_toUpper_eq_toUpper _)

theorem Raises.antisymm (there : Raises first second) (back : Raises second first) :
    first = second := by
  induction there with
  | nil => rfl
  | cons same _ ih =>
    cases back with
    | cons again back =>
      rw [ih back]
      rcases same with rfl | rfl
      · rfl
      · rcases again with same | same
        · rw [← same]
        · rw [Char.toUpper_toUpper_eq_toUpper] at same
          rw [← same]

theorem Raises.append {first' second' : List Char} (left : Raises first first')
    (right : Raises second second') : Raises (first ++ second) (first' ++ second') := by
  induction left with
  | nil => exact right
  | cons same _ ih => exact .cons same ih

theorem raises_flatMap {words : List (List Char)} {f : List Char → List Char}
    (each : ∀ word ∈ words, Raises word (f word)) : Raises words.flatten (words.flatMap f) := by
  induction words with
  | nil => exact .nil
  | cons word words ih =>
    obtain ⟨now, later⟩ := List.forall_mem_cons.1 each
    exact now.append (ih later)

/-- Words are raised to themselves if their text is. -/
theorem eq_of_flatMap_eq {words : List (List Char)} {f : List Char → List Char}
    (each : ∀ word ∈ words, Raises word (f word)) (same : words.flatMap f = words.flatten) :
    ∀ word ∈ words, f word = word := by
  induction words with
  | nil => exact fun _ member => nomatch member
  | cons word words ih =>
    obtain ⟨now, later⟩ := List.forall_mem_cons.1 each
    rw [List.flatMap_cons, List.flatten_cons] at same
    obtain ⟨here, others⟩ := List.append_inj same now.length_eq.symm
    exact List.forall_mem_cons.2 ⟨here, ih later others⟩

theorem raises_spellWord {word : List Char} (ascii : AsciiText word) :
    Raises word (spellWord word) := by
  rw [spellWord]
  split
  · rw [uppercase_of_ascii ascii, Raises, List.forall₂_map_right_iff]
    exact List.forall₂_same.2 fun c _ => .inr rfl
  · cases word with
    | nil => exact .nil
    | cons c rest =>
      rw [capitalized, upper_of_isAscii (ascii c List.mem_cons_self)]
      exact .cons (.inr rfl) (Raises.refl rest)

section Plural

/-- Both spellings of a plural begin with one capital, and neither ends like the other. -/
theorem plurals_spelled : ∀ plural ∈ plurals, plural.1.head? = plural.2.head? ∧
    ∀ c ∈ plural.1.head?, c.isUpper = true := by
  decide

theorem plurals_apart : ∀ plural ∈ plurals, ∀ again ∈ plurals,
    ¬plural.1 <:+ again.2 ∧ ¬again.2 <:+ plural.1 := by
  decide

theorem raises_plurals : ∀ plural ∈ plurals, Raises plural.1 plural.2 := by
  simp [plurals, Raises]

theorem fixPlural_cases (text : List Char) :
    (∃ plural ∈ plurals, ∃ stem, text = stem ++ plural.1 ∧ fixPlural text = stem ++ plural.2) ∨
      (∀ plural ∈ plurals, ¬plural.1 <:+ text) ∧ fixPlural text = text := by
  rw [fixPlural]
  cases found : plurals.findSome? fun plural =>
      (Text.before? plural.1 text).map fun stem => stem ++ plural.2 with
  | none =>
    refine .inr ⟨fun plural member ending => ?_, rfl⟩
    obtain ⟨stem, same⟩ := ending
    have cut : Text.before? plural.1 text = some stem := Text.before?_eq_some.2 same.symm
    have missed := List.findSome?_eq_none_iff.1 found plural member
    rw [cut] at missed
    cases missed
  | some spelled =>
    obtain ⟨plural, member, spells⟩ := List.exists_of_findSome?_eq_some found
    obtain ⟨stem, cut, rfl⟩ := Option.map_eq_some_iff.1 spells
    exact .inl ⟨plural, member, stem, Text.before?_eq_some.1 cut, rfl⟩

theorem fixPlural_eq_self (none_ : ∀ plural ∈ plurals, ¬plural.1 <:+ text) :
    fixPlural text = text := by
  rcases fixPlural_cases text with ⟨plural, member, stem, same, -⟩ | ⟨-, same⟩
  · exact absurd ⟨stem, same.symm⟩ (none_ plural member)
  · exact same

theorem not_plural_fixPlural (text : List Char) :
    ∀ plural ∈ plurals, ¬plural.1 <:+ fixPlural text := by
  intro plural member ending
  rcases fixPlural_cases text with ⟨again, found, stem, -, same⟩ | ⟨none_, same⟩
  · rw [same] at ending
    obtain ⟨left, right⟩ := plurals_apart plural member again found
    exact (List.suffix_or_suffix_of_suffix ending (List.suffix_append stem again.2)).elim left right
  · exact none_ plural member (same ▸ ending)

theorem raises_fixPlural (text : List Char) : Raises text (fixPlural text) := by
  rcases fixPlural_cases text with ⟨plural, member, stem, same, spelled⟩ | ⟨-, same⟩
  · rw [spelled, same]
    exact (Raises.refl stem).append (raises_plurals plural member)
  · rw [same]
    exact .refl text

theorem head?_fixPlural (text : List Char) : (fixPlural text).head? = text.head? := by
  rcases fixPlural_cases text with ⟨plural, member, stem, rfl, spelled⟩ | ⟨-, same⟩
  · rw [spelled]
    cases stem with
    | nil => exact (plurals_spelled plural member).1.symm
    | cons c stem => rfl
  · rw [same]

end Plural

section Abbreviation
variable {c x y : Char} {rest before after : List Char}

theorem fixAbbreviation_cons_of_ne (other : c ≠ 'X') :
    fixAbbreviation (c :: rest) = c :: fixAbbreviation rest := by
  rw [fixAbbreviation]
  rintro _ rfl
  exact absurd rfl other

theorem head?_fixAbbreviation : (fixAbbreviation text).head? = text.head? := by
  fun_cases fixAbbreviation text <;> rfl

/-- A letter is only ever raised where it stands. -/
theorem forall₂_fixAbbreviation :
    List.Forall₂ (fun c d => d = c ∨ c = 'p' ∧ d = 'P') text (fixAbbreviation text) := by
  fun_induction fixAbbreviation text with
  | case1 rest ih =>
    exact .cons (.inl rfl) (.cons (.inr ⟨rfl, rfl⟩) (.cons (.inl rfl)
      (.cons (.inl rfl) (.cons (.inl rfl) ih))))
  | case2 c rest _ ih => exact .cons (.inl rfl) ih
  | case3 => exact .nil

theorem raises_fixAbbreviation (text : List Char) : Raises text (fixAbbreviation text) := by
  refine forall₂_fixAbbreviation.imp ?_
  rintro c d (same | ⟨rfl, rfl⟩)
  · exact .inl same
  · exact .inr rfl

theorem exists_of_forall₂_append {R : Char → Char → Prop}
    (related : List.Forall₂ R (before ++ after) text) :
    ∃ start last, text = start ++ last ∧ List.Forall₂ R before start ∧
      List.Forall₂ R after last := by
  induction before generalizing text with
  | nil => exact ⟨[], text, rfl, .nil, related⟩
  | cons c before ih =>
    cases related with
    | @cons _ d _ rest now later =>
      obtain ⟨start, last, rfl, left, right⟩ := ih later
      exact ⟨d :: start, last, rfl, .cons now left, right⟩

theorem eq_of_forall₂ (plain : 'p' ∉ first)
    (raised : List.Forall₂ (fun c d => d = c ∨ c = 'p' ∧ d = 'P') first second) :
    second = first := by
  induction raised with
  | nil => rfl
  | cons now _ ih =>
    obtain ⟨other, others⟩ := not_or.1 (fun h => plain (List.mem_cons.2 h))
    rcases now with rfl | ⟨rfl, -⟩
    · rw [ih others]
    · exact absurd rfl other

/-- What holds no abbreviation stands in the text as it is. -/
theorem exists_of_fixAbbreviation_eq_append (plain : 'X' ∉ first)
    (same : fixAbbreviation text = first ++ second) :
    ∃ rest, text = first ++ rest ∧ fixAbbreviation rest = second := by
  induction first generalizing text with
  | nil => exact ⟨text, rfl, same⟩
  | cons c first ih =>
    obtain ⟨other, others⟩ := not_or.1 (fun h => plain (List.mem_cons.2 h))
    have head : text.head? = some c := by rw [← head?_fixAbbreviation, same]; rfl
    obtain ⟨rest, rfl⟩ : ∃ rest, text = c :: rest := List.head?_eq_some_iff.1 head
    rw [fixAbbreviation_cons_of_ne (Ne.symm other), List.cons_append, List.cons_inj_right] at same
    obtain ⟨last, rfl, left⟩ := ih others same
    exact ⟨last, rfl, left⟩

theorem fixAbbreviation_fixAbbreviation (text : List Char) :
    fixAbbreviation (fixAbbreviation text) = fixAbbreviation text := by
  fun_induction fixAbbreviation text with
  | case1 rest ih =>
    rw [fixAbbreviation]
    · repeat rw [fixAbbreviation_cons_of_ne (by decide)]
      rw [ih]
    · rintro rest - same
      exact absurd (List.cons.inj same).1 (by decide)
  | case2 c rest plain ih =>
    rw [fixAbbreviation, ih]
    -- An abbreviation that shows up now has been there before.
    rintro last rfl same
    have late : fixAbbreviation rest = ['p', 'a', 't', 'h'] ++ last := same
    obtain ⟨before, rfl, -⟩ := exists_of_fixAbbreviation_eq_append (by decide) late
    exact plain before rfl rfl
  | case3 => rfl

/-- A word in title case has been there before the abbreviations were fixed. -/
theorem exists_of_fixAbbreviation_eq (capital : x.isUpper = true) (other : x ≠ 'P')
    (small : y.isUpper = false) (plain : 'X' ∉ y :: rest)
    (same : fixAbbreviation text = before ++ x :: y :: (rest ++ after)) :
    ∃ start last, text = start ++ x :: y :: (rest ++ last) ∧ fixAbbreviation last = after := by
  fun_induction fixAbbreviation text generalizing before with
  | case1 tail ih =>
    -- None of the letters of the abbreviation begins a word in title case.
    rcases before with _ | ⟨a, _ | ⟨b, _ | ⟨c, _ | ⟨d, _ | ⟨e, before⟩⟩⟩⟩⟩
    · simp only [List.nil_append, List.cons.injEq] at same
      rw [← same.2.1] at small
      cases small
    · simp only [List.cons_append, List.nil_append, List.cons.injEq] at same
      exact absurd same.2.1.symm other
    · simp only [List.cons_append, List.nil_append, List.cons.injEq] at same
      rw [← same.2.2.1] at capital
      cases capital
    · simp only [List.cons_append, List.nil_append, List.cons.injEq] at same
      rw [← same.2.2.2.1] at capital
      cases capital
    · simp only [List.cons_append, List.nil_append, List.cons.injEq] at same
      rw [← same.2.2.2.2.1] at capital
      cases capital
    · simp only [List.cons_append, List.cons.injEq] at same
      obtain ⟨start, last, rfl, left⟩ := ih same.2.2.2.2.2
      exact ⟨'X' :: 'p' :: 'a' :: 't' :: 'h' :: start, last, rfl, left⟩
  | case2 c tail _ ih =>
    cases before with
    | nil =>
      obtain ⟨rfl, later⟩ := List.cons.inj same
      obtain ⟨last, rfl, left⟩ := exists_of_fixAbbreviation_eq_append plain later
      exact ⟨[], last, rfl, left⟩
    | cons d before =>
      obtain ⟨rfl, later⟩ := List.cons.inj same
      obtain ⟨start, last, rfl, left⟩ := ih later
      exact ⟨c :: start, last, rfl, left⟩
  | case3 => simp at same

end Abbreviation

end

end Bindings.Name
