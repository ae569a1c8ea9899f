import Bindings.Proofs.Name.Raising
import Bindings.Proofs.Name.Segments

/-! Initialisms in title case.

Only these words are spelled differently when they are met a second time. Words that have been spelled
once do not contain them, so that one can only come about where two words have been joined.
-/

set_option autoImplicit false

namespace Bindings.Name

open Unicode

def titled : List Char → List Char
  | [] => []
  | c :: rest => c :: rest.map Char.toLower

/-- The initialisms as they would be spelled if they were none. -/
def titles : List (List Char) := initialisms.map titled

def utf8 : List Char := "Utf8".toList

/-- A capital, but no P, a small letter, and no further capitals. -/
def TitleCase : List Char → Prop
  | x :: y :: rest =>
    x.isUpper = true ∧ x ≠ 'P' ∧ y.isLower = true ∧ ∀ c ∈ rest, c.isUpper = false
  | _ => False

instance : DecidablePred TitleCase
  | [] | [_] => isFalse id
  | x :: y :: rest =>
    inferInstanceAs (Decidable (x.isUpper = true ∧ x ≠ 'P' ∧ y.isLower = true ∧
      ∀ c ∈ rest, c.isUpper = false))

theorem titleCase_of_mem_titles : ∀ t ∈ titles, TitleCase t := by
  decide

theorem titleCase_plurals : ∀ plural ∈ plurals, TitleCase plural.1 := by
  decide

theorem utf8_mem_titles : utf8 ∈ titles := by
  decide

/-- A text holds `t` before a capital or at its end. -/
def Occurs (t text : List Char) : Prop :=
  ∃ before after, text = before ++ (t ++ after) ∧ ∀ c ∈ after.head?, c.isUpper = true

section TitleCase
variable {t text before after : List Char}

theorem TitleCase.cases (title : TitleCase t) :
    ∃ x y rest, t = x :: y :: rest ∧ x.isUpper = true ∧ x ≠ 'P' ∧ y.isLower = true ∧
      ∀ c ∈ y :: rest, c.isUpper = false := by
  match t, title with
  | x :: y :: rest, ⟨capital, other, small, others⟩ =>
    refine ⟨x, y, rest, rfl, capital, other, small, List.forall_mem_cons.2 ⟨?_, others⟩⟩
    rw [← Bool.not_eq_true]
    intro upper
    rw [isLower_eq_false_of_isUpper upper] at small
    cases small

theorem TitleCase.isUpper_eq_false (title : TitleCase t) {c : Char} (member : c ∈ t.tail) :
    c.isUpper = false := by
  obtain ⟨x, y, rest, rfl, -, -, -, others⟩ := title.cases
  exact others c member

theorem TitleCase.exists_last (title : TitleCase t) :
    ∃ start c, t = start ++ [c] ∧ c.isUpper = false := by
  obtain ⟨x, y, rest, rfl, -, -, -, others⟩ := title.cases
  have ends : y :: rest = (y :: rest).dropLast ++ [(y :: rest).getLast (List.cons_ne_nil _ _)] :=
    (List.dropLast_append_getLast _).symm
  exact ⟨x :: (y :: rest).dropLast, _, congrArg (x :: ·) ends, others _ (List.getLast_mem _)⟩

/-- Fixing abbreviations brings in no word in title case. -/
theorem TitleCase.exists_of_fixAbbreviation (title : TitleCase t)
    (same : fixAbbreviation text = before ++ (t ++ after)) :
    ∃ start last, text = start ++ (t ++ last) ∧ fixAbbreviation last = after := by
  obtain ⟨x, y, rest, rfl, capital, other, small, others⟩ := title.cases
  have plain : 'X' ∉ y :: rest := fun inside => absurd (others 'X' inside) (by decide)
  exact Name.exists_of_fixAbbreviation_eq capital other (others y List.mem_cons_self) plain same

theorem TitleCase.occurs_of_fixAbbreviation (title : TitleCase t)
    (occurs : Occurs t (fixAbbreviation text)) : Occurs t text := by
  obtain ⟨before, after, same, ends⟩ := occurs
  obtain ⟨start, last, rfl, rfl⟩ := title.exists_of_fixAbbreviation same
  rw [head?_fixAbbreviation] at ends
  exact ⟨start, last, rfl, ends⟩

/-- An ending can be exchanged for another with the same first capital if nothing of the word stands
in it. -/
theorem TitleCase.occurs_of_ending (title : TitleCase t) {stem ending other : List Char}
    (same : ending.head? = other.head?) (capital : ∀ c ∈ ending.head?, c.isUpper = true)
    (apart : ¬t <:+: ending) (occurs : Occurs t (stem ++ ending)) : Occurs t (stem ++ other) := by
  -- What follows the word begins with a capital, be it the ending itself or what stands before it.
  have replaced : ∀ middle, (∀ c ∈ (middle ++ ending).head?, c.isUpper = true) →
      ∀ c ∈ (middle ++ other).head?, c.isUpper = true := by
    intro middle ends
    cases middle with
    | nil => exact fun c member => capital c (same ▸ member)
    | cons d middle => exact ends
  obtain ⟨before, after, split, ends⟩ := occurs
  rcases List.append_eq_append_iff.1 split with ⟨front, rfl, inside⟩ | ⟨back, rfl, later⟩
  · exact absurd ⟨front, after, by rw [inside, List.append_assoc]⟩ apart
  · rcases List.append_eq_append_iff.1 later with ⟨middle, rfl, rfl⟩ | ⟨part, rfl, rfl⟩
    · exact ⟨before, middle ++ other, by simp, replaced middle ends⟩
    · cases part with
      | nil => exact ⟨before, other, by simp, replaced [] capital⟩
      | cons c part =>
        -- The ending would begin inside of the word, but with a capital.
        cases back with
        | nil => exact absurd ⟨[], after, rfl⟩ apart
        | cons d back =>
          have upper : c.isUpper = true := capital c rfl
          rw [title.isUpper_eq_false (List.mem_append_right back List.mem_cons_self)] at upper
          cases upper

end TitleCase

theorem titles_apart : ∀ t ∈ titles, ∀ plural ∈ plurals, ¬t <:+: plural.2 := by
  decide

theorem utf8_apart : ∀ plural ∈ plurals, ¬utf8 <:+: plural.1 := by
  decide

section Fixes
variable {t text : List Char}

theorem occurs_of_fixPlural (member : t ∈ titles) (occurs : Occurs t (fixPlural text)) :
    Occurs t text := by
  rcases fixPlural_cases text with ⟨plural, found, stem, rfl, spelled⟩ | ⟨-, same⟩
  · obtain ⟨head, capital⟩ := plurals_spelled plural found
    rw [spelled] at occurs
    exact (titleCase_of_mem_titles t member).occurs_of_ending head.symm (head ▸ capital)
      (titles_apart t member plural found) occurs
  · rwa [same] at occurs

theorem utf8_occurs_fixPlural (occurs : Occurs utf8 text) : Occurs utf8 (fixPlural text) := by
  rcases fixPlural_cases text with ⟨plural, found, stem, rfl, spelled⟩ | ⟨-, same⟩
  · obtain ⟨head, capital⟩ := plurals_spelled plural found
    rw [spelled]
    exact (titleCase_of_mem_titles utf8 utf8_mem_titles).occurs_of_ending head capital
      (utf8_apart plural found) occurs
  · rwa [same]

theorem utf8_occurs_fixAbbreviation (occurs : Occurs utf8 text) :
    Occurs utf8 (fixAbbreviation text) := by
  obtain ⟨before, after, rfl, ends⟩ := occurs
  obtain ⟨start, rest, whole, -, later⟩ := exists_of_forall₂_append forall₂_fixAbbreviation
  obtain ⟨same, last, rfl, kept, later⟩ := exists_of_forall₂_append later
  have plain : 'p' ∉ utf8 := by decide
  rw [eq_of_forall₂ plain kept] at whole
  refine ⟨start, last, whole, fun c member => ?_⟩
  cases later with
  | nil => cases member
  | cons raised _ =>
    obtain rfl := Option.some.inj member
    rcases raised with rfl | ⟨rfl, -⟩
    · exact ends _ rfl
    · exact absurd (ends 'p' rfl) (by decide)

end Fixes

end Bindings.Name
