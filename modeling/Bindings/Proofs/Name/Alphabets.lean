import Bindings.Name.Package
import Bindings.Proofs.Unicode.Ascii

/-! Alphabets that identifiers keep to.

An exported identifier is made from the words of its name: letters are put in capitals, and a few
spellings are corrected with ASCII letters. A set of characters that has both holds the identifier as
soon as it holds the words.
-/

set_option autoImplicit false

namespace Bindings

variable {P : Char → Prop}

theorem Unicode.forall_mapCase {expansions : List (Nat × List Nat)} {runs : List CaseRun}
    (expanded : ∀ entry ∈ expansions, ∀ n ∈ entry.2, P (Char.ofNat n))
    (mapped : ∀ run ∈ runs, ∀ c d, run.image? c = some d → P d) {c : Char} (plain : P c) :
    ∀ d ∈ mapCase expansions runs c, P d := by
  intro d member
  rw [mapCase] at member
  split at member
  · next entry found =>
    obtain ⟨n, inside, rfl⟩ := List.mem_map.1 member
    exact expanded entry (List.mem_of_find?_eq_some found) n inside
  · rw [List.mem_singleton.1 member]
    cases image : runs.findSome? fun run => run.image? c with
    | none => exact plain
    | some d =>
      obtain ⟨run, inside, maps⟩ := List.exists_of_findSome?_eq_some image
      exact mapped run inside c d maps

/-- A case mapping keeps a property that it keeps on ASCII, if its tables lead nowhere else. -/
theorem Unicode.forall_cased {shift : Char → Char} {expansions : List (Nat × List Nat)}
    {runs : List CaseRun}
    (shifted : ∀ n < 128, P (Char.ofNat n) → P (shift (Char.ofNat n)))
    (expanded : ∀ entry ∈ expansions, ∀ n ∈ entry.2, P (Char.ofNat n))
    (mapped : ∀ run ∈ runs, ∀ c d, run.image? c = some d → P d) {c : Char} (plain : P c) :
    ∀ d ∈ if isAscii c then [shift c] else mapCase expansions runs c, P d := by
  split
  · next ascii =>
    rw [List.forall_mem_singleton]
    exact of_isAscii (P := fun c => P c → P (shift c)) shifted ascii plain
  · exact forall_mapCase expanded mapped plain

namespace Name

/-- Characters that include all ASCII letters and, with a character, what it is in capitals. -/
structure Alphabet (P : Char → Prop) : Prop where
  letter : ∀ c, c.isAlpha = true → P c
  upper : ∀ c, P c → ∀ d ∈ Unicode.upper c, P d

namespace Alphabet

theorem uppercase (h : Alphabet P) {text : List Char} (holds : ∀ c ∈ text, P c) :
    ∀ c ∈ Unicode.uppercase text, P c := by
  intro d member
  obtain ⟨c, inside, image⟩ := List.mem_flatMap.1 member
  exact h.upper c (holds c inside) d image

theorem capitalized (h : Alphabet P) {text : List Char} (holds : ∀ c ∈ text, P c) :
    ∀ c ∈ Name.capitalized text, P c := by
  cases text with
  | nil => exact holds
  | cons c rest =>
    obtain ⟨first, others⟩ := List.forall_mem_cons.1 holds
    intro d member
    exact (List.mem_append.1 member).elim (h.upper c first d) (others d)

theorem spellWord (h : Alphabet P) {word : List Char} (holds : ∀ c ∈ word, P c) :
    ∀ c ∈ Name.spellWord word, P c := by
  rw [Name.spellWord]
  split
  · exact h.uppercase holds
  · exact h.capitalized holds

theorem isAlpha_plurals : ∀ plural ∈ plurals, ∀ c ∈ plural.2, c.isAlpha = true := by
  have letters : plurals.all fun plural => plural.2.all Char.isAlpha := by decide
  simpa only [List.all_eq_true] using letters

theorem fixPlural (h : Alphabet P) {ident : List Char} (holds : ∀ c ∈ ident, P c) :
    ∀ c ∈ Name.fixPlural ident, P c := by
  rw [Name.fixPlural]
  cases found : plurals.findSome? fun plural =>
      (Text.before? plural.1 ident).map fun stem => stem ++ plural.2 with
  | none => exact holds
  | some spelled =>
    obtain ⟨plural, inside, spells⟩ := List.exists_of_findSome?_eq_some found
    obtain ⟨stem, before, rfl⟩ := Option.map_eq_some_iff.1 spells
    rw [Text.before?_eq_some.1 before] at holds
    intro c member
    rcases List.mem_append.1 member with kept | added
    · exact holds c (List.mem_append_left _ kept)
    · exact h.letter c (isAlpha_plurals plural inside c added)

theorem fixAbbreviation (h : Alphabet P) {ident : List Char} (holds : ∀ c ∈ ident, P c) :
    ∀ c ∈ Name.fixAbbreviation ident, P c := by
  fun_induction Name.fixAbbreviation ident with
  | case1 rest ih =>
    simp only [List.forall_mem_cons] at holds ⊢
    obtain ⟨x, -, a, t, h', others⟩ := holds
    exact ⟨x, h.letter 'P' (by decide), a, t, h', ih others⟩
  | case2 c rest _ ih =>
    obtain ⟨first, others⟩ := List.forall_mem_cons.1 holds
    exact List.forall_mem_cons.2 ⟨first, ih others⟩
  | case3 => exact holds

theorem exportedChars (h : Alphabet P) {raw : List Char}
    (holds : ∀ word ∈ words raw, ∀ c ∈ word, P c) : ∀ c ∈ Name.exportedChars raw, P c := by
  refine h.fixAbbreviation (h.fixPlural fun c member => ?_)
  obtain ⟨word, found, inside⟩ := List.mem_flatMap.1 member
  exact h.spellWord (holds word found) c inside

end Alphabet

/-- A word holds characters of its text only. -/
theorem subset_of_mem_segment {text word : List Char} (member : word ∈ segment text) :
    word ⊆ text := by
  intro c inside
  rw [← flatten_segment text]
  exact List.mem_flatten.2 ⟨word, member, inside⟩

end Name

end Bindings
