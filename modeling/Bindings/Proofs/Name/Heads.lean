import Bindings.Proofs.Name.Raising
import Bindings.Proofs.Name.Segments
import Bindings.Protocol.Names

/-! No identifier of a type begins with a small ASCII letter.

The first character of an identifier is put in capitals, and whatever the case mappings of Unicode
lead to, it is no such letter. Where the name of the domain is taken off, a capital comes first.
-/

set_option autoImplicit false

namespace Bindings

namespace Unicode

/-- A run that leads above the small ASCII letters or ends below them. -/
def CaseRun.Capital (run : CaseRun) : Prop :=
  0x7a < run.target ∨ run.target + (run.source.last - run.source.first) < 0x61

instance (run : CaseRun) : Decidable (CaseRun.Capital run) := instDecidableOr

theorem capital_upperRuns : ∀ run ∈ upperRuns, CaseRun.Capital run := by decide +kernel

theorem capital_upperExpansions : ∀ entry ∈ upperExpansions, entry.2 ≠ [] ∧
    ∀ n ∈ entry.2, (Char.ofNat n).isLower = false := by
  decide

theorem isLower_iff {c : Char} : c.isLower = true ↔ 0x61 ≤ c.toNat ∧ c.toNat ≤ 0x7a := by
  simp only [Char.isLower, Bool.and_eq_true, decide_eq_true_eq, ge_iff_le, UInt32.le_iff_toNat_le]
  rfl

theorem isLower_ofNat {n : Nat} (other : n < 0x61 ∨ 0x7a < n) : (Char.ofNat n).isLower = false := by
  rw [← Bool.not_eq_true, isLower_iff, Char.toNat_ofNat]
  split <;> omega

theorem CaseRun.Capital.image {run : CaseRun} {c d : Char} (capital : CaseRun.Capital run)
    (h : run.image? c = some d) : d.isLower = false := by
  rw [CaseRun.image?] at h
  split at h
  · next covered =>
    cases h
    simp only [Span.contains, Bool.and_eq_true, decide_eq_true_eq] at covered
    rcases capital with above | below
    · exact isLower_ofNat (by omega)
    · exact isLower_ofNat (by omega)
  · cases h

theorem isLower_of_mem_upper {c d : Char} (member : d ∈ upper c) : d.isLower = false := by
  rw [upper] at member
  split at member
  · next ascii =>
    rw [List.mem_singleton.1 member]
    exact of_isAscii (P := fun c => c.toUpper.isLower = false) (by decide) ascii
  · next foreign =>
    have plain : c.isLower = false := by
      rw [← Bool.not_eq_true, isLower_iff]
      simp only [isAscii, decide_eq_true_eq] at foreign
      omega
    exact forall_mapCase (P := (·.isLower = false))
      (fun entry inside => (capital_upperExpansions entry inside).2)
      (fun run inside _ _ maps => (capital_upperRuns run inside).image maps) plain d member

theorem upper_ne_nil (c : Char) : upper c ≠ [] := by
  rw [upper, mapCase]
  split
  · exact List.cons_ne_nil _ _
  · split
    · next entry found =>
      have given := (capital_upperExpansions entry (List.mem_of_find?_eq_some found)).1
      exact fun none_ => given (List.map_eq_nil_iff.1 none_)
    · exact List.cons_ne_nil _ _

/-- A capital is no small letter. -/
theorem isLower_of_isUppercase {c : Char} (capital : isUppercase c = true) : c.isLower = false := by
  by_cases ascii : isAscii c = true
  · rw [isUppercase_of_isAscii ascii] at capital
    exact of_isAscii (P := fun c => c.isUpper = true → c.isLower = false) (by decide) ascii capital
  · rw [← Bool.not_eq_true, isLower_iff]
    simp only [isAscii, decide_eq_true_eq] at ascii
    omega

end Unicode

namespace Name

open Unicode

def Capital (text : List Char) : Prop := ∀ c ∈ text.head?, c.isLower = false

instance : DecidablePred Capital := fun text => decidableForallLetter text.head?

theorem capital_upper_append (c : Char) (rest : List Char) : Capital (upper c ++ rest) := by
  intro d first
  rw [List.head?_append_of_ne_nil _ (upper_ne_nil c)] at first
  exact isLower_of_mem_upper (List.mem_of_mem_head? first)

theorem capital_spellWord {word : List Char} (given : word ≠ []) :
    spellWord word ≠ [] ∧ Capital (spellWord word) := by
  obtain ⟨c, rest, rfl⟩ := List.exists_cons_of_ne_nil given
  have begins : ∃ tail, spellWord (c :: rest) = upper c ++ tail := by
    rw [spellWord]
    split
    · exact ⟨uppercase rest, List.flatMap_cons⟩
    · exact ⟨rest, rfl⟩
  obtain ⟨tail, same⟩ := begins
  rw [same]
  exact ⟨List.append_ne_nil_of_left_ne_nil (upper_ne_nil c) tail, capital_upper_append c tail⟩

theorem capital_exportedChars (raw : List Char) : Capital (exportedChars raw) := by
  rw [Capital, exportedChars, head?_fixAbbreviation, head?_fixPlural]
  cases cut : words raw with
  | nil => exact fun _ member => nomatch member
  | cons word others =>
    have given : word ≠ [] := by
      have member : word ∈ words raw := cut ▸ List.mem_cons_self
      obtain ⟨piece, -, inside⟩ := List.mem_flatMap.1 member
      exact ne_nil_of_mem_segment inside
    obtain ⟨spelled, capital⟩ := capital_spellWord given
    rw [List.flatMap_cons, List.head?_append_of_ne_nil _ spelled]
    exact capital

theorem capital_exported (raw : String) : Capital (exported raw).toList := by
  rw [exported, String.toList_ofList]
  exact capital_exportedChars raw.toList

theorem capital_append {first second : List Char} (before : Capital first)
    (after : first = [] → Capital second) : Capital (first ++ second) := by
  cases first with
  | nil => exact after rfl
  | cons c rest => exact before

theorem capital_flatMap {α : Type} {f : α → List Char} {xs : List α}
    (each : ∀ x ∈ xs, Capital (f x)) : Capital (xs.flatMap f) := by
  induction xs with
  | nil => exact fun _ member => nomatch member
  | cons x xs ih =>
    obtain ⟨now, later⟩ := List.forall_mem_cons.1 each
    exact capital_append now fun _ => ih later

theorem capital_literal (value : String) : Capital (literal value).toList := by
  rw [literal, String.toList_ofList, literalChars]
  split
  · decide
  split
  · decide
  dsimp only
  split
  · decide
  · exact capital_flatMap fun piece _ => capital_exportedChars piece

theorem capital_withoutDomain {domain type : String} (capital : Capital type.toList) :
    Capital (withoutDomain domain type).toList := by
  rw [withoutDomain]
  split
  · next c rest after =>
    split
    · next starts =>
      rw [String.toList_ofList]
      intro d first
      rw [← Option.some.inj first]
      exact isLower_of_isUppercase starts
    · exact capital
  · exact capital

end Name

theorem TypeNode.capital_ident (node : TypeNode) (domain : String) :
    Name.Capital (node.ident domain).toList :=
  Name.capital_withoutDomain (Name.capital_exported _)

end Bindings
