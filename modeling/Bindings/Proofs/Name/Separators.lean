import Bindings.Name.Literal
import Bindings.Name.Parameter
import Bindings.Proofs.Name.Alphabets
import Bindings.Proofs.Text.Pieces

/-! No identifier holds a separator.

Words are cut at separators, and no later stage brings one in: the case mappings of
Unicode lead to none, and all other text that is inserted is made of letters.
-/

set_option autoImplicit false

namespace Bindings.Name

open Unicode

def Solid (text : List Char) : Prop := ∀ c ∈ text, isSeparator c = false

instance : DecidablePred Solid := List.decidableBAll (isSeparator · = false)

theorem solid_nil : Solid [] := fun _ member => nomatch member

theorem solid_append {first second : List Char} :
    Solid (first ++ second) ↔ Solid first ∧ Solid second := by
  simp only [Solid, List.mem_append, or_imp, forall_and]

theorem solid_cons {c : Char} {text : List Char} :
    Solid (c :: text) ↔ isSeparator c = false ∧ Solid text := by
  simp only [Solid, List.mem_cons, or_imp, forall_and, forall_eq]

theorem solid_flatMap {α : Type} {xs : List α} {f : α → List Char} (each : ∀ x ∈ xs, Solid (f x)) :
    Solid (xs.flatMap f) := by
  intro c member
  obtain ⟨x, found, inside⟩ := List.mem_flatMap.1 member
  exact each x found c inside

theorem Solid.subset {first second : List Char} (solid : Solid second) (sub : first ⊆ second) :
    Solid first :=
  fun c member => solid c (sub member)

section CaseMapping

theorem isSeparator_eq_false_of_lt {c : Char} (above : 0x5f < c.toNat) : isSeparator c = false := by
  simp only [isSeparator, Bool.or_eq_false_iff, beq_eq_false_iff_ne]
  refine ⟨⟨⟨?_, ?_⟩, ?_⟩, ?_⟩ <;> (rintro rfl; simp at above)

theorem isSeparator_ofNat {n : Nat} (above : 0x5f < n) : isSeparator (Char.ofNat n) = false := by
  by_cases valid : n.isValidChar
  · apply isSeparator_eq_false_of_lt
    have same : (Char.ofNat n).toNat = n := by
      rw [Char.ofNat, dif_pos valid]
      rfl
    rw [same]
    exact above
  · -- What is no code point is read as the zero character.
    rw [Char.ofNat, dif_neg valid]
    decide

/-- A run that leads above the separators, or maps a single character to something else. -/
def CaseRun.Clear (run : CaseRun) : Prop :=
  0x5f < run.target ∨
    run.source.first = run.source.last ∧ isSeparator (Char.ofNat run.target) = false

instance (run : CaseRun) : Decidable (CaseRun.Clear run) := instDecidableOr

theorem clear_upperRuns : ∀ run ∈ upperRuns, CaseRun.Clear run := by decide +kernel

theorem clear_lowerRuns : ∀ run ∈ lowerRuns, CaseRun.Clear run := by decide +kernel

theorem solid_upperExpansions :
    ∀ entry ∈ upperExpansions, ∀ n ∈ entry.2, isSeparator (Char.ofNat n) = false := by
  decide

theorem solid_lowerExpansions :
    ∀ entry ∈ lowerExpansions, ∀ n ∈ entry.2, isSeparator (Char.ofNat n) = false := by
  decide

theorem CaseRun.Clear.image {run : CaseRun} {c d : Char} (clear : CaseRun.Clear run)
    (h : run.image? c = some d) : isSeparator d = false := by
  rw [CaseRun.image?] at h
  split at h
  · next covered =>
    cases h
    simp only [Span.contains, Bool.and_eq_true, decide_eq_true_eq] at covered
    rcases clear with above | ⟨single, other⟩
    · exact isSeparator_ofNat (by omega)
    · -- The one character of the run is its first.
      have same : c.toNat - run.source.first = 0 := by omega
      rwa [same, Nat.add_zero]
  · cases h

theorem solid_upper {c : Char} (plain : isSeparator c = false) : Solid (upper c) :=
  forall_cased (by decide) solid_upperExpansions
    (fun run member _ _ maps => (clear_upperRuns run member).image maps) plain

theorem solid_lower {c : Char} (plain : isSeparator c = false) : Solid (lower c) :=
  forall_cased (by decide) solid_lowerExpansions
    (fun run member _ _ maps => (clear_lowerRuns run member).image maps) plain

theorem solid_lowercaseAfter {before text : List Char} (solid : Solid text) :
    Solid (lowercaseAfter before text) := by
  induction text generalizing before with
  | nil => exact solid_nil
  | cons c rest ih =>
    obtain ⟨plain, others⟩ := solid_cons.1 solid
    refine solid_append.2 ⟨?_, ih others⟩
    split
    · split <;> exact solid_cons.2 ⟨by decide, solid_nil⟩
    · exact solid_lower plain

theorem solid_lowercase {text : List Char} (solid : Solid text) : Solid (lowercase text) :=
  solid_lowercaseAfter solid

end CaseMapping

section Words

theorem solid_of_mem_words {raw word : List Char} (member : word ∈ words raw) : Solid word := by
  obtain ⟨piece, found, inside⟩ := List.mem_flatMap.1 member
  exact Solid.subset (Text.forall_of_mem_splitWhere (List.mem_filter.1 found).1)
    (subset_of_mem_segment inside)

/-- Without separators a text is cut inside only. -/
theorem words_of_solid {text : List Char} (solid : Solid text) : words text = segment text := by
  rw [words, Text.fields_of_forall solid]
  split
  · next nothing =>
    rw [nothing]
    rfl
  · rw [List.flatMap_cons, List.flatMap_nil, List.append_nil]

theorem alphabet_solid : Alphabet (isSeparator · = false) where
  letter c letter := by
    simp only [isSeparator, Bool.or_eq_false_iff, beq_eq_false_iff_ne]
    refine ⟨⟨⟨?_, ?_⟩, ?_⟩, ?_⟩ <;> (rintro rfl; exact absurd letter (by decide))
  upper _ plain := solid_upper plain

theorem solid_exportedChars (raw : List Char) : Solid (exportedChars raw) :=
  alphabet_solid.exportedChars fun _ member => solid_of_mem_words member

theorem solid_unexportedChars {ident : List Char} (solid : Solid ident) :
    Solid (unexportedChars ident) := by
  rw [unexportedChars]
  split
  · next size _ =>
    exact solid_append.2 ⟨solid_lowercase (solid.subset (List.take_subset size ident)),
      solid.subset (List.drop_subset size ident)⟩
  · split
    · exact solid_nil
    · next first others cut =>
      have parts : ∀ word ∈ first :: others, Solid word :=
        fun word member => solid_of_mem_words (cut ▸ member)
      refine solid_append.2 ⟨solid_lowercase (parts first List.mem_cons_self), ?_⟩
      intro c member
      obtain ⟨word, found, inside⟩ := List.mem_flatten.1 member
      exact parts word (List.mem_cons_of_mem first found) c inside

theorem solid_parameterChars (raw : List Char) : Solid (parameterChars raw) := by
  have name := solid_unexportedChars (solid_exportedChars raw)
  rw [parameterChars]
  split
  · refine solid_append.2 ⟨name, ?_⟩
    decide
  · exact name

theorem solid_literalChars (value : List Char) : Solid (literalChars value) := by
  rw [literalChars]
  split
  · decide
  · split
    · decide
    · dsimp only
      split
      · decide
      · exact solid_flatMap fun _ _ => solid_exportedChars _

end Words

def SolidName (ident : String) : Prop := Solid ident.toList

instance : DecidablePred SolidName := fun ident => inferInstanceAs (Decidable (Solid ident.toList))

theorem solidName_append {first second : String} :
    SolidName (first ++ second) ↔ SolidName first ∧ SolidName second := by
  rw [SolidName, String.toList_append, solid_append]
  rfl

theorem solidName_exported (raw : String) : SolidName (exported raw) := by
  rw [SolidName, exported, String.toList_ofList]
  exact solid_exportedChars raw.toList

theorem solidName_parameter (raw : String) : SolidName (parameter raw) := by
  rw [SolidName, parameter, String.toList_ofList]
  exact solid_parameterChars raw.toList

theorem solidName_literal (value : String) : SolidName (literal value) := by
  rw [SolidName, literal, String.toList_ofList]
  exact solid_literalChars value.toList

theorem solidName_withoutDomain {domain type : String} (solid : SolidName type) :
    SolidName (withoutDomain domain type) := by
  rw [withoutDomain]
  split
  · next c rest after =>
    split
    · have cut : type.toList = domain.toList ++ c :: rest := Text.after?_eq_some.1 after
      rw [SolidName, cut, solid_append] at solid
      rw [SolidName, String.toList_ofList]
      exact solid.2
    · exact solid
  · exact solid

end Bindings.Name
