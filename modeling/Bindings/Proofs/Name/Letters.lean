import Bindings.Go.NameScope
import Bindings.Proofs.Name.Raising

/-! What an exported identifier keeps of its name.

The words of a name are all of it but the separators, and the steps that follow only put letters in
capitals. So names with one identifier differ in nothing else.
-/

set_option autoImplicit false

namespace Bindings

namespace Name

open Go (NameScope)
open Unicode

/-- A name without its separators, in small letters. -/
def letters (raw : List Char) : List Char := lowercase (raw.filter fun c => !isSeparator c)

section
variable {raw first second : List Char}

/-- The words of a name are the name without its separators. -/
theorem flatten_words_eq_filter (raw : List Char) :
    (words raw).flatten = raw.filter fun c => !isSeparator c := by
  have joined : ((Text.fields isSeparator raw).map segment).map List.flatten =
      Text.fields isSeparator raw := by
    simp only [List.map_map, Function.comp_def, flatten_segment, List.map_id']
  rw [words, List.flatMap_def, List.flatten_flatten, joined, Text.flatten_fields]

theorem Raises.ascii (raises : Raises first second) (ascii : AsciiText first) :
    AsciiText second := by
  induction raises with
  | nil => exact ascii
  | cons same _ ih =>
    obtain ⟨now, later⟩ := List.forall_mem_cons.1 ascii
    refine List.forall_mem_cons.2 ⟨?_, ih later⟩
    rcases same with rfl | rfl
    · exact now
    · exact of_isAscii (P := fun c => isAscii c.toUpper = true) (by decide) now

/-- Capitals are all that is lost with the case. -/
theorem Raises.map_toLower (raises : Raises first second) :
    second.map Char.toLower = first.map Char.toLower := by
  induction raises with
  | nil => rfl
  | cons same _ ih =>
    rw [List.map_cons, List.map_cons, ih]
    rcases same with rfl | rfl
    · rfl
    · rw [Char.toLower_toUpper_eq_toLower]

theorem raises_exportedChars_of_ascii (ascii : AsciiText raw) :
    Raises (words raw).flatten (exportedChars raw) := by
  have spelled : Raises (words raw).flatten ((words raw).flatMap spellWord) := by
    refine raises_flatMap fun word member => raises_spellWord fun c inside => ?_
    have kept : c ∈ (words raw).flatten := List.mem_flatten.2 ⟨word, member, inside⟩
    rw [flatten_words_eq_filter] at kept
    exact ascii c (List.mem_filter.1 kept).1
  exact (spelled.trans (raises_fixPlural _)).trans (raises_fixAbbreviation _)

/-- In small letters, an identifier is its name without the separators. -/
theorem lowercase_exportedChars (ascii : AsciiText raw) :
    lowercase (exportedChars raw) = letters raw := by
  have raises := raises_exportedChars_of_ascii ascii
  rw [flatten_words_eq_filter] at raises
  have kept : AsciiText (raw.filter fun c => !isSeparator c) :=
    ascii.subset (List.filter_subset_self raw)
  rw [letters, lowercase_of_ascii (raises.ascii kept), lowercase_of_ascii kept,
    raises.map_toLower]

theorem exportedChars_eq_nil_iff (ascii : AsciiText raw) :
    exportedChars raw = [] ↔ ∀ c ∈ raw, isSeparator c = true := by
  have same := (raises_exportedChars_of_ascii ascii).length_eq
  rw [flatten_words_eq_filter] at same
  rw [← List.length_eq_zero_iff, ← same, List.length_eq_zero_iff, List.filter_eq_nil_iff]
  simp

end

/-- Names that can not both be declared in a scope have one identifier. -/
theorem exported_eq_of_declareAll {raw other scope : String} {error : Error}
    (failed : NameScope.declareAll ⟨scope, []⟩ [exported raw, exported other] = .error error) :
    exported raw = exported other := by
  by_contra distinct
  have declared : NameScope.declareAll ⟨scope, []⟩ [exported raw, exported other] =
      .ok ⟨scope, [exported other, exported raw]⟩ := by
    simp [NameScope.declareAll, NameScope.declare, NameScope.contains, Ne.symm distinct, bind,
      Except.bind, pure, Except.pure]
  rw [declared] at failed
  cases failed

/-- An ASCII name is exported to an identifier with the letters of the name, in whatever case, and no
separators; there are none only if the name is all separators. Two names with one identifier, which can
not both be declared in a scope, have the same letters. -/
theorem letters_exported (raw : String) (ascii : AsciiText raw.toList) :
    lowercase (exported raw).toList = letters raw.toList ∧
      (∀ c ∈ (exported raw).toList, isSeparator c = false) ∧
      (exported raw = "" ↔ ∀ c ∈ raw.toList, isSeparator c = true) ∧
      ∀ other : String, AsciiText other.toList →
        (exported raw = exported other → letters raw.toList = letters other.toList) ∧
        ∀ scope error, NameScope.declareAll ⟨scope, []⟩ [exported raw, exported other] =
          .error error → letters raw.toList = letters other.toList := by
  have kept : ∀ name : String, AsciiText name.toList →
      lowercase (exported name).toList = letters name.toList := by
    intro name ascii
    rw [exported, String.toList_ofList, lowercase_exportedChars ascii]
  refine ⟨kept raw ascii, solidName_exported raw, ?_, fun other also => ?_⟩
  · rw [← String.toList_inj, exported, String.toList_ofList]
    exact exportedChars_eq_nil_iff ascii
  · have agree : exported raw = exported other → letters raw.toList = letters other.toList := by
      intro same
      rw [← kept raw ascii, ← kept other also, same]
    exact ⟨agree, fun scope error failed => agree (exported_eq_of_declareAll failed)⟩

theorem letters_exported_xpath :
    AsciiText "xpath-node_ids".toList ∧
      exported "xpath-node_ids" = exported "XPath Node.Ids" ∧
      lowercase (exported "xpath-node_ids").toList = letters "xpath-node_ids".toList ∧
      letters "xpath-node_ids".toList = letters "XPath Node.Ids".toList := by
  have ascii : AsciiText "xpath-node_ids".toList := by decide
  have same : exported "xpath-node_ids" = exported "XPath Node.Ids" := by decide +kernel
  obtain ⟨kept, -, -, agree⟩ := letters_exported "xpath-node_ids" ascii
  exact ⟨ascii, same, kept, (agree "XPath Node.Ids" (by decide)).1 same⟩

end Name

end Bindings
