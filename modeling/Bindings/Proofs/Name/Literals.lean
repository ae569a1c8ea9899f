import Bindings.Name.Literal
import Bindings.Proofs.Name.Idempotence
import Bindings.Proofs.Name.Letters

/-! What the name of a literal keeps of it.

A literal is cut into runs of ASCII letters and digits, and each is exported on its own. That raises
letters and does nothing else, so that the runs are in the name as they follow each other.
-/

set_option autoImplicit false

namespace Bindings.Name

open Unicode

def alnums (value : List Char) : List Char := value.filter Char.isAlphanum

/-- A literal that has letters or digits and is not spelled out as a negative number. -/
structure Ordinary (value : String) : Prop where
  infinity : value ≠ "-Infinity"
  zero : value ≠ "-0"
  given : ∃ c ∈ value.toList, c.isAlphanum = true

section
variable {value run : List Char}

/-- The runs of a literal, one after the other, are its letters and digits. -/
theorem flatten_fields_alnum (value : List Char) :
    (Text.fields (fun c => !c.isAlphanum) value).flatten = alnums value := by
  simp only [Text.flatten_fields, Bool.not_not]
  rfl

theorem alnum_of_mem_fields (member : run ∈ Text.fields (fun c => !c.isAlphanum) value) :
    AlnumText run := by
  intro c inside
  simpa using Text.forall_of_mem_splitWhere (List.mem_filter.1 member).1 c inside

/-- Together the runs are only raised. -/
theorem raises_flatMap_fields (value : List Char) :
    Raises (alnums value)
      ((Text.fields (fun c => !c.isAlphanum) value).flatMap exportedChars) := by
  rw [← flatten_fields_alnum]
  refine raises_flatMap fun run member => ?_
  have alnum := alnum_of_mem_fields member
  have raises := raises_exportedChars fun c inside => .inl (alnum c inside)
  rwa [words_of_solid (solid_of_alnum alnum), flatten_segment] at raises

theorem alnum_alnums (value : List Char) : AlnumText (alnums value) :=
  fun _ member => (List.mem_filter.1 member).2

/-- The two literals that are spelled out, those without letters and digits, and all others. -/
theorem literalChars_cases (value : List Char) :
    value = "-Infinity".toList ∧ literalChars value = "NegativeInfinity".toList ∨
      value = "-0".toList ∧ literalChars value = "NegativeZero".toList ∨
      alnums value = [] ∧ literalChars value = "Empty".toList ∨
      alnums value ≠ [] ∧ Raises (alnums value) (literalChars value) := by
  have raises := raises_flatMap_fields value
  rw [literalChars]
  split
  · next infinity => exact .inl ⟨infinity, rfl⟩
  split
  · next zero => exact .inr (.inl ⟨zero, rfl⟩)
  dsimp only
  split
  · next nothing =>
    rw [List.isEmpty_iff.1 nothing] at raises
    exact .inr (.inr (.inl ⟨List.forall₂_nil_right_iff.1 raises, rfl⟩))
  · next given =>
    refine .inr (.inr (.inr ⟨fun nothing => given ?_, raises⟩))
    rw [nothing] at raises
    rw [List.forall₂_nil_left_iff.1 raises]
    rfl

theorem literalChars_ne_nil (value : List Char) : literalChars value ≠ [] := by
  rcases literalChars_cases value with ⟨-, same⟩ | ⟨-, same⟩ | ⟨-, same⟩ | ⟨given, raises⟩
  · simp [same]
  · simp [same]
  · simp [same]
  · intro nothing
    rw [nothing] at raises
    exact given (List.forall₂_nil_right_iff.1 raises)

theorem alnum_literalChars (value : List Char) : AlnumText (literalChars value) := by
  rcases literalChars_cases value with ⟨-, same⟩ | ⟨-, same⟩ | ⟨-, same⟩ | ⟨-, raises⟩
  · rw [same]
    decide
  · rw [same]
    decide
  · rw [same]
    decide
  · exact raises.alnum (alnum_alnums value)

end

theorem Ordinary.alnums_ne_nil {value : String} (ordinary : Ordinary value) :
    alnums value.toList ≠ [] := by
  obtain ⟨c, member, alnum⟩ := ordinary.given
  exact List.ne_nil_of_mem (List.mem_filter.2 ⟨member, alnum⟩)

theorem Ordinary.lowercase_literal {value : String} (ordinary : Ordinary value) :
    lowercase (literal value).toList = lowercase (alnums value.toList) := by
  rw [literal, String.toList_ofList, lowercase_of_ascii (alnum_literalChars _).ascii,
    lowercase_of_ascii (alnum_alnums _).ascii]
  rcases literalChars_cases value.toList with ⟨same, -⟩ | ⟨same, -⟩ | ⟨nothing, -⟩ | ⟨-, raises⟩
  · exact absurd (String.toList_inj.1 same) ordinary.infinity
  · exact absurd (String.toList_inj.1 same) ordinary.zero
  · exact absurd nothing ordinary.alnums_ne_nil
  · exact raises.map_toLower

/-- The name of a literal is never empty and made of ASCII letters and digits. But for two negative numbers
and literals without any, they are those of the literal, in its order and in whatever case, so that
literals of one name have the same letters and digits. -/
theorem literal_keeps (value : String) :
    literal value ≠ "" ∧ (∀ c ∈ (literal value).toList, c.isAlphanum = true) ∧
      (Ordinary value → lowercase (literal value).toList = lowercase (alnums value.toList)) ∧
      ((∀ c ∈ value.toList, c.isAlphanum = false) → literal value = "Empty") ∧
      ∀ other, Ordinary value → Ordinary other → literal value = literal other →
        lowercase (alnums value.toList) = lowercase (alnums other.toList) := by
  refine ⟨?_, ?_, Ordinary.lowercase_literal, ?_, fun other left right same => ?_⟩
  · intro empty
    rw [← String.toList_inj, literal, String.toList_ofList] at empty
    exact literalChars_ne_nil value.toList empty
  · rw [literal, String.toList_ofList]
    exact alnum_literalChars value.toList
  · intro none_
    have nothing : alnums value.toList = [] :=
      List.filter_eq_nil_iff.2 fun c member => by simp [none_ c member]
    rcases literalChars_cases value.toList with ⟨same, -⟩ | ⟨same, -⟩ | ⟨-, same⟩ | ⟨given, -⟩
    · rw [same] at nothing
      exact absurd nothing (by decide)
    · rw [same] at nothing
      exact absurd nothing (by decide)
    · rw [literal, same, String.ofList_toList]
    · exact absurd nothing given
  · rw [← left.lowercase_literal, ← right.lowercase_literal, same]

theorem literal_keeps_ids :
    Ordinary "über-node_ids" ∧ literal "über-node_ids" = "BerNodeIDs" ∧
      lowercase "BerNodeIDs".toList = lowercase (alnums "über-node_ids".toList) := by
  have ordinary : Ordinary "über-node_ids" := ⟨by decide, by decide, 'b', by decide, by decide⟩
  obtain ⟨-, -, kept, -⟩ := literal_keeps "über-node_ids"
  have named : literal "über-node_ids" = "BerNodeIDs" := by decide +kernel
  exact ⟨ordinary, named, named ▸ kept ordinary⟩

end Bindings.Name
