import Bindings.Proofs.Resolution.Redirects
import Bindings.Resolution.Exemptions

/-! What the registry of exempt types holds.

The registry is a set of texts, `Domain.Type` each. A type is looked up by such a text again, so that
its domain and name have to be recovered from where the text is divided.
-/

set_option autoImplicit false

namespace Bindings

namespace Exemptions

variable {exemptions before after : Exemptions} {name : String}

theorem mem_insert {other : String} :
    name ∈ (before.insert other).names ↔ name = other ∨ name ∈ before.names :=
  mem_insertSorted

def Adds (domain name : String) (type : TypeNode) : Prop :=
  ∃ id shape, type.id = some id ∧ type.shape domain = .ok shape ∧ shape.isNullable = true ∧
    name = domain ++ "." ++ id

theorem mem_addType {domain : String} {type : TypeNode}
    (h : addType domain before type = .ok after) :
    name ∈ after.names ↔ name ∈ before.names ∨ Adds domain name type := by
  rw [addType] at h
  cases declared : type.id with
  | none =>
    rw [declared] at h
    cases h
    simp [Adds, declared]
  | some id =>
    rw [declared] at h
    obtain ⟨shape, shaped, rest⟩ := bind_eq_ok.1 h
    cases pure_eq_ok.1 rest
    cases nullable : shape.isNullable
    · simp [Adds, declared, shaped, nullable]
    · simp [Adds, declared, shaped, nullable, mem_insert, or_comm]

theorem mem_addTypes {domain : Domain} (h : addTypes before domain = .ok after) :
    name ∈ after.names ↔ name ∈ before.names ∨ ∃ type ∈ domain.types, Adds domain.name name type :=
  foldlM_collects (P := fun exemptions : Exemptions => name ∈ exemptions.names) mem_addType h

theorem mem_insertAll (names : List String) :
    name ∈ (names.foldl insert before).names ↔ name ∈ names ∨ name ∈ before.names := by
  induction names generalizing before with
  | nil => simp
  | cons first names ih =>
    rw [List.foldl_cons, ih, mem_insert, List.mem_cons]
    exact or_left_comm.trans or_assoc.symm

/-- The registry holds the targets of the table of shared types, and the declared types whose zero
value reads as absent. -/
theorem mem_ofProtocol {protocol : Protocol} (h : ofProtocol protocol = .ok exemptions) :
    name ∈ exemptions.names ↔ name ∈ sharedTargets ∨
      ∃ domain ∈ protocol.domains, ∃ type ∈ domain.types, Adds domain.name name type := by
  obtain ⟨declared, added, rest⟩ := bind_eq_ok.1 h
  cases pure_eq_ok.1 rest
  have each : name ∈ declared.names ↔ name ∈ ([] : List String) ∨
      ∃ domain ∈ protocol.domains, ∃ type ∈ domain.types, Adds domain.name name type :=
    foldlM_collects (P := fun exemptions : Exemptions => name ∈ exemptions.names)
      mem_addTypes added
  rw [mem_insertAll, each]
  simp

/-- A reference leads to the shared package only where its target is in the table. -/
theorem mem_sharedTargets_of_shared {raw owner : String} {reference : Reference}
    (resolved : Reference.resolve raw owner = .ok reference) (shared : reference.scope = .shared) :
    reference.qualified ∈ sharedTargets := by
  obtain ⟨-, -, -, located⟩ := Reference.resolve_eq_ok.1 resolved
  generalize Reference.parts raw owner = halves at located
  obtain ⟨domain, name⟩ := halves
  rcases Reference.locate_cases domain name owner with
    ⟨-, found⟩ | ⟨-, entry, redirected, found⟩ | ⟨-, -, found⟩
  · rw [located, found] at shared
    cases shared
  · have member := List.mem_of_find?_eq_some redirected
    have matched := List.find?_some redirected
    simp only [Bool.and_eq_true, beq_iff_eq] at matched
    rw [located, found, Reference.qualified, ← matched.2]
    exact List.mem_mergeSort.2 (List.mem_map_of_mem member)
  · rw [located, found] at shared
    cases shared

theorem point_notMem_name {raw owner : String} {reference : Reference}
    (resolved : Reference.resolve raw owner = .ok reference) : '.' ∉ reference.name.toList := by
  have halves := (Reference.resolve_cases resolved).1
  have undivided := (Reference.resolve_eq_ok.1 resolved).2.2.1
  rwa [halves] at undivided

/-- A full name is divided at its only point. -/
theorem qualified_eq_iff {reference : Reference} (plain : '.' ∉ reference.domain.toList)
    (undivided : '.' ∉ reference.name.toList) {domain id : String} :
    reference.qualified = domain ++ "." ++ id ↔
      reference.domain = domain ∧ reference.name = id := by
  constructor
  · intro spelled
    have same : reference.domain.toList ++ '.' :: reference.name.toList =
        domain.toList ++ '.' :: id.toList := by
      simpa [Reference.qualified] using congrArg String.toList spelled
    -- Nothing is known of the other two halves; it is enough that these two have no point.
    obtain ⟨sameDomain, -, sameName⟩ := (List.append_cons_inj_of_notMem plain undivided).1 same
    exact ⟨String.toList_inj.1 sameDomain, String.toList_inj.1 sameName⟩
  · rintro ⟨rfl, rfl⟩
    rfl

/-- Where no point stands in the name of the domain, an exempt reference is one whose target is
exempt: its name is divided like that of the target. -/
theorem covers_iff {protocol : Protocol} {raw owner : String} {reference : Reference}
    (h : ofProtocol protocol = .ok exemptions)
    (resolved : Reference.resolve raw owner = .ok reference)
    (plain : '.' ∉ reference.domain.toList) :
    exemptions.covers reference = true ↔ reference.qualified ∈ sharedTargets ∨
      ∃ domain ∈ protocol.domains, domain.name = reference.domain ∧
        ∃ type ∈ domain.types, type.id = some reference.name ∧
          ∃ shape, type.shape reference.domain = .ok shape ∧ shape.isNullable = true := by
  have contained : exemptions.covers reference = true ↔
      reference.qualified ∈ exemptions.names := by
    rw [covers, Bool.or_eq_true, beq_iff_eq, contains, List.contains_iff_mem]
    refine or_iff_right_of_imp fun shared => ?_
    exact (mem_ofProtocol h).2 (.inl (mem_sharedTargets_of_shared resolved shared))
  rw [contained, mem_ofProtocol h]
  refine or_congr_right (exists_congr fun domain => and_congr_right fun _ => ?_)
  simp only [Adds, qualified_eq_iff plain (point_notMem_name resolved)]
  constructor
  · rintro ⟨type, member, id, shape, declared, shaped, nullable, same, rfl⟩
    exact ⟨same.symm, type, member, declared, shape, same ▸ shaped, nullable⟩
  · rintro ⟨same, type, member, declared, shape, shaped, nullable⟩
    exact ⟨type, member, reference.name, shape, declared, same ▸ shaped, nullable, same.symm, rfl⟩

end Exemptions

end Bindings
