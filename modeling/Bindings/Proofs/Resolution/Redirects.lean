import Bindings.Proofs.Resolution.Targets
import Mathlib.Data.List.Basic

/-! Redirected references meet the shared definitions.

The use of a shared type looks a full reference up, its declaration a domain and a type name. Both
find the same identifier, since a point divides the names of a shared type in one way only.
-/

set_option autoImplicit false

namespace Bindings

/-- Every shared type is found by its domain and name, and these have no points. -/
theorem sharedTypes_found : ∀ shared ∈ sharedTypes,
    sharedIdent? shared.domain shared.type = some shared.ident ∧
      '.' ∉ shared.domain.toList ∧ '.' ∉ shared.type.toList := by
  decide

/-- A reference in the table is divided by its only point, however it is spelled. -/
theorem sharedIdent?_of_reference {shared : SharedType} (member : shared ∈ sharedTypes)
    {domain name : String} (same : shared.reference = domain ++ "." ++ name) :
    sharedIdent? domain name = some shared.ident := by
  obtain ⟨found, plainDomain, plainType⟩ := sharedTypes_found shared member
  have spelled : shared.domain.toList ++ '.' :: shared.type.toList =
      domain.toList ++ '.' :: name.toList := by
    simpa [SharedType.reference] using congrArg String.toList same
  obtain ⟨sameDomain, -, sameName⟩ :=
    (List.append_cons_inj_of_notMem plainDomain plainType).1 spelled
  rw [← String.toList_inj.1 sameDomain, ← String.toList_inj.1 sameName]
  exact found

theorem sharedIdent?_of_sharedFor? {consumer domain name : String} {shared : SharedType}
    (h : sharedFor? consumer (domain ++ "." ++ name) = some shared) :
    sharedIdent? domain name = some shared.ident := by
  have matched := List.find?_some h
  simp only [Bool.and_eq_true, beq_iff_eq] at matched
  exact sharedIdent?_of_reference (List.mem_of_find?_eq_some h) matched.2

/-- A target of the table is a shared type of its domain. -/
theorem exists_sharedIdent?_of_mem {domain name : String}
    (member : domain ++ "." ++ name ∈ sharedTargets) :
    ∃ ident, sharedIdent? domain name = some ident := by
  obtain ⟨shared, inside, same⟩ := List.mem_map.1 (List.mem_mergeSort.1 member)
  exact ⟨shared.ident, sharedIdent?_of_reference inside same⟩

/-- Where a reference that resolves leads, as its target is declared: in the domain itself, in the
shared package, or in the package of another domain. -/
theorem Reference.resolve_cases {raw owner : String} {reference : Reference}
    (resolved : Reference.resolve raw owner = .ok reference) :
    parts raw owner = (reference.domain, reference.name) ∧
    ((reference.domain = owner ∧ reference.scope = .own ∧
        reference.ident = Name.withoutDomain (Name.exported owner) (Name.exported reference.name)) ∨
      (reference.domain ≠ owner ∧ reference.scope = .shared ∧
        sharedIdent? reference.domain reference.name = some reference.ident) ∨
      (reference.domain ≠ owner ∧ reference.scope = .package (Name.package reference.domain) ∧
        reference.ident =
          Name.withoutDomain (Name.exported reference.domain) (Name.exported reference.name))) := by
  obtain ⟨-, -, -, located⟩ := resolve_eq_ok.1 resolved
  -- How the halves were found no longer matters.
  generalize parts raw owner = halves at located ⊢
  obtain ⟨domain, name⟩ := halves
  rcases locate_cases domain name owner with
    ⟨same, found⟩ | ⟨other, shared, redirected, found⟩ | ⟨other, -, found⟩
  · subst same
    rw [located, found]
    dsimp only
    exact ⟨rfl, .inl ⟨rfl, rfl, rfl⟩⟩
  · rw [located, found]
    dsimp only
    exact ⟨rfl, .inr (.inl ⟨other, rfl, sharedIdent?_of_sharedFor? redirected⟩)⟩
  · rw [located, found]
    dsimp only
    exact ⟨rfl, .inr (.inr ⟨other, rfl, rfl⟩)⟩

/-- A package in which a type is found is that of the domain of the type. -/
theorem Reference.package_of_resolve {raw owner package : String} {reference : Reference}
    (resolved : Reference.resolve raw owner = .ok reference)
    (scope : reference.scope = .package package) : package = Name.package reference.domain := by
  rcases (resolve_cases resolved).2 with ⟨-, own, -⟩ | ⟨-, shared, -⟩ | ⟨-, found, -⟩
  · cases scope.symm.trans own
  · cases scope.symm.trans shared
  · exact Scope.package.inj (scope.symm.trans found)

end Bindings
