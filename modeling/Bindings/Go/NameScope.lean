import Bindings.Error

/-! Identifiers of one generated scope, each declared once. -/

set_option autoImplicit false

namespace Bindings.Go

/-- The identifiers declared so far in a package, a struct or a method set, latest first. -/
structure NameScope where
  name : String
  idents : List String := []

namespace NameScope

def contains (scope : NameScope) (ident : String) : Bool := scope.idents.contains ident

def size (scope : NameScope) : Nat := scope.idents.length

def declare (scope : NameScope) (ident : String) : Except Error NameScope :=
  if scope.contains ident then .error (.duplicateIdentifier scope.name ident)
  else .ok { scope with idents := ident :: scope.idents }

def declareAll (scope : NameScope) (idents : List String) : Except Error NameScope :=
  idents.foldlM declare scope

theorem declare_eq_ok {scope scope' : NameScope} {ident : String} :
    scope.declare ident = .ok scope' ↔
      ident ∉ scope.idents ∧ scope' = { scope with idents := ident :: scope.idents } := by
  by_cases h : ident ∈ scope.idents
  · simp [declare, contains, h]
  · simp [declare, contains, h, eq_comm]

theorem nodup_of_declare {scope scope' : NameScope} {ident : String}
    (nodup : scope.idents.Nodup) (h : scope.declare ident = .ok scope') :
    scope'.idents.Nodup := by
  obtain ⟨fresh, rfl⟩ := declare_eq_ok.1 h
  exact List.nodup_cons.2 ⟨fresh, nodup⟩

end NameScope

end Bindings.Go
