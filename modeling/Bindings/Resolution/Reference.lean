import Bindings.Error
import Bindings.Name.Package
import Bindings.Resolution.Sharing

/-! References as seen from the domain that makes them. -/

set_option autoImplicit false

namespace Bindings

inductive Scope where
  | own
  | package (name : String)
  | shared
  deriving DecidableEq

/-- A reference with its target: `domain` and `name` are raw, `ident` is the identifier in the
scope. -/
structure Reference where
  scope : Scope
  ident : String
  domain : String
  name : String
  deriving DecidableEq

def Reference.qualified (reference : Reference) : String :=
  reference.domain ++ "." ++ reference.name

/-- The domain and the type name of a raw reference; a bare name belongs to the domain itself. -/
def Reference.parts (raw owner : String) : String × String :=
  match Text.splitOnce? '.' raw.toList with
  | some (domain, name) => (.ofList domain, .ofList name)
  | none => (owner, raw)

def Reference.locate (domain name owner : String) : Reference :=
  let ident := Name.withoutDomain (Name.exported domain) (Name.exported name)
  if domain = owner then ⟨.own, ident, domain, name⟩
  else
    match sharedFor? owner (domain ++ "." ++ name) with
    | some shared => ⟨.shared, shared.ident, domain, name⟩
    | none => ⟨.package (Name.package domain), ident, domain, name⟩

/-- Both halves must be there, and only one point may divide them. -/
def Reference.resolve (raw owner : String) : Except Error Reference :=
  let (domain, name) := parts raw owner
  if domain.isEmpty || name.isEmpty || name.toList.contains '.' then
    .error (.invalidReference owner raw)
  else .ok (locate domain name owner)

end Bindings
