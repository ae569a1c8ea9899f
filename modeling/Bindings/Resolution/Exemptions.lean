import Bindings.Resolution.ImportGraph
import Bindings.Resolution.Shape

/-! Declared types whose zero value reads as absent.

An optional field of such a type is not wrapped in a pointer. Shared types are
always among them.
-/

set_option autoImplicit false

namespace Bindings

structure Exemptions where
  names : List String := []

namespace Exemptions

def insert (exemptions : Exemptions) (name : String) : Exemptions :=
  ⟨insertSorted name exemptions.names⟩

def contains (exemptions : Exemptions) (name : String) : Bool := exemptions.names.contains name

/-- Whether an optional field of the referenced type needs no pointer. -/
def covers (exemptions : Exemptions) (reference : Reference) : Bool :=
  reference.scope == .shared || exemptions.contains reference.qualified

def addType (domain : String) (exemptions : Exemptions) (type : TypeNode) :
    Except Error Exemptions :=
  match type.id with
  | none => .ok exemptions
  | some id => do
    let shape ← type.shape domain
    return if shape.isNullable then exemptions.insert (domain ++ "." ++ id) else exemptions

def addTypes (exemptions : Exemptions) (domain : Domain) : Except Error Exemptions :=
  domain.types.foldlM (addType domain.name) exemptions

def ofProtocol (protocol : Protocol) : Except Error Exemptions := do
  let declared ← protocol.domains.foldlM addTypes {}
  return sharedTargets.foldl insert declared

end Exemptions

end Bindings
