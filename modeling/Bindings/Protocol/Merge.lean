import Bindings.Protocol.Basic

/-! Merging the documents of one protocol. -/

set_option autoImplicit false

namespace Bindings

/-- Domains by name; those of one name keep their order. -/
def sortByName (domains : List Domain) : List Domain :=
  domains.mergeSort fun a b => decide (a.name ≤ b.name)

/-- The first version that is present, and the domains of all documents by name. -/
def Protocol.merge (documents : List Protocol) : Protocol where
  version := documents.findSome? (·.version)
  domains := sortByName (documents.flatMap (·.domains))

end Bindings
