import Bindings.Protocol.Basic

/-! The references that occur in a domain, in the order of its declarations. -/

set_option autoImplicit false

namespace Bindings

mutual
/-- A node before its items, its items before its properties. -/
def TypeNode.references : TypeNode → List String
  | ⟨_, _, _, reference, items, properties, _, _, _, _, _⟩ =>
    reference.toList ++ TypeNode.itemReferences items ++ TypeNode.listReferences properties

def TypeNode.itemReferences : Option TypeNode → List String
  | none => []
  | some node => node.references

def TypeNode.listReferences : List TypeNode → List String
  | [] => []
  | node :: nodes => node.references ++ TypeNode.listReferences nodes
end

/-- The nodes that stand directly in a domain; those of redirected commands are among them. -/
def Domain.nodes (domain : Domain) : List TypeNode :=
  domain.types
    ++ domain.commands.flatMap (fun command => command.parameters ++ command.returns)
    ++ domain.events.flatMap (·.parameters)

def Domain.references (domain : Domain) : List String := TypeNode.listReferences domain.nodes

end Bindings
