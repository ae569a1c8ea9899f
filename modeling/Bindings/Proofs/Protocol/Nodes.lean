import Bindings.Protocol.References

/-! Induction over type nodes, and the references below a node. -/

set_option autoImplicit false

namespace Bindings

mutual
/-- A property of all nodes that each node inherits from its items and its properties. -/
theorem TypeNode.induction {motive : TypeNode → Prop}
    (inherits : ∀ node : TypeNode, (∀ item, node.items = some item → motive item) →
      (∀ property ∈ node.properties, motive property) → motive node) :
    ∀ node, motive node
  | ⟨_, _, _, _, items, properties, _, _, _, _, _⟩ =>
    inherits _ (TypeNode.itemInduction inherits items)
      (TypeNode.listInduction inherits properties)

theorem TypeNode.itemInduction {motive : TypeNode → Prop}
    (inherits : ∀ node : TypeNode, (∀ item, node.items = some item → motive item) →
      (∀ property ∈ node.properties, motive property) → motive node) :
    ∀ (items : Option TypeNode) (item : TypeNode), items = some item → motive item
  | none, _, same => nomatch same
  | some node, _, same => Option.some.inj same ▸ TypeNode.induction inherits node

theorem TypeNode.listInduction {motive : TypeNode → Prop}
    (inherits : ∀ node : TypeNode, (∀ item, node.items = some item → motive item) →
      (∀ property ∈ node.properties, motive property) → motive node) :
    ∀ (nodes : List TypeNode), ∀ node ∈ nodes, motive node
  | [], _, member => nomatch member
  | head :: tail, node, member =>
    (List.mem_cons.1 member).elim (fun same => same ▸ TypeNode.induction inherits head)
      (TypeNode.listInduction inherits tail node)
end

namespace TypeNode

theorem references_eq (node : TypeNode) :
    node.references =
      node.reference.toList ++ itemReferences node.items ++ listReferences node.properties := by
  cases node
  rw [references]

theorem listReferences_eq_flatMap (nodes : List TypeNode) :
    listReferences nodes = nodes.flatMap references := by
  induction nodes with
  | nil => rfl
  | cons node nodes ih => rw [listReferences, ih, List.flatMap_cons]

theorem references_subset {node : TypeNode} {nodes : List TypeNode} (member : node ∈ nodes) :
    node.references ⊆ listReferences nodes := by
  rw [listReferences_eq_flatMap]
  exact fun raw inside => List.mem_flatMap.2 ⟨node, member, inside⟩

theorem listReferences_subset {few many : List TypeNode} (sub : few ⊆ many) :
    listReferences few ⊆ listReferences many := by
  rw [listReferences_eq_flatMap]
  intro raw inside
  obtain ⟨node, member, found⟩ := List.mem_flatMap.1 inside
  exact references_subset (sub member) found

theorem mem_references_self {node : TypeNode} {raw : String} (h : node.reference = some raw) :
    raw ∈ node.references := by
  simp [references_eq, h]

theorem mem_references_item {node item : TypeNode} {raw : String} (h : node.items = some item)
    (member : raw ∈ item.references) : raw ∈ node.references := by
  rw [references_eq, h]
  exact List.mem_append_left _ (List.mem_append_right _ member)

theorem properties_references_subset (node : TypeNode) :
    listReferences node.properties ⊆ node.references := by
  rw [references_eq]
  exact List.subset_append_right _ _

theorem mem_references_property {node property : TypeNode} {raw : String}
    (found : property ∈ node.properties) (member : raw ∈ property.references) :
    raw ∈ node.references :=
  node.properties_references_subset (references_subset found member)

end TypeNode

namespace Domain

theorem mem_references {domain : Domain} {raw : String} :
    raw ∈ domain.references ↔ ∃ node ∈ domain.nodes, raw ∈ node.references := by
  rw [references, TypeNode.listReferences_eq_flatMap, List.mem_flatMap]

theorem references_subset {domain : Domain} {nodes : List TypeNode} (sub : nodes ⊆ domain.nodes) :
    TypeNode.listReferences nodes ⊆ domain.references :=
  TypeNode.listReferences_subset sub

theorem mem_nodes_type {domain : Domain} {node : TypeNode} (member : node ∈ domain.types) :
    node ∈ domain.nodes := by
  simp [nodes, member]

theorem mem_nodes_parameter {domain : Domain} {command : Command} {node : TypeNode}
    (found : command ∈ domain.commands) (member : node ∈ command.parameters) :
    node ∈ domain.nodes := by
  simp only [nodes, List.mem_append, List.mem_flatMap]
  exact .inl (.inr ⟨command, found, .inl member⟩)

theorem mem_nodes_return {domain : Domain} {command : Command} {node : TypeNode}
    (found : command ∈ domain.commands) (member : node ∈ command.returns) :
    node ∈ domain.nodes := by
  simp only [nodes, List.mem_append, List.mem_flatMap]
  exact .inl (.inr ⟨command, found, .inr member⟩)

theorem mem_nodes_event {domain : Domain} {event : Event} {node : TypeNode}
    (found : event ∈ domain.events) (member : node ∈ event.parameters) :
    node ∈ domain.nodes := by
  simp only [nodes, List.mem_append, List.mem_flatMap]
  exact .inr ⟨event, found, member⟩

end Domain

end Bindings
