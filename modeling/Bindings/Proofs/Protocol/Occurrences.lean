import Bindings.Proofs.Protocol.Nodes
import Bindings.Resolution.Reference
import Mathlib.Data.List.Basic
import Mathlib.Logic.Relation

/-! Where references occur in declared types, and which declared types they force into each other.

A reference below an optional property or below the items of an array stands in no fixed place of its
type, and a record that refers to itself in a property of its own is known to do so.
-/

set_option autoImplicit false

namespace Bindings

inductive Step where
  | item
  | property (optional : Bool)
  deriving DecidableEq

mutual
/-- The references in a node, each with the steps that lead to it. -/
def TypeNode.occurrences : TypeNode → List (List Step × String)
  | ⟨_, _, _, reference, items, properties, _, _, _, _, _⟩ =>
    reference.toList.map (([], ·)) ++ TypeNode.itemOccurrences items ++
      TypeNode.listOccurrences properties

def TypeNode.itemOccurrences : Option TypeNode → List (List Step × String)
  | none => []
  | some node => node.occurrences.map fun entry => (.item :: entry.1, entry.2)

def TypeNode.listOccurrences : List TypeNode → List (List Step × String)
  | [] => []
  | node :: nodes =>
    node.occurrences.map (fun entry => (.property node.optional :: entry.1, entry.2)) ++
      TypeNode.listOccurrences nodes
end

namespace TypeNode
variable {node property : TypeNode} {way : List Step} {raw : String}

theorem occurrences_eq (node : TypeNode) :
    node.occurrences = node.reference.toList.map (([], ·)) ++ itemOccurrences node.items ++
      listOccurrences node.properties := by
  cases node
  rw [occurrences]

theorem mem_listOccurrences {nodes : List TypeNode} :
    (way, raw) ∈ listOccurrences nodes ↔ ∃ node ∈ nodes, ∃ rest,
      (rest, raw) ∈ node.occurrences ∧ way = .property node.optional :: rest := by
  induction nodes with
  | nil => simp [listOccurrences]
  | cons node nodes ih =>
    rw [listOccurrences, List.mem_append, ih, List.exists_mem_cons_iff]
    refine or_congr_left ⟨fun found => ?_, ?_⟩
    · obtain ⟨entry, inside, same⟩ := List.mem_map.1 found
      cases same
      exact ⟨entry.1, inside, rfl⟩
    · rintro ⟨rest, inside, rfl⟩
      exact List.mem_map.2 ⟨(rest, raw), inside, rfl⟩

theorem occurs_here (refers : node.reference = some raw) : ([], raw) ∈ node.occurrences := by
  simp [occurrences_eq, refers]

theorem occurs_property (member : property ∈ node.properties)
    (occurs : (way, raw) ∈ property.occurrences) :
    (.property property.optional :: way, raw) ∈ node.occurrences := by
  rw [occurrences_eq]
  exact List.mem_append_right _ (mem_listOccurrences.2 ⟨property, member, way, occurs, rfl⟩)

/-- Only the reference of a node itself takes no step. -/
theorem reference_of_occurs (occurs : ([], raw) ∈ node.occurrences) :
    node.reference = some raw := by
  rw [occurrences_eq, List.mem_append, List.mem_append] at occurs
  rcases occurs with (here | item) | property
  · simpa using here
  · cases same : node.items with
    | none => simp [same, itemOccurrences] at item
    | some _ => simp [same, itemOccurrences] at item
  · obtain ⟨_, _, _, _, absurd⟩ := mem_listOccurrences.1 property
    cases absurd

/-- Whether a reference in a declared type can be broken: it lies on or under an optional property
or under items, or it is a property of the type that refers to the type itself. -/
def Breakable (declared : TypeNode) (domain : String) (way : List Step) (raw : String) : Prop :=
  .item ∈ way ∨ .property true ∈ way ∨
    way = [.property false] ∧
      declared.id.map (domain, ·) = some (Reference.parts raw domain)

instance (declared : TypeNode) (domain : String) (way : List Step) (raw : String) :
    Decidable (declared.Breakable domain way raw) :=
  inferInstanceAs (Decidable (_ ∨ _ ∨ _ ∧ _))

end TypeNode

/-- The first declared type has a reference to the second that cannot be broken. Types are given by
the names of their domains and their own. -/
def Protocol.Forces (protocol : Protocol) (first second : String × String) : Prop :=
  ∃ domain ∈ protocol.domains, domain.name = first.1 ∧
    ∃ node ∈ domain.types, node.id = some first.2 ∧
      ∃ entry ∈ node.occurrences, ¬ node.Breakable domain.name entry.1 entry.2 ∧
        Reference.parts entry.2 domain.name = second

end Bindings
