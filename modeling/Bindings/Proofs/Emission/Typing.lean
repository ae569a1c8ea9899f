import Bindings.Proofs.Emission.Declared

/-! How the types that are emitted follow the nodes of a protocol.

A type has the structure of its node. Where the node is a reference the type is whatever the
reference is linked to, so what a link means is said in one place.
-/

set_option autoImplicit false

namespace Bindings

open Emission
open Go (Field TypeExpr)

/-- The types that nodes without references and parts are emitted as. Raw JSON is a type of bytes
where it is declared. -/
def Shape.leaves : Shape → List TypeExpr
  | .raw => [.imported Imports.json "RawMessage", .bytes]
  | shape => (shape.plainUse?.map (·.type)).toList

mutual
inductive Typed (domain : String) (link : String → TypeExpr → Prop) : TypeNode → TypeExpr → Prop
  | reference {node : TypeNode} {raw : String} {type : TypeExpr}
      (refers : node.reference = some raw) (linked : link raw type) : Typed domain link node type
  | sequence {node item : TypeNode} {element : TypeExpr}
      (shaped : node.shape domain = .ok .sequence) (found : node.items = some item)
      (typed : Typed domain link item element) : Typed domain link node (.slice element)
  | record {node : TypeNode} {fields : List Field} (shaped : node.shape domain = .ok .record)
      (typed : FieldsTyped domain link node.properties fields) :
      Typed domain link node (.struct fields)
  | leaf {node : TypeNode} {shape : Shape} {type : TypeExpr}
      (shaped : node.shape domain = .ok shape) (plain : type ∈ shape.leaves) : Typed domain link node type

/-- The fields that nodes are emitted as, one for each, by value or by pointer. -/
inductive FieldsTyped (domain : String) (link : String → TypeExpr → Prop) :
    List TypeNode → List Field → Prop
  | nil : FieldsTyped domain link [] []
  | cons {node : TypeNode} {nodes : List TypeNode} {field : Field} {fields : List Field}
      {type : TypeExpr} (named : field.name = node.fieldIdent)
      (held : field.type = type ∨ field.type = .pointer type) (typed : Typed domain link node type)
      (rest : FieldsTyped domain link nodes fields) :
      FieldsTyped domain link (node :: nodes) (field :: fields)
end

namespace Emission.Site

variable {site : Site} {link : String → TypeExpr → Prop} {references : List String}

theorem fieldType_cases (node : TypeNode) (owner : String) (use : TypeUse) :
    fieldType node owner use = use.type ∨ fieldType node owner use = .pointer use.type := by
  rw [fieldType]
  split
  · exact .inr rfl
  · exact .inl rfl

theorem mem_leaves_of_plainUse? {shape : Shape} {use : TypeUse} (h : shape.plainUse? = some use) :
    use.type ∈ shape.leaves := by
  cases shape <;> cases h <;> exact List.mem_cons_self

/-- Types and fields follow their nodes, where references among the given ones are linked. -/
theorem typed_of_use
    (follows : ∀ {raw use}, raw ∈ references → site.referenceUse raw = .ok use →
      link raw use.type) :
    (∀ {node use}, site.use node = .ok use → node.references ⊆ references →
      Typed site.domain link node use.type) ∧
    ∀ {owner scope nodes uses}, site.fieldUses owner scope nodes = .ok uses →
      TypeNode.listReferences nodes ⊆ references →
      FieldsTyped site.domain link nodes uses.fields := by
  apply use_induction
    (U := fun node use => node.references ⊆ references → Typed site.domain link node use.type)
    (F := fun _ _ nodes uses => TypeNode.listReferences nodes ⊆ references →
      FieldsTyped site.domain link nodes uses.fields)
  case reference =>
    intro node raw use found used sub
    exact .reference found (follows (sub (TypeNode.mem_references_self found)) used)
  case sequence =>
    intro node item element shaped found ih sub
    exact .sequence shaped found (ih fun raw inside =>
      sub (TypeNode.mem_references_item found inside))
  case record =>
    intro node uses shaped ih sub
    exact .record shaped (ih (List.Subset.trans node.properties_references_subset sub))
  case plain =>
    intro node shape use shaped found _
    exact .leaf shaped (mem_leaves_of_plainUse? found)
  case nil => exact fun _ => .nil
  case cons =>
    intro owner scope next node nodes use rest _ ofNode ofNodes sub
    rw [TypeNode.listReferences] at sub
    obtain ⟨first, others⟩ := List.append_subset.1 sub
    exact .cons rfl (fieldType_cases node owner use) (ofNode first) (ofNodes others)

variable {node : TypeNode} {ident : String} {doc : Go.Doc} {scope next : Go.NameScope}
  {chunk : Chunk}

/-- A definition declares its identifier as a type that follows the node. -/
theorem Defines.typed
    (follows : ∀ {raw use}, raw ∈ references → site.referenceUse raw = .ok use → link raw use.type)
    (sub : node.references ⊆ references) (h : site.Defines node ident doc scope next chunk) :
    ∃ type, ⟨.type doc.lines ident type, true⟩ ∈ chunk.items ∧
      Typed site.domain link node type := by
  cases h with
  | enumeration shaped => exact ⟨_, List.mem_cons_self, .leaf shaped List.mem_cons_self⟩
  | timestamp shaped => exact ⟨_, List.mem_cons_self, .leaf shaped List.mem_cons_self⟩
  | raw shaped =>
    -- The second of the two types that raw JSON is emitted as.
    exact ⟨_, List.mem_cons_self, .leaf shaped (List.mem_cons_of_mem _ List.mem_cons_self)⟩
  | record shaped fields =>
    have inner := List.Subset.trans node.properties_references_subset sub
    exact ⟨_, List.mem_cons_self, .record shaped ((typed_of_use follows).2 fields inner)⟩
  | plain used => exact ⟨_, List.mem_cons_self, (typed_of_use follows).1 used sub⟩

end Emission.Site

end Bindings
