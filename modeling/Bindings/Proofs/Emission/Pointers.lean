import Bindings.Proofs.Emission.Typing
import Bindings.Proofs.Resolution.Exempt

/-! Which fields are pointers.

A field is a pointer where its record refers to itself, and where it is optional and the zero value
of its type does not read as absent. Emission decides both from texts: the type of the field against
the name of its record, and the registry of exempt types. Here both are decided from the protocol.
-/

set_option autoImplicit false

namespace Bindings

open Emission
open Go (Field TypeExpr)

/-- What the fields of a struct stand in: a declared record, the parameters or returns of a command
or event, or a record that is written out where it is used. -/
inductive Holder where
  | record (declared : TypeNode)
  | message
  | inline

/-- Whether a reference in a domain is taken for one of a holder to itself. A record is known by its
name. A record without a name has no self to refer to, but a type without an identifier is taken for
it. -/
def Holder.Referred (domain : Domain) (raw : String) : Holder → Prop
  | .record declared => ∃ name, declared.id = some name ∧
      Reference.parts raw domain.name = (domain.name, name)
  | .message => False
  | .inline => ∃ name target, Reference.parts raw domain.name = (domain.name, name) ∧
      domain.type? name = some target ∧ target.ident domain.name = ""

/-- Whether the zero value of a type reads as absent. For a reference this is up to its target as its
own domain declares it; a target of the table of shared types always counts. -/
def Protocol.Nullable (protocol : Protocol) (domain : String) (node : TypeNode) : Prop :=
  match node.reference with
  | some raw => ∃ reference, Reference.resolve raw domain = .ok reference ∧
      (reference.qualified ∈ sharedTargets ∨ ∃ target shape,
        protocol.target? reference = some target ∧ target.shape reference.domain = .ok shape ∧
          shape ∈ [.sequence, .raw, .base64, .any, .enumeration])
  | none => ∃ shape, node.shape domain = .ok shape ∧ shape ∈ [.sequence, .raw, .base64, .any]

def Protocol.Points (protocol : Protocol) (domain : Domain) (holder : Holder) (node : TypeNode) :
    Prop :=
  (∃ raw, node.reference = some raw ∧ holder.Referred domain raw) ∨
    node.optional = true ∧ ¬ protocol.Nullable domain.name node

mutual
inductive Expressed (protocol : Protocol) (domain : Domain) (link : String → TypeExpr → Prop) :
    TypeNode → TypeExpr → Prop
  | reference {node : TypeNode} {raw : String} {type : TypeExpr}
      (refers : node.reference = some raw) (linked : link raw type) :
      Expressed protocol domain link node type
  | sequence {node item : TypeNode} {element : TypeExpr}
      (shaped : node.shape domain.name = .ok .sequence) (found : node.items = some item)
      (expressed : Expressed protocol domain link item element) :
      Expressed protocol domain link node (.slice element)
  | record {node : TypeNode} {fields : List Field}
      (shaped : node.shape domain.name = .ok .record)
      (expressed : FieldsExpressed protocol domain link .inline node.properties fields) :
      Expressed protocol domain link node (.struct fields)
  | leaf {node : TypeNode} {shape : Shape} {use : TypeUse}
      (shaped : node.shape domain.name = .ok shape) (plain : shape.plainUse? = some use) :
      Expressed protocol domain link node use.type

/-- The fields for the nodes of a holder, one for each: pointers to the types of the nodes where the
protocol asks for it, and else these types themselves. -/
inductive FieldsExpressed (protocol : Protocol) (domain : Domain)
    (link : String → TypeExpr → Prop) : Holder → List TypeNode → List Field → Prop
  | nil {holder : Holder} : FieldsExpressed protocol domain link holder [] []
  | cons {holder : Holder} {node : TypeNode} {nodes : List TypeNode} {field : Field}
      {fields : List Field} {type : TypeExpr} (named : field.name = node.fieldIdent)
      (expressed : Expressed protocol domain link node type)
      (pointer : protocol.Points domain holder node → field.type = .pointer type)
      (plain : ¬ protocol.Points domain holder node → field.type = type)
      (rest : FieldsExpressed protocol domain link holder nodes fields) :
      FieldsExpressed protocol domain link holder (node :: nodes) (field :: fields)
end

inductive Defined (protocol : Protocol) (domain : Domain) (link : String → TypeExpr → Prop)
    (node : TypeNode) : TypeExpr → Prop
  | record {fields : List Field} (shaped : node.shape domain.name = .ok .record)
      (expressed : FieldsExpressed protocol domain link (.record node) node.properties fields) :
      Defined protocol domain link node (.struct fields)
  | raw (shaped : node.shape domain.name = .ok .raw) : Defined protocol domain link node .bytes
  | other {type : TypeExpr} (other : node.shape domain.name ≠ .ok .record)
      (expressed : Expressed protocol domain link node type) :
      Defined protocol domain link node type

theorem TypeNode.reference_eq_none {node : TypeNode} {domain : String} {shape : Shape}
    (shaped : node.shape domain = .ok shape) (other : shape ≠ .reference) :
    node.reference = none := by
  rw [TypeNode.shape] at shaped
  split at shaped
  · exact absurd (Except.ok.inj shaped).symm other
  · next absent => exact Option.not_isSome_iff_eq_none.1 absent

theorem Protocol.nullable_of_shape {protocol : Protocol} {domain : String} {node : TypeNode}
    {shape : Shape} (shaped : node.shape domain = .ok shape) (other : shape ≠ .reference) :
    protocol.Nullable domain node ↔ shape ∈ [.sequence, .raw, .base64, .any] := by
  rw [Nullable, TypeNode.reference_eq_none shaped other]
  simp [shaped]

/-- The name of the owner of fields stands for their holder: a type is spelled like it just when its
reference is taken for one to the holder. -/
def Holder.Stands (domain : Domain) (link : String → TypeExpr → Prop) (owner : String)
    (holder : Holder) : Prop :=
  ∀ raw type, link raw type → (type.text = owner ↔ holder.Referred domain raw)

namespace Emission.Site

variable {protocol : Protocol} {domain : Domain} {link : String → TypeExpr → Prop} {site : Site}
  {references : List String}

theorem referenceUse_of_use {node : TypeNode} {raw : String} {use : TypeUse}
    (used : site.use node = .ok use) (refers : node.reference = some raw) :
    site.referenceUse raw = .ok use := by
  -- A node with a reference has no other shape.
  have unshaped {shape : Shape} (other : shape ≠ .reference) :
      node.shape site.domain ≠ .ok shape := by
    intro shaped
    rw [TypeNode.reference_eq_none shaped other] at refers
    cases refers
  rcases use_eq_ok used with ⟨raw', refers', followed⟩ | ⟨_, _, shaped, -⟩ | ⟨_, shaped, -⟩ |
    ⟨shape, shaped, plain⟩
  · rwa [Option.some.inj (refers.symm.trans refers')]
  · exact absurd shaped (unshaped (by decide))
  · exact absurd shaped (unshaped (by decide))
  · refine absurd shaped (unshaped ?_)
    rintro rfl
    cases plain

def Agrees (protocol : Protocol) (site : Site) (references : List String) : Prop :=
  ∀ node raw use, node.reference = some raw → raw ∈ references →
    site.referenceUse raw = .ok use →
      (use.nullable = true ↔ protocol.Nullable site.domain node)

/-- All that the field of a node depends on: the type, whether its zero value reads as absent, and
what it is linked to. -/
structure Expresses (protocol : Protocol) (domain : Domain) (link : String → TypeExpr → Prop)
    (node : TypeNode) (use : TypeUse) : Prop where
  type : Expressed protocol domain link node use.type
  nullable : use.nullable = true ↔ protocol.Nullable domain.name node
  linked : ∀ raw, node.reference = some raw → link raw use.type

/-- The field of a node is a pointer or not as the protocol has it. -/
theorem fieldType_eq {holder : Holder} {owner : String} {node : TypeNode} {use : TypeUse}
    (stands : holder.Stands domain link owner)
    (expresses : Expresses protocol domain link node use) :
    (protocol.Points domain holder node → fieldType node owner use = .pointer use.type) ∧
      (¬ protocol.Points domain holder node → fieldType node owner use = use.type) := by
  have self : (node.reference.isSome && use.type.text == owner) = true ↔
      ∃ raw, node.reference = some raw ∧ holder.Referred domain raw := by
    rw [Bool.and_eq_true, beq_iff_eq, Option.isSome_iff_exists]
    constructor
    · rintro ⟨⟨raw, refers⟩, same⟩
      exact ⟨raw, refers, (stands raw use.type (expresses.linked raw refers)).1 same⟩
    · rintro ⟨raw, refers, referred⟩
      exact ⟨⟨raw, refers⟩, (stands raw use.type (expresses.linked raw refers)).2 referred⟩
  have absent : (node.optional && !use.nullable) = true ↔
      node.optional = true ∧ ¬ protocol.Nullable domain.name node := by
    rw [Bool.and_eq_true, Bool.not_eq_true', ← expresses.nullable, Bool.not_eq_true]
  have decides : ((node.reference.isSome && use.type.text == owner) ||
      (node.optional && !use.nullable)) = true ↔ protocol.Points domain holder node := by
    rw [Bool.or_eq_true, self, absent, Protocol.Points]
  rw [← decides]
  exact ⟨fun points => if_pos points, fun plain => if_neg plain⟩

/-- Types and fields are expressed as the protocol has it, where references are linked and the
registry agrees with the protocol. -/
theorem expressed_of_use (located : site.domain = domain.name)
    (follows : ∀ {raw use}, raw ∈ references → site.referenceUse raw = .ok use →
      link raw use.type)
    (agrees : site.Agrees protocol references)
    (inline : Holder.inline.Stands domain link "") :
    (∀ {node use}, site.use node = .ok use → node.references ⊆ references →
      Expresses protocol domain link node use) ∧
    ∀ {owner scope nodes uses}, site.fieldUses owner scope nodes = .ok uses →
      TypeNode.listReferences nodes ⊆ references → ∀ holder : Holder,
        holder.Stands domain link owner →
          FieldsExpressed protocol domain link holder nodes uses.fields := by
  apply use_induction
    (U := fun node use => node.references ⊆ references →
      Expresses protocol domain link node use)
    (F := fun owner _ nodes uses => TypeNode.listReferences nodes ⊆ references →
      ∀ holder : Holder, holder.Stands domain link owner →
        FieldsExpressed protocol domain link holder nodes uses.fields)
  case reference =>
    intro node raw use found used sub
    have inside : raw ∈ references := sub (TypeNode.mem_references_self found)
    refine ⟨.reference found (follows inside used),
      located ▸ agrees node raw use found inside used, ?_⟩
    intro other same
    obtain rfl : raw = other := Option.some.inj (found.symm.trans same)
    exact follows inside used
  case sequence =>
    intro node item element shaped found ih sub
    rw [located] at shaped
    have ofItem := ih fun raw inside => sub (TypeNode.mem_references_item found inside)
    refine ⟨.sequence shaped found ofItem.type, ?_, fun raw refers => ?_⟩
    · simp [Protocol.nullable_of_shape shaped]
    · rw [TypeNode.reference_eq_none shaped (by decide)] at refers
      cases refers
  case record =>
    intro node uses shaped ih sub
    rw [located] at shaped
    have fields := ih (List.Subset.trans node.properties_references_subset sub) .inline inline
    refine ⟨.record shaped fields, ?_, fun raw refers => ?_⟩
    · simp [Protocol.nullable_of_shape shaped]
    · rw [TypeNode.reference_eq_none shaped (by decide)] at refers
      cases refers
  case plain =>
    intro node shape use shaped found _
    rw [located] at shaped
    have other : shape ≠ .reference := by
      rintro rfl
      cases found
    refine ⟨.leaf shaped found, ?_, fun raw refers => ?_⟩
    · rw [Protocol.nullable_of_shape shaped other]
      cases shape <;> cases found <;> simp [TypeUse.plain]
    · rw [TypeNode.reference_eq_none shaped other] at refers
      cases refers
  case nil => exact fun _ _ _ => .nil
  case cons =>
    intro owner scope next node nodes use rest _ ofNode ofNodes sub holder stands
    rw [TypeNode.listReferences] at sub
    obtain ⟨first, others⟩ := List.append_subset.1 sub
    obtain ⟨pointer, plain⟩ := fieldType_eq stands (ofNode first)
    exact .cons rfl (ofNode first).type pointer plain (ofNodes others holder stands)

variable {node : TypeNode} {ident : String} {doc : Go.Doc} {scope next : Go.NameScope}
  {chunk : Chunk}

/-- A definition has the fields that the protocol asks for, with the record itself as the holder. -/
theorem Defines.defined (located : site.domain = domain.name)
    (follows : ∀ {raw use}, raw ∈ references → site.referenceUse raw = .ok use → link raw use.type)
    (agrees : site.Agrees protocol references) (inline : Holder.inline.Stands domain link "")
    (self : (Holder.record node).Stands domain link ident) (sub : node.references ⊆ references)
    (h : site.Defines node ident doc scope next chunk) :
    ∃ type, ⟨.type doc.lines ident type, true⟩ ∈ chunk.items ∧
      Defined protocol domain link node type := by
  have uses := expressed_of_use located follows agrees inline
  cases h with
  | enumeration shaped =>
    rw [located] at shaped
    exact ⟨_, List.mem_cons_self, .other (by simp [shaped]) (.leaf shaped rfl)⟩
  | timestamp shaped =>
    rw [located] at shaped
    exact ⟨_, List.mem_cons_self, .other (by simp [shaped]) (.leaf shaped rfl)⟩
  | raw shaped =>
    rw [located] at shaped
    exact ⟨_, List.mem_cons_self, .raw shaped⟩
  | record shaped fields =>
    rw [located] at shaped
    have inner := List.Subset.trans node.properties_references_subset sub
    exact ⟨_, List.mem_cons_self, .record shaped (uses.2 fields inner _ self)⟩
  | plain used other =>
    rw [located] at other
    exact ⟨_, List.mem_cons_self, .other other (uses.1 used sub).type⟩

end Emission.Site

end Bindings
