import Bindings.Proofs.Emission.Pointers
import Bindings.Proofs.Go.Containment
import Bindings.Proofs.Protocol.Occurrences

/-! What the type of a node holds by value.

Slices and pointers hold nothing, so whatever a type does hold is reached along required properties.
It is reached through a reference, or it is none of the types that packages define.
-/

set_option autoImplicit false

namespace Bindings

open Emission
open Go (Field TypeExpr TypeName)

def predeclared : List String := ["string", "bool", "float64", "int", "error", "chan"]

/-- A type that nodes without a reference are expressed by: it is predeclared, or raw JSON. -/
def Go.TypeName.Basic (target : TypeName) : Prop :=
  target.ident ∈ predeclared ∨ target = ⟨Imports.json.path, "RawMessage"⟩

/-- Wherever a reference leads to the target, its zero value does not read as absent. -/
def Protocol.Requires (protocol : Protocol) (domain : Domain) (link : String → TypeExpr → Prop)
    (path : String) (target : TypeName) : Prop :=
  ∀ node raw type, node.reference = some raw → link raw type → target ∈ type.held path →
    ¬ protocol.Nullable domain.name node

/-- A reference of a node that leads to the target, without any step through items or an optional
property. -/
def TypeNode.Reaches (node : TypeNode) (link : String → TypeExpr → Prop) (path : String)
    (target : TypeName) (way : List Step) (raw : String) : Prop :=
  (way, raw) ∈ node.occurrences ∧ (∀ step ∈ way, step = .property false) ∧
    ∃ type, link raw type ∧ target ∈ type.held path

section
variable {protocol : Protocol} {domain : Domain} {link : String → TypeExpr → Prop} {path : String}
  {target : TypeName} {node : TypeNode} {type : TypeExpr}

theorem basic_of_plainUse {shape : Shape} {use : TypeUse} (plain : shape.plainUse? = some use)
    (held : target ∈ use.type.held path) : target.Basic := by
  cases shape <;> cases plain <;>
    simp_all [TypeUse.plain, TypeExpr.held, TypeName.Basic, predeclared, Imports.json, Imports.standard]

/-- A field that holds the target is no pointer. -/
theorem FieldsExpressed.exists_of_held {holder : Holder} {nodes : List TypeNode}
    {fields : List Field} (expressed : FieldsExpressed protocol domain link holder nodes fields)
    (held : target ∈ (TypeExpr.struct fields).held path) :
    ∃ node ∈ nodes, ∃ type, Expressed protocol domain link node type ∧ target ∈ type.held path ∧
      ¬ protocol.Points domain holder node := by
  obtain ⟨field, member, inside⟩ := TypeExpr.mem_held_struct.1 held
  clear held
  induction nodes generalizing fields with
  | nil =>
    cases expressed
    cases member
  | cons node nodes ih =>
    cases expressed with
    | @cons _ _ _ first fields type named expressed pointer plain rest =>
      rcases List.mem_cons.1 member with rfl | later
      · have apart : ¬ protocol.Points domain holder node := by
          intro points
          rw [pointer points, TypeExpr.held_pointer] at inside
          cases inside
        exact ⟨node, List.mem_cons_self, type, expressed, plain apart ▸ inside, apart⟩
      · obtain ⟨found, listed, holds⟩ := ih rest later
        exact ⟨found, List.mem_cons_of_mem _ listed, holds⟩

variable (other : ¬ target.Basic) (requires : protocol.Requires domain link path target)
include other requires

/-- Only a type whose zero value does not read as absent holds the target. -/
theorem Expressed.not_nullable (expressed : Expressed protocol domain link node type)
    (held : target ∈ type.held path) : ¬ protocol.Nullable domain.name node := by
  cases expressed with
  | reference refers linked => exact requires node _ _ refers linked held
  | sequence =>
    rw [TypeExpr.held_slice] at held
    cases held
  | record shaped =>
    rw [Protocol.nullable_of_shape shaped (by decide)]
    decide
  | leaf shaped plain => exact absurd (basic_of_plainUse plain held) other

/-- A property that holds the target is a required one, and refers to no holder. -/
theorem FieldsExpressed.exists_required {holder : Holder} {nodes : List TypeNode}
    {fields : List Field} (expressed : FieldsExpressed protocol domain link holder nodes fields)
    (held : target ∈ (TypeExpr.struct fields).held path) :
    ∃ node ∈ nodes, ∃ type, Expressed protocol domain link node type ∧ target ∈ type.held path ∧
      node.optional = false ∧ ∀ raw, node.reference = some raw → ¬ holder.Referred domain raw := by
  obtain ⟨node, member, type, expressed, held, plain⟩ := expressed.exists_of_held held
  have distinct := not_or.1 plain
  refine ⟨node, member, type, expressed, held, ?_, fun raw refers referred => ?_⟩
  · rw [← Bool.not_eq_true]
    exact fun optional => distinct.2 ⟨optional, expressed.not_nullable other requires held⟩
  · exact distinct.1 ⟨raw, refers, referred⟩

theorem Expressed.reaches (expressed : Expressed protocol domain link node type)
    (held : target ∈ type.held path) : ∃ way raw, node.Reaches link path target way raw := by
  induction node using TypeNode.induction generalizing type with
  | inherits node _ ofProperty =>
    cases expressed with
    | @reference _ raw _ refers linked =>
      exact ⟨[], raw, TypeNode.occurs_here refers, (fun _ inside => nomatch inside), type, linked,
        held⟩
    | sequence =>
      rw [TypeExpr.held_slice] at held
      cases held
    | record shaped fields =>
      -- An inline record has no identifier of its own, so that only required properties matter.
      obtain ⟨property, member, type, expressed, held, required, -⟩ :=
        fields.exists_required other requires held
      obtain ⟨way, raw, occurs, steps, linked⟩ := ofProperty property member expressed held
      have inside := TypeNode.occurs_property member occurs
      rw [required] at inside
      exact ⟨_, raw, inside, List.forall_mem_cons.2 ⟨rfl, steps⟩, linked⟩
    | leaf shaped plain => exact absurd (basic_of_plainUse plain held) other

/-- What a declared type holds is reached by a reference that cannot be broken. -/
theorem Defined.reaches (defined : Defined protocol domain link node type)
    (held : target ∈ type.held path) :
    ∃ way raw, node.Reaches link path target way raw ∧
      ¬ node.Breakable domain.name way raw := by
  -- Along required properties, only the last way to be breakable is left to exclude.
  have unbroken {way : List Step} {raw : String} (steps : ∀ step ∈ way, step = .property false)
      (apart : way = [.property false] →
        node.id.map (domain.name, ·) ≠ some (Reference.parts raw domain.name)) :
      ¬ node.Breakable domain.name way raw := by
    rintro (item | optional | ⟨direct, self⟩)
    · cases steps _ item
    · cases steps _ optional
    · exact apart direct self
  cases defined with
  | record shaped fields =>
    obtain ⟨property, member, type, expressed, held, required, apart⟩ :=
      fields.exists_required other requires held
    obtain ⟨way, raw, occurs, steps, linked⟩ := expressed.reaches other requires held
    have inside := TypeNode.occurs_property member occurs
    rw [required] at inside
    have all : ∀ step ∈ Step.property false :: way, step = .property false :=
      List.forall_mem_cons.2 ⟨rfl, steps⟩
    refine ⟨_, raw, ⟨inside, all, linked⟩, unbroken all fun direct self => ?_⟩
    obtain rfl : way = [] := (List.cons.inj direct).2
    obtain ⟨name, named, same⟩ := Option.map_eq_some_iff.1 self
    exact apart raw (TypeNode.reference_of_occurs occurs) ⟨name, named, same.symm⟩
  | raw =>
    rw [TypeExpr.held_bytes] at held
    cases held
  | other notRecord expressed =>
    cases expressed with
    | @reference _ raw _ refers linked =>
      refine ⟨[], raw, ⟨TypeNode.occurs_here refers, (fun _ inside => nomatch inside), type, linked,
        held⟩, unbroken (fun _ inside => nomatch inside) fun direct => ?_⟩
      cases direct
    | sequence =>
      rw [TypeExpr.held_slice] at held
      cases held
    | record shaped => exact absurd shaped notRecord
    | leaf shaped plain => exact absurd (basic_of_plainUse plain held) other

end

/-- Where no reference leads to a type, none that a package defines is held. -/
theorem Defined.basic_of_unlinked {protocol : Protocol} {domain : Domain} {path : String}
    {target : TypeName} {node : TypeNode} {type : TypeExpr}
    (defined : Defined protocol domain (fun _ _ => False) node type)
    (held : target ∈ type.held path) : target.Basic := by
  by_contra other
  obtain ⟨way, raw, ⟨-, -, type, linked, -⟩, -⟩ :=
    defined.reaches other (fun _ _ _ _ linked => linked.elim) held
  exact linked

/-- A type whose zero value reads as absent holds none that a package defines. -/
theorem Defined.basic_of_nullable {protocol : Protocol} {domain : Domain}
    {link : String → TypeExpr → Prop} {path : String} {target : TypeName} {node : TypeNode}
    {type : TypeExpr} (defined : Defined protocol domain link node type) {shape : Shape}
    (shaped : node.shape domain.name = .ok shape) (nullable : shape.isNullable = true)
    (held : target ∈ type.held path) : target.Basic := by
  cases defined with
  | record other =>
    rw [other] at shaped
    cases shaped
    cases nullable
  | raw =>
    rw [TypeExpr.held_bytes] at held
    cases held
  | other _ expressed =>
    cases expressed with
    | reference refers =>
      have absent := TypeNode.reference_eq_none shaped (by rintro rfl; cases nullable)
      rw [refers] at absent
      cases absent
    | sequence =>
      rw [TypeExpr.held_slice] at held
      cases held
    | record other =>
      rw [other] at shaped
      cases shaped
      cases nullable
    | leaf _ plain => exact basic_of_plainUse plain held

end Bindings
