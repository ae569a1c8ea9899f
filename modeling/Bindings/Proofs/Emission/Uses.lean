import Bindings.Emission.TypeUse
import Bindings.Proofs.Go.Declarations
import Bindings.Proofs.Go.Structs
import Bindings.Proofs.Protocol.Nodes
import Bindings.Proofs.Threading

/-! Types of nodes where they are used.

The type of a node and the fields of a struct are found by one recursion. Its
induction principle is stated once; what a type refers to, imports and declares
follows from it.
-/

set_option autoImplicit false

namespace Bindings

open Emission
open Go (NameScope TypeExpr)

def Shape.plainUse? : Shape → Option TypeUse
  | .reference | .sequence | .record => none
  | .any | .raw => some ⟨.imported Imports.json "RawMessage", true, [Imports.json.path]⟩
  | .base64 => some ⟨.bytes, true, []⟩
  | .enumeration | .string => some (.plain "string")
  | .boolean => some (.plain "bool")
  | .number | .timestamp _ => some (.plain "float64")
  | .integer => some (.plain "int")

theorem TypeNode.plainShape_ne_reference (node : TypeNode) (kind : Kind) :
    node.plainShape kind ≠ .reference := by
  cases kind <;> simp only [plainShape] <;> (try split) <;> (try split) <;> simp

theorem TypeNode.reference_of_shape {node : TypeNode} {domain : String}
    (h : node.shape domain = .ok .reference) : ∃ raw, node.reference = some raw := by
  rw [shape] at h
  split at h
  · next found => exact Option.isSome_iff_exists.1 found
  · split at h
    · cases h
    · split at h
      · cases h
      · split at h
        · cases h
        · split at h
          · cases h
          · exact absurd (Except.ok.inj h) (plainShape_ne_reference node _)

namespace Emission.Site

variable {site : Site}

theorem itemUse_eq_ok {items : Option TypeNode} {found : Option TypeUse}
    (h : site.itemUse items = .ok found) :
    items = none ∧ found = none ∨
      ∃ item use, items = some item ∧ site.use item = .ok use ∧ found = some use := by
  cases items with
  | none =>
    cases h
    exact .inl ⟨rfl, rfl⟩
  | some item =>
    obtain ⟨use, used, rest⟩ := bind_eq_ok.1 h
    exact .inr ⟨item, use, rfl, used, (pure_eq_ok.1 rest).symm⟩

theorem fieldUses_cons_eq_ok {owner : String} {scope : NameScope} {node : TypeNode}
    {nodes : List TypeNode} {uses : FieldUses}
    (h : site.fieldUses owner scope (node :: nodes) = .ok uses) :
    ∃ next use rest, scope.declare node.fieldIdent = .ok next ∧ site.use node = .ok use ∧
      site.fieldUses owner next nodes = .ok rest ∧
      uses = ⟨.mk (fieldDoc node) node.fieldIdent (fieldType node owner use) (some (fieldTag node))
          :: rest.fields, use.imports ++ rest.imports⟩ := by
  obtain ⟨next, declared, afterDeclare⟩ := bind_eq_ok.1 h
  obtain ⟨use, used, afterUse⟩ := bind_eq_ok.1 afterDeclare
  obtain ⟨rest, others, last⟩ := bind_eq_ok.1 afterUse
  exact ⟨next, use, rest, declared, used, others, (pure_eq_ok.1 last).symm⟩

/-- All that the use of a node can be, by the shape of the node. -/
theorem use_eq_ok {node : TypeNode} {use : TypeUse} (h : site.use node = .ok use) :
    (∃ raw, node.reference = some raw ∧ site.referenceUse raw = .ok use) ∨
    (∃ item element, node.shape site.domain = .ok .sequence ∧ node.items = some item ∧
      site.use item = .ok element ∧ use = ⟨.slice element.type, true, element.imports⟩) ∨
    (∃ uses, node.shape site.domain = .ok .record ∧
      site.fieldUses "" (fieldScope site.domain "") node.properties = .ok uses ∧
      use = ⟨.struct uses.fields, false, uses.imports⟩) ∨
    ∃ shape, node.shape site.domain = .ok shape ∧ shape.plainUse? = some use := by
  -- The recursion goes by the constructor, so its equation applies to nothing but a constructor.
  obtain ⟨id, name, kind, reference, items, properties, literals, optional, deprecated,
    experimental, description⟩ := node
  rw [Site.use] at h
  obtain ⟨shape, shaped, rest⟩ := bind_eq_ok.1 h
  cases shape with
  | reference =>
    obtain ⟨raw, found⟩ := TypeNode.reference_of_shape shaped
    cases found
    exact .inl ⟨raw, rfl, rest⟩
  | sequence =>
    obtain ⟨found, itemFound, rest⟩ := bind_eq_ok.1 rest
    rcases itemUse_eq_ok itemFound with ⟨-, rfl⟩ | ⟨item, element, rfl, used, rfl⟩
    · cases rest
    · exact .inr (.inl ⟨item, element, shaped, rfl, used, (pure_eq_ok.1 rest).symm⟩)
  | record =>
    obtain ⟨uses, fields, rest⟩ := bind_eq_ok.1 rest
    exact .inr (.inr (.inl ⟨uses, shaped, fields, (pure_eq_ok.1 rest).symm⟩))
  | _ => exact .inr (.inr (.inr ⟨_, shaped, congrArg some (pure_eq_ok.1 rest)⟩))

/-- Induction along the recursion that finds the types of nodes and the fields of structs. -/
theorem use_induction {U : TypeNode → TypeUse → Prop}
    {F : String → NameScope → List TypeNode → FieldUses → Prop}
    (reference : ∀ {node raw use}, node.reference = some raw → site.referenceUse raw = .ok use →
      U node use)
    (sequence : ∀ {node item element}, node.shape site.domain = .ok .sequence →
      node.items = some item → U item element →
      U node ⟨.slice element.type, true, element.imports⟩)
    (record : ∀ {node uses}, node.shape site.domain = .ok .record →
      F "" (fieldScope site.domain "") node.properties uses →
      U node ⟨.struct uses.fields, false, uses.imports⟩)
    (plain : ∀ {node shape use}, node.shape site.domain = .ok shape →
      shape.plainUse? = some use → U node use)
    (nil : ∀ {owner scope}, F owner scope [] ⟨[], []⟩)
    (cons : ∀ {owner scope next node nodes use rest}, scope.declare node.fieldIdent = .ok next →
      U node use → F owner next nodes rest →
      F owner scope (node :: nodes)
        ⟨.mk (fieldDoc node) node.fieldIdent (fieldType node owner use) (some (fieldTag node))
          :: rest.fields, use.imports ++ rest.imports⟩) :
    (∀ {node use}, site.use node = .ok use → U node use) ∧
      ∀ {owner scope nodes uses}, site.fieldUses owner scope nodes = .ok uses →
        F owner scope nodes uses := by
  -- The scope grows from field to field, so it stays general in the induction over the fields.
  have fields : ∀ {nodes}, (∀ node ∈ nodes, ∀ use, site.use node = .ok use → U node use) →
      ∀ {owner scope uses}, site.fieldUses owner scope nodes = .ok uses →
        F owner scope nodes uses := by
    intro nodes each
    induction nodes with
    | nil =>
      intro owner scope uses h
      cases h
      exact nil
    | cons node nodes ih =>
      intro owner scope uses h
      obtain ⟨next, use, rest, declared, used, others, rfl⟩ := fieldUses_cons_eq_ok h
      exact cons declared (each node List.mem_cons_self use used)
        (ih (fun other member => each other (List.mem_cons_of_mem node member)) others)
  -- Over the tree: the item and the properties of a node are settled before the node.
  have nodes : ∀ node : TypeNode, ∀ use, site.use node = .ok use → U node use := by
    intro node
    induction node using TypeNode.induction with
    | inherits node ofItem ofProperty =>
      intro use h
      rcases use_eq_ok h with ⟨raw, found, used⟩ | ⟨item, element, shaped, found, used, rfl⟩ |
        ⟨uses, shaped, found, rfl⟩ | ⟨shape, shaped, found⟩
      · exact reference found used
      · exact sequence shaped found (ofItem item found element used)
      · exact record shaped (fields ofProperty found)
      · exact plain shaped found
  exact ⟨fun h => nodes _ _ h, fun h => fields (fun node _ => nodes node) h⟩

end Emission.Site

def Reference.type (root : String) (reference : Reference) : TypeExpr :=
  match reference.scope with
  | .own => .named reference.ident
  | .package name => .imported (Imports.domain root name) reference.ident
  | .shared => .imported (Imports.internal root) reference.ident

def Reference.imports (root : String) (reference : Reference) : List String :=
  match reference.scope with
  | .own => []
  | .package name => [(Imports.domain root name).path]
  | .shared => [(Imports.internal root).path]

namespace Emission

def standardPackages : List Go.Package :=
  [Imports.context, Imports.json, Imports.errors, Imports.fmt, Imports.strings, Imports.testing,
    Imports.time]

def standardPaths : List String := standardPackages.map (·.path)

namespace Site

variable {site : Site}

theorem referenceUse_eq_ok {raw : String} {use : TypeUse} (h : site.referenceUse raw = .ok use) :
    site.shared = none ∧ ∃ reference, Reference.resolve raw site.domain = .ok reference ∧
      use = ⟨reference.type site.root, site.exemptions.covers reference,
        reference.imports site.root⟩ := by
  rw [referenceUse] at h
  split at h
  · cases h
  · next alone =>
    obtain ⟨reference, resolved, rest⟩ := bind_eq_ok.1 h
    refine ⟨alone, reference, resolved, ?_⟩
    rw [Reference.type, Reference.imports]
    cases scope : reference.scope <;> simp only [scope] at rest ⊢ <;>
      exact (pure_eq_ok.1 rest).symm

/-- What the types of nodes import: JSON, and the packages that their references lead to. -/
def Needs (site : Site) (references : List String) (path : String) : Prop :=
  path = Imports.json.path ∨ site.shared = none ∧ ∃ raw ∈ references, ∃ reference,
    Reference.resolve raw site.domain = .ok reference ∧ path ∈ reference.imports site.root

theorem Needs.mono {few many : List String} {path : String} (sub : few ⊆ many)
    (needs : site.Needs few path) : site.Needs many path :=
  needs.imp_right fun ⟨alone, raw, member, led⟩ => ⟨alone, raw, sub member, led⟩

theorem needs_of_use :
    (∀ {node use}, site.use node = .ok use →
      ∀ path ∈ use.imports, site.Needs node.references path) ∧
    ∀ {owner scope nodes uses}, site.fieldUses owner scope nodes = .ok uses →
      ∀ path ∈ uses.imports, site.Needs (TypeNode.listReferences nodes) path := by
  apply use_induction
    (U := fun node use => ∀ path ∈ use.imports, site.Needs node.references path)
    (F := fun _ _ nodes uses =>
      ∀ path ∈ uses.imports, site.Needs (TypeNode.listReferences nodes) path)
  case reference =>
    intro node raw use found used path member
    obtain ⟨alone, reference, resolved, rfl⟩ := referenceUse_eq_ok used
    exact .inr ⟨alone, raw, TypeNode.mem_references_self found, reference, resolved, member⟩
  case sequence =>
    intro node item element _ found ih path member
    exact (ih path member).mono fun _ inside => TypeNode.mem_references_item found inside
  case record =>
    intro node uses _ ih path member
    exact (ih path member).mono node.properties_references_subset
  case plain =>
    intro node shape use _ found path member
    cases shape <;> cases found <;> first
      | exact .inl (List.mem_singleton.1 member)
      | cases member
  case nil => exact fun path member => nomatch member
  case cons =>
    intro owner scope next node nodes use rest _ ofNode ofNodes path member
    rw [TypeNode.listReferences]
    rcases List.mem_append.1 member with member | member
    · exact (ofNode path member).mono (List.subset_append_left _ _)
    · exact (ofNodes path member).mono (List.subset_append_right _ _)

theorem structs_fieldType (node : TypeNode) (owner : String) (use : TypeUse) :
    (fieldType node owner use).structs = use.type.structs := by
  rw [fieldType]
  split
  · rw [TypeExpr.structs]
  · rfl

/-- No struct within the type of a node, or within the types of fields, repeats a field name; and
the scope of the fields has accepted their names. -/
theorem nodup_structs_of_use :
    (∀ {node use}, site.use node = .ok use → ∀ names ∈ use.type.structs, names.Nodup) ∧
    ∀ {owner scope nodes uses}, site.fieldUses owner scope nodes = .ok uses →
      (∃ last, scope.declareAll (uses.fields.map Go.Field.name) = .ok last) ∧
        ∀ names ∈ Go.Field.structs uses.fields, names.Nodup := by
  apply use_induction
    (U := fun _ use => ∀ names ∈ use.type.structs, names.Nodup)
    (F := fun _ scope _ uses =>
      (∃ last, scope.declareAll (uses.fields.map Go.Field.name) = .ok last) ∧
        ∀ names ∈ Go.Field.structs uses.fields, names.Nodup)
  case reference =>
    intro node raw use _ used names member
    obtain ⟨-, reference, -, rfl⟩ := referenceUse_eq_ok used
    rw [Reference.type] at member
    split at member <;> cases member
  case sequence => exact fun _ _ ih names member => ih names (by rwa [TypeExpr.structs] at member)
  case record =>
    rintro node uses - ⟨⟨last, accepted⟩, inner⟩ names member
    rw [TypeExpr.structs] at member
    rcases List.mem_cons.1 member with rfl | member
    · exact NameScope.nodup_of_declareAll_nil rfl accepted
    · exact inner names member
  case plain =>
    intro node shape use _ found names member
    cases shape <;> cases found <;> cases member
  case nil => exact fun {_ scope} => ⟨⟨scope, rfl⟩, fun _ member => nomatch member⟩
  case cons =>
    rintro owner scope next node nodes use rest declared ofNode ⟨⟨last, accepted⟩, inner⟩
    refine ⟨⟨last, NameScope.declareAll_cons_eq_ok.2 ⟨next, declared, accepted⟩⟩, ?_⟩
    intro names member
    rw [Go.Field.structs, structs_fieldType] at member
    exact (List.mem_append.1 member).elim (ofNode names) (inner names)

theorem nodup_structs_of_structFields {nodes : List TypeNode} {owner : String} {uses : FieldUses}
    (h : site.structFields nodes owner = .ok uses) :
    ∀ names ∈ (TypeExpr.struct uses.fields).structs, names.Nodup := by
  obtain ⟨⟨last, accepted⟩, inner⟩ := nodup_structs_of_use.2 h
  intro names member
  rw [TypeExpr.structs] at member
  rcases List.mem_cons.1 member with rfl | member
  · exact NameScope.nodup_of_declareAll_nil rfl accepted
  · exact inner names member

end Site

end Emission

end Bindings
