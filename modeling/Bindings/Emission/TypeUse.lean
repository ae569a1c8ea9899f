import Bindings.Emission.Imports
import Bindings.Go.Doc
import Bindings.Go.NameScope
import Bindings.Go.Printer
import Bindings.Resolution.Exemptions

/-! Go types of type nodes where they are used: as fields, parameters and elements. -/

set_option autoImplicit false

namespace Bindings.Emission

open Go (Doc NameScope TypeExpr)

/-- The domain that types are emitted for. `shared` is set to the identifier of a definition in
the shared package while that is emitted. -/
structure Site where
  domain : String
  root : String
  exemptions : Exemptions
  shared : Option String := none

/-- A Go type, whether its zero value reads as absent, and the imports it was recorded to need. -/
structure TypeUse where
  type : TypeExpr
  nullable : Bool
  imports : List String := []

def TypeUse.plain (name : String) : TypeUse := ⟨.named name, false, []⟩

structure FieldUses where
  fields : List Go.Field
  imports : List String

def valuesLine (values : List String) : String :=
  "Values: " ++ ", ".intercalate (values.map Text.quote) ++ "."

def valuesParagraph (node : TypeNode) : List String :=
  if node.reference.isNone && !node.literals.isEmpty then [valuesLine node.literals] else []

/-- Comment of a field; none when it would hold the name alone. -/
def fieldDoc (node : TypeNode) : List String :=
  let doc := ((Doc.ofLead node.fieldIdent node.docs).paragraph (valuesParagraph node)).notes
    "property" node.experimental node.deprecated
  if doc.described then doc.lines else []

def fieldTag (node : TypeNode) : String :=
  if node.optional then node.wireName ++ ",omitempty" else node.wireName

/-- Optional fields are pointers unless the zero value reads as absent; a reference of a record to
itself always is one. -/
def fieldType (node : TypeNode) (owner : String) (use : TypeUse) : TypeExpr :=
  let selfReference := node.reference.isSome && use.type.text == owner
  if selfReference || (node.optional && !use.nullable) then .pointer use.type else use.type

def fieldScope (domain owner : String) : NameScope :=
  ⟨if owner.isEmpty then "inline struct in " ++ domain
    else "struct " ++ domain ++ "." ++ owner, []⟩

namespace Site

def referenceUse (site : Site) (raw : String) : Except Error TypeUse :=
  match site.shared with
  | some ident => .error (.sharedScope ident raw)
  | none => do
    let reference ← Reference.resolve raw site.domain
    let nullable := site.exemptions.covers reference
    match reference.scope with
    | .own => return ⟨.named reference.ident, nullable, []⟩
    | .package name =>
      let package := Imports.domain site.root name
      return ⟨.imported package reference.ident, nullable, [package.path]⟩
    | .shared =>
      let package := Imports.internal site.root
      return ⟨.imported package reference.ident, nullable, [package.path]⟩

mutual
def use (site : Site) : TypeNode → Except Error TypeUse
  | node@⟨_, _, _, reference, items, properties, _, _, _, _, _⟩ => do
    match ← node.shape site.domain with
    | .reference => site.referenceUse (reference.getD "")
    | .sequence =>
      match ← itemUse site items with
      | some element => return ⟨.slice element.type, true, element.imports⟩
      | none => .error (.missingKind site.domain (node.label ++ "[]"))
    | .record =>
      let uses ← fieldUses site "" (fieldScope site.domain "") properties
      return ⟨.struct uses.fields, false, uses.imports⟩
    | .any | .raw => return ⟨.imported Imports.json "RawMessage", true, [Imports.json.path]⟩
    | .base64 => return ⟨.bytes, true, []⟩
    | .enumeration | .string => return .plain "string"
    | .boolean => return .plain "bool"
    | .number | .timestamp _ => return .plain "float64"
    | .integer => return .plain "int"

def itemUse (site : Site) : Option TypeNode → Except Error (Option TypeUse)
  | none => .ok none
  | some node => do return some (← site.use node)

def fieldUses (site : Site) (owner : String) (scope : NameScope) :
    List TypeNode → Except Error FieldUses
  | [] => .ok ⟨[], []⟩
  | node :: nodes => do
    let scope ← scope.declare node.fieldIdent
    let use ← site.use node
    let rest ← fieldUses site owner scope nodes
    let field := .mk (fieldDoc node) node.fieldIdent (fieldType node owner use) (some (fieldTag node))
    return ⟨field :: rest.fields, use.imports ++ rest.imports⟩
end

def structFields (site : Site) (nodes : List TypeNode) (owner : String) :
    Except Error FieldUses :=
  site.fieldUses owner (fieldScope site.domain owner) nodes

end Site

end Bindings.Emission
