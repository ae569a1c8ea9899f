import Bindings.Emission.Chunk
import Bindings.Emission.TypeUse

/-! Declarations of types: enumerations, timestamps, raw JSON, records and plain names. -/

set_option autoImplicit false

namespace Bindings.Emission

open Go (Assignment Body Clause Constant Decl Doc Expr Function NameScope Param Signature Statement
  TypeExpr)

def nullLiteral : Expr := .literal "null"

def errorResult : Param := .unnamed (.named "error")

def method (doc : List String) (self : String) (receiver : TypeExpr) (name : String)
    (params results : List Param) (body : List Statement) : Decl :=
  .function ⟨doc, some ⟨some self, receiver⟩, name, ⟨params, results⟩, .block body⟩

def returnNull : Statement :=
  .leave [.convert .bytes nullLiteral, .ident "nil"]

def marshalResults : List Param := [.unnamed .bytes, errorResult]

def dataParam : Param := ⟨some "data", .bytes⟩

def dataIsNull : Expr := .binary (.call (.ident "string") [.ident "data"]) "==" nullLiteral

def unmarshalInto (target : String) : Assignment :=
  ⟨[.ident "err"], true,
    [.call (.imported Imports.json "Unmarshal") [.ident "data", .address (.ident target)]]⟩

def enumConstants (ident : String) (literals : List String) : List Constant :=
  ⟨ident ++ "NotSet", ""⟩ :: literals.map fun value => ⟨ident ++ Name.literal value, value⟩

def enumValid (ident : String) (literals : List String) : Decl :=
  method ["Valid reports whether e is one of the declared values."] "e" (.named ident) "Valid" []
    [.unnamed (.named "bool")]
    [.switch (.ident "e")
      [.mk (literals.map Expr.text) [.leave [.ident "true"]],
       .default [.leave [.ident "false"]]]]

def enumString (ident : String) : Decl :=
  method [] "e" (.named ident) "String" [] [.unnamed (.named "string")]
    [.leave [.call (.ident "string") [.ident "e"]]]

def enumMarshal (ident : String) : Decl :=
  let unset := ident ++ "NotSet"
  method ["MarshalJSON encodes " ++ unset ++ " as null."] "e" (.named ident) "MarshalJSON" []
    marshalResults
    [.when (.binary (.ident "e") "==" (.ident unset)) [returnNull],
     .leave [.call (.imported Imports.json "Marshal") [.call (.ident "string") [.ident "e"]]]]

/-- Null is decoded to the unset value, every text but the literals is rejected. -/
def enumUnmarshal (ident : String) : Decl :=
  let unset := ident ++ "NotSet"
  method ["UnmarshalJSON decodes null as " ++ unset ++ " and rejects unknown values."] "e"
    (.pointer (.named ident)) "UnmarshalJSON" [dataParam] [errorResult]
    [.when dataIsNull
      [.set (.unary "*" (.ident "e")) (.ident unset), .leave [.ident "nil"]],
     .declare "s" (.named "string"),
     .cond (some (unmarshalInto "s")) (.isNotNil (.ident "err")) [.leave [.ident "err"]] [],
     .define "v" (.call (.ident ident) [.ident "s"]),
     .when (.unary "!" (.invoke (.ident "v") "Valid" []))
      [.leave [.call (.imported Imports.fmt "Errorf")
        [.literal ("bad " ++ ident ++ ": %q"), .ident "s"]]],
     .set (.unary "*" (.ident "e")) (.ident "v"),
     .leave [.ident "nil"]]

def enumDecls (doc : List String) (ident : String) (literals : List String) : List Decl :=
  [.type doc ident (.named "string"),
   .constants [ident ++ " as enums."] (some (.named ident)) (enumConstants ident literals),
   enumValid ident literals, enumString ident, enumMarshal ident, enumUnmarshal ident]

def toFloat (name : String) : Expr := .call (.ident "float64") [.ident name]

/-- Seconds since the epoch from the wire number of a timestamp `t`. -/
def TimeUnit.inSeconds : TimeUnit → Expr
  | .seconds => toFloat "t"
  | .milliseconds => .binary (toFloat "t") "/" (.number "1000")

def TimeUnit.word : TimeUnit → String
  | .seconds => "seconds"
  | .milliseconds => "milliseconds"

def timestampDecls (doc : List String) (ident : String) (unit : TimeUnit) : List Decl :=
  let receiver : TypeExpr := .named ident
  let time : TypeExpr := .imported Imports.time "Time"
  [.type doc ident (.named "float64"),
   method ["String calls (time.Time).String()."] "t" receiver "String" []
     [.unnamed (.named "string")]
     [.leave [.invoke (.invoke (.ident "t") "Time" []) "String" []]],
   method ["Time converts the timestamp, in " ++ TimeUnit.word unit ++ " since epoch, to time.Time."]
     "t" receiver "Time" [] [.unnamed time]
     [.define "ts" (TimeUnit.inSeconds unit),
      .define "secs" (.call (.ident "int64") [.ident "ts"]),
      .define "nsecs" (.call (.ident "int64")
        [.binary (.paren (.binary (.ident "ts") "-" (toFloat "secs"))) "*" (.number "1e9")]),
      .leave [.call (.imported Imports.time "Unix") [.ident "secs", .ident "nsecs"]]],
   method ["MarshalJSON encodes the zero timestamp as null."] "t" receiver "MarshalJSON" []
     marshalResults
     [.when (.binary (.ident "t") "==" (.number "0")) [returnNull],
      .leave [.call (.imported Imports.json "Marshal") [toFloat "t"]]],
   method ["UnmarshalJSON decodes a number, null decodes to zero."] "t" (.pointer receiver)
     "UnmarshalJSON" [dataParam] [errorResult]
     [.set (.unary "*" (.ident "t")) (.number "0"),
      .when dataIsNull [.leave [.ident "nil"]],
      .declare "f" (.named "float64"),
      .cond (some (unmarshalInto "f")) (.isNotNil (.ident "err"))
        [.leave [.call (.imported Imports.fmt "Errorf")
          [.literal ("bad " ++ ident ++ ": %w"), .ident "err"]]] [],
      .set (.unary "*" (.ident "t")) (.call (.ident ident) [.ident "f"]),
      .leave [.ident "nil"]]]

def rawDecls (doc : List String) (ident : String) : List Decl :=
  [.type doc ident .bytes,
   method ["MarshalJSON copies behavior of json.RawMessage with omitempty support."] "b"
     (.named ident) "MarshalJSON" [] marshalResults
     [.when (.binary (.ident "b") "==" (.ident "nil")) [returnNull],
      .leave [.ident "b", .ident "nil"]],
   method ["UnmarshalJSON copies behavior of json.RawMessage."] "b" (.pointer (.named ident))
     "UnmarshalJSON" [dataParam] [errorResult]
     [.when (.binary (.ident "b") "==" (.ident "nil"))
        [.leave [.call (.imported Imports.errors "New")
          [.literal (ident ++ ": UnmarshalJSON on nil pointer")]]],
      .set (.unary "*" (.ident "b"))
        (.call (.ident "append")
          [.range (.paren (.unary "*" (.ident "b"))) (.number "0") (.number "0"),
           .spread (.ident "data")]),
      .leave [.ident "nil"]]]

namespace Site

/-- The identifiers of the constants count for the package scope. -/
def declareEnum (site : Site) (node : TypeNode) (ident : String) (scope : NameScope) :
    Except Error NameScope :=
  if node.literals.any String.isEmpty then
    .error (.emptyLiteral site.domain (node.id.getD ""))
  else scope.declareAll ((enumConstants ident node.literals).map (·.name))

def definition (site : Site) (node : TypeNode) (ident : String) (doc : Doc) (scope : NameScope) :
    Except Error (NameScope × Chunk) := do
  match ← node.shape site.domain with
  | .enumeration =>
    let scope ← site.declareEnum node ident scope
    return (scope, .ofDecls [Imports.json, Imports.fmt] (enumDecls doc.lines ident node.literals))
  | .timestamp unit =>
    return (scope, .ofDecls [Imports.json, Imports.fmt, Imports.time]
      (timestampDecls doc.lines ident unit))
  | .raw => return (scope, .ofDecls [Imports.errors] (rawDecls doc.lines ident))
  | .record =>
    let uses ← site.structFields node.properties ident
    return (scope, ⟨uses.imports, [⟨.type doc.lines ident (.struct uses.fields), true⟩]⟩)
  | _ =>
    let use ← site.use node
    return (scope, ⟨use.imports, [⟨.type doc.lines ident use.type, true⟩]⟩)

end Site

def typeDoc (node : TypeNode) (ident : String) : Doc :=
  (Doc.ofLead ident node.docs).notes "type" node.experimental node.deprecated

/-- A declared type in the package of its domain: a shared one is an alias there. -/
def Site.declared (site : Site) (scope : NameScope) (node : TypeNode) :
    Except Error (NameScope × Chunk) := do
  let ident := node.ident site.domain
  let scope ← scope.declare ident
  match sharedIdent? site.domain (node.id.getD "") with
  | some shared =>
    let package := Imports.internal site.root
    return (scope, .ofDecls [package]
      [.synonym (typeDoc node ident).lines ident (.imported package shared)])
  | none => site.definition node ident (typeDoc node ident) scope

end Bindings.Emission
