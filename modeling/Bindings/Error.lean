import Bindings.Json.Record

/-! Why no bindings can be generated. -/

set_option autoImplicit false

namespace Bindings

inductive Error where
  /-- A document cannot be read as a protocol description. -/
  | malformed (fault : Json.Fault)
  /-- The kind of a type node is not one of the known ones. -/
  | unknownKind (domain name kind : String)
  /-- A type node has neither a kind nor a reference. -/
  | missingKind (domain name : String)
  /-- A reference does not consist of a domain and a type name. -/
  | invalidReference (domain reference : String)
  /-- A reference names no declared type. -/
  | unresolvedReference (domain reference : String)
  /-- Two names of one generated scope become the same identifier. -/
  | duplicateIdentifier (scope ident : String)
  /-- Packages would import each other along a closed path. -/
  | importCycle (path : List String)
  /-- A type of the shared package refers back into a domain. -/
  | sharedScope (name reference : String)
  /-- An enumeration declares the empty text, which stands for its unset value. -/
  | emptyLiteral (domain name : String)
  | unknownLevel (name : String)

/-- Who has to mend what: the description, the names in it, or the configuration. -/
inductive Error.Category where
  | schema
  | defect
  | config
  deriving DecidableEq

def Error.category : Error → Error.Category
  | .malformed _ | .unknownKind .. | .missingKind .. | .invalidReference ..
  | .unresolvedReference .. => .schema
  | .duplicateIdentifier .. | .importCycle _ | .sharedScope .. | .emptyLiteral .. => .defect
  | .unknownLevel _ => .config

def Error.message : Error → String
  | .malformed fault => "schema parse error: " ++ fault.message
  | .unknownKind domain name kind =>
    "unknown type kind " ++ Text.shown kind ++ " for " ++ domain ++ "." ++ name
  | .missingKind domain name =>
    "type " ++ domain ++ "." ++ name ++ " has neither a kind nor a $ref"
  | .invalidReference domain reference =>
    "invalid reference " ++ Text.shown reference ++ " in domain " ++ domain
  | .unresolvedReference domain reference =>
    "unresolved reference " ++ Text.shown reference ++ " in domain " ++ domain
  | .duplicateIdentifier scope ident => "duplicate identifier " ++ ident ++ " in " ++ scope
  | .importCycle path => "import cycle between domains: " ++ " -> ".intercalate path
  | .sharedScope name reference => "shared type " ++ name ++ " cannot reference " ++ reference
  | .emptyLiteral domain name =>
    "enum " ++ domain ++ "." ++ name
      ++ " declares an empty literal, which collides with its NotSet value"
  | .unknownLevel name => "configuration error: unknown log level: " ++ name

end Bindings
