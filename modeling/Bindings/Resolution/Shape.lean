import Bindings.Error
import Bindings.Protocol.Names
import Bindings.Text.Encoding

/-! What a type node becomes in the bindings. -/

set_option autoImplicit false

namespace Bindings

inductive Kind where
  | boolean
  | string
  | number
  | integer
  | object
  | array
  | any
  deriving DecidableEq

def Kind.ofText? : String → Option Kind
  | "boolean" => some .boolean
  | "string" => some .string
  | "number" => some .number
  | "integer" => some .integer
  | "object" => some .object
  | "array" => some .array
  | "any" => some .any
  | _ => none

inductive TimeUnit where
  | seconds
  | milliseconds
  deriving DecidableEq

inductive Shape where
  | reference
  | timestamp (unit : TimeUnit)
  | enumeration
  /-- A string of base64 data, decoded to bytes. -/
  | base64
  /-- A declared object without properties, passed on untouched. -/
  | raw
  /-- Any JSON value. -/
  | any
  | boolean
  | string
  | number
  | integer
  | record
  | sequence
  deriving DecidableEq

def Shape.isNullable : Shape → Bool
  | .sequence | .raw | .base64 | .any | .enumeration => true
  | _ => false

def timestampNames : List String := ["TimeSinceEpoch", "MonotonicTime", "Timestamp"]

/-- Declarations that stay plain numbers all the same, by domain and name. -/
def plainTimestamps : List (String × String) := [("Input", "TimeSinceEpoch")]

/-- The one domain that counts milliseconds is Runtime. -/
def TimeUnit.ofDomain (domain : String) : TimeUnit :=
  if domain = "Runtime" then .milliseconds else .seconds

def TypeNode.isTimestamp (node : TypeNode) (kind : Kind) (domain : String) : Bool :=
  match node.id with
  | some id =>
    kind = .number && timestampNames.contains id && !plainTimestamps.contains (domain, id)
  | none => false

def TypeNode.plainShape (node : TypeNode) : Kind → Shape
  | .string => if node.description.any Text.statesBase64 then .base64 else .string
  | .object =>
    if !node.properties.isEmpty then .record else if node.isDeclared then .raw else .any
  | .array => .sequence
  | .any => .any
  | .boolean => .boolean
  | .number => .number
  | .integer => .integer

/-- The shape of a node that is declared or used in `domain`: a reference counts first, then the
timestamps, then literals, then the kind. -/
def TypeNode.shape (node : TypeNode) (domain : String) : Except Error Shape :=
  if node.reference.isSome then .ok .reference
  else
    match node.kind with
    | none => .error (.missingKind domain node.label)
    | some raw =>
      match Kind.ofText? raw with
      | none => .error (.unknownKind domain node.label raw)
      | some kind =>
        if node.isTimestamp kind domain then .ok (.timestamp (.ofDomain domain))
        else if !node.literals.isEmpty then .ok .enumeration
        else .ok (node.plainShape kind)

end Bindings
