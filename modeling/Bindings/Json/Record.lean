import Bindings.Json.Reader
import Bindings.Text.Shown

/-! Reading records out of drafts.

A record is an object with known keys, or an array of its fields in their order.
Unknown members are passed over. The first fault in document order is the answer:
a repeated key counts before its value, a missing field at the closing brace.
-/

set_option autoImplicit false

namespace Bindings.Json

inductive Found where
  | null
  | boolean (b : Bool)
  | number (n : Number)
  | string (s : String)
  | sequence
  | map

inductive Expected where
  | string
  | boolean
  | sequence
  | record (name : String)

inductive Fault where
  /-- The text is not JSON, holds a number or string that cannot be kept, or nests too deep. -/
  | grammar
  | missingField (key : String)
  | duplicateField (key : String)
  | invalidType (found : Found) (expected : Expected)
  | invalidLength (count : Nat) (record : String) (fields : Nat)

def Found.text : Found → String
  | .null => "null"
  | .boolean b => "boolean `" ++ (if b then "true" else "false") ++ "`"
  | .number n =>
    match n.quantity with
    | .integer value => "integer `" ++ toString value ++ "`"
    | quantity => "floating point `" ++ quantity.text ++ "`"
  | .string s => "string " ++ Text.shown s
  | .sequence => "sequence"
  | .map => "map"

def Expected.text : Expected → String
  | .string => "a string"
  | .boolean => "a boolean"
  | .sequence => "a sequence"
  | .record name => "struct " ++ name

def Fault.message : Fault → String
  | .grammar => "JSON syntax"
  | .missingField key => "missing field `" ++ key ++ "`"
  | .duplicateField key => "duplicate field `" ++ key ++ "`"
  | .invalidType found expected => "invalid type: " ++ found.text ++ ", expected " ++ expected.text
  | .invalidLength count record fields =>
    "invalid length " ++ toString count ++ ", expected struct " ++ record ++ " with "
      ++ toString fields ++ " elements"

/-- The fault of a draft that is not what is expected. A scalar has to be readable before its type
counts. -/
def Draft.mismatch (draft : Draft) (expected : Expected) : Fault :=
  match draft with
  | .null => .invalidType .null expected
  | .bool b => .invalidType (.boolean b) expected
  | .number n =>
    match n.quantity with
    | .outOfRange => .grammar
    | _ => .invalidType (.number n) expected
  | .string s => .invalidType (.string s) expected
  | .unpaired => .grammar
  | .array _ => .invalidType .sequence expected
  | .object _ => .invalidType .map expected
  | .torn => .grammar

def depthLimit : Nat := 127

abbrev Read (α : Type) := Draft → Except Fault α

def readText : Read String
  | .string s => .ok s
  | draft => .error (draft.mismatch .string)

def readBool : Read Bool
  | .bool b => .ok b
  | draft => .error (draft.mismatch .boolean)

def readOptional {α : Type} (read : Read α) : Read (Option α)
  | .null => .ok none
  | draft => (read draft).map some

def readEach {α : Type} (read : Read α) : Items → Except Fault (List α)
  | .done => .ok []
  | .torn => .error .grammar
  | .item head tail => do
    let first ← read head
    let others ← readEach read tail
    return first :: others

def readShut {α : Type} (expected : Expected) : Read α
  | .array items =>
    match expected with
    | .sequence | .record _ => .error .grammar
    | _ => .error ((Draft.array items).mismatch expected)
  | .object members =>
    match expected with
    | .record _ => .error .grammar
    | _ => .error ((Draft.object members).mismatch expected)
  | draft => .error (draft.mismatch expected)

def readList {α : Type} (read : Read α) : Read (List α)
  | .array items => readEach read items
  | draft => .error (draft.mismatch .sequence)

def readScalars {α : Type} (read : Read α) : (depth : Nat) → Read (List α)
  | 0 => readShut .sequence
  | _ + 1 => readList read

/-- A key of a record and what its value does to the record. -/
structure Field (α : Type) where
  key : String
  required : Bool
  read : Draft → α → Except Fault α

structure Record (α : Type) where
  name : String
  fields : List (Field α)
  blank : α

namespace Record

variable {α : Type}

def readMembers (fields : List (Field α)) :
    Members → (seen : List String) → α → Except Fault (List String × α)
  | .done, seen, value => .ok (seen, value)
  | .torn, _, _ => .error .grammar
  | .member none _ _, _, _ => .error .grammar
  | .member (some key) draft rest, seen, value =>
    match fields.find? fun field => field.key == key with
    | none => if draft.isWhole then readMembers fields rest seen value else .error .grammar
    | some field =>
      if seen.contains key then .error (.duplicateField key)
      else do
        let value ← field.read draft value
        readMembers fields rest (key :: seen) value

def readPositions (record : Record α) :
    (fields : List (Field α)) → (index : Nat) → Items → α → Except Fault α
  | [], _, .done, value => .ok value
  | [], _, _, _ => .error .grammar
  | field :: fields, index, .done, value =>
    if field.required then .error (.invalidLength index record.name record.fields.length)
    else readPositions record fields (index + 1) .done value
  | _ :: _, _, .torn, _ => .error .grammar
  | field :: fields, index, .item head tail, value => do
    let value ← field.read head value
    readPositions record fields (index + 1) tail value

def read (record : Record α) : Read α
  | .object members => do
    let (seen, value) ← readMembers record.fields members [] record.blank
    match record.fields.find? fun field => field.required && !seen.contains field.key with
    | some field => .error (.missingField field.key)
    | none => .ok value
  | .array items => record.readPositions record.fields 0 items record.blank
  | draft => .error (draft.mismatch (.record record.name))

end Record

def Document.read {α : Type} (document : Document) (read : Read α) : Except Fault α := do
  let value ← read document.draft
  if document.endsThere then return value else .error .grammar

end Bindings.Json
