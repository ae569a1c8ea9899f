import Bindings.Json.Number
import Bindings.Text.Quoted

/-! Values of a JSON document and their compact text. -/

set_option autoImplicit false

namespace Bindings.Json

mutual
inductive Value where
  | null
  | bool (b : Bool)
  | number (n : Number)
  | string (s : String)
  | array (items : Values)
  | object (members : Pairs)

inductive Values where
  | nil
  | cons (head : Value) (tail : Values)

inductive Pairs where
  | nil
  | cons (key : String) (value : Value) (tail : Pairs)
end

def Values.ofList : List Value → Values
  | [] => .nil
  | head :: tail => .cons head (ofList tail)

def Pairs.ofList : List (String × Value) → Pairs
  | [] => .nil
  | (key, value) :: tail => .cons key value (ofList tail)

def Value.ofList {α : Type} (f : α → Value) (xs : List α) : Value :=
  .array (Values.ofList (xs.map f))

def Value.ofPairs (pairs : List (String × Value)) : Value := .object (Pairs.ofList pairs)

def Value.ofNat (n : Nat) : Value := .number (Number.ofNat n)

/-- Insertion in key order; a value that is already there under the key stays. -/
def Pairs.insert (key : String) (value : Value) : Pairs → Pairs
  | .nil => .cons key value .nil
  | .cons k v tail =>
    if key < k then .cons key value (.cons k v tail)
    else if key = k then .cons k v tail
    else .cons k v (tail.insert key value)

abbrev Pieces := List String

mutual
/-- Compact text with nothing between the tokens, put in front of `rest`. -/
def Value.pieces : Value → Pieces → Pieces
  | .null, rest => "null" :: rest
  | .bool true, rest => "true" :: rest
  | .bool false, rest => "false" :: rest
  | .number n, rest => n.quantity.text :: rest
  | .string s, rest => Text.quote s :: rest
  | .array .nil, rest => "[]" :: rest
  | .array (.cons head tail), rest => "[" :: head.pieces (tail.pieces rest)
  | .object .nil, rest => "\x7b\x7d" :: rest
  | .object (.cons key value tail), rest =>
    "\x7b" :: Text.quote key :: ":" :: value.pieces (tail.pieces rest)

def Values.pieces : Values → Pieces → Pieces
  | .nil, rest => "]" :: rest
  | .cons head tail, rest => "," :: head.pieces (tail.pieces rest)

def Pairs.pieces : Pairs → Pieces → Pieces
  | .nil, rest => "\x7d" :: rest
  | .cons key value tail, rest => "," :: Text.quote key :: ":" :: value.pieces (tail.pieces rest)
end

def Value.text (v : Value) : String := String.join (v.pieces [])

end Bindings.Json
