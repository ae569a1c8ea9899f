import Bindings.Json.Value

/-! A document as far as it can be read.

A text that stops being JSON somewhere still has a well-formed beginning. A draft
keeps that beginning and marks where it tears, so that a reader of records meets
the faults of a document in the order in which they stand.
-/

set_option autoImplicit false

namespace Bindings.Json

mutual
inductive Draft where
  | null
  | bool (b : Bool)
  | number (n : Number)
  | string (s : String)
  /-- A string that is well formed apart from a surrogate escape without its partner. -/
  | unpaired
  | array (items : Items)
  | object (members : Members)
  /-- No value can be read here. -/
  | torn

inductive Items where
  | done
  | torn
  | item (head : Draft) (tail : Items)

inductive Members where
  | done
  | torn
  /-- A key without text has a surrogate escape without its partner. -/
  | member (key : Option String) (value : Draft) (tail : Members)
end

mutual
/-- Whether the draft can be passed over: it tears nowhere, whatever its leaves hold. -/
def Draft.isWhole : Draft → Bool
  | .array items => items.isWhole
  | .object members => members.isWhole
  | .torn => false
  | _ => true

def Items.isWhole : Items → Bool
  | .done => true
  | .torn => false
  | .item head tail => head.isWhole && tail.isWhole

def Members.isWhole : Members → Bool
  | .done => true
  | .torn => false
  | .member _ value tail => value.isWhole && tail.isWhole
end

mutual
/-- The value of a draft without faults: members in key order, the last one under each key. -/
def Draft.value? : Draft → Option Value
  | .null => some .null
  | .bool b => some (.bool b)
  | .number n => some (.number n)
  | .string s => some (.string s)
  | .unpaired => none
  | .array items => items.values?.map .array
  | .object members => members.pairs?.map .object
  | .torn => none

def Items.values? : Items → Option Values
  | .done => some .nil
  | .torn => none
  | .item head tail => do return .cons (← head.value?) (← tail.values?)

def Members.pairs? : Members → Option Pairs
  | .done => some .nil
  | .torn => none
  | .member none _ _ => none
  | .member (some key) value tail => do
    let later ← tail.pairs?
    let first ← value.value?
    return later.insert key first
end

mutual
def Value.draft : Value → Draft
  | .null => .null
  | .bool b => .bool b
  | .number n => .number n
  | .string s => .string s
  | .array items => .array items.drafts
  | .object members => .object members.drafts

def Values.drafts : Values → Items
  | .nil => .done
  | .cons head tail => .item head.draft tail.drafts

def Pairs.drafts : Pairs → Members
  | .nil => .done
  | .cons key value tail => .member (some key) value.draft tail.drafts
end

end Bindings.Json
