import Bindings.Log.Event
import Bindings.Log.ValuePattern
import Bindings.Text.Split
import Bindings.Text.Utf8
import Bindings.Unicode.LetterTable

/-! Directives: the least level that is shown of some events.

A directive is written `target[span{field,field}]=level`; every part may be missing. Events happen
outside of spans, so a directive for a span, or for a value of a field, concerns none of them.
-/

set_option autoImplicit false

namespace Bindings.Log

open Text (Bytes)

/-- The least level that is shown of the events that come from a part of the program and have some
fields. -/
structure Directive where
  /-- How the name of the part begins, if it matters. -/
  target : Option String
  fields : List String
  level : Level
  deriving DecidableEq

namespace Directive

def concerns (directive : Directive) (event : Event) : Bool :=
  (match directive.target with
    | some part => event.target.startsWith part
    | none => true)
  && directive.fields.all (event.fieldNames.contains ·)

def isLessSpecific (first second : Directive) : Bool :=
  let size (directive : Directive) : Nat :=
    match directive.target with
    | some part => part.utf8ByteSize + 1
    | none => 0
  if size first ≠ size second then size first < size second
  else if first.fields.length ≠ second.fields.length then
    first.fields.length < second.fields.length
  else if first.target ≠ second.target then first.target.getD "" < second.target.getD ""
  else first.fields < second.fields

/-! Reading -/

def natural? (text : List Char) : Option Nat :=
  if !text.isEmpty && text.all Char.isDigit then
    some (text.foldl (fun n c => n * 10 + (c.toNat - '0'.toNat)) 0)
  else none

def ofNumber? : Nat → Option Level
  | 0 => some .off
  | 1 => some .error
  | 2 => some .warn
  | 3 => some .info
  | 4 => some .debug
  | 5 => some .trace
  | _ => none

/-- A level as a filter writes it: a name in any letter case, or a number. -/
def readLevel? (text : List Char) : Option Level :=
  let name : String := .ofList (Unicode.asciiLowercase text)
  match natural? ((Text.after? ['+'] text).getD text) with
  | some n => ofNumber? n
  | none => if name = "" then some .error else if name = "warning" then none else Level.ofName? name

def isAlphanumeric (c : Char) : Bool :=
  if Unicode.isAscii c then c.isAlphanum else Unicode.covered Unicode.alphanumericSpans c

structure Draft where
  target : Option String := none
  /-- Whether it names a span or a value. -/
  isSpecial : Bool := false
  fields : List String := []
  level : Level := .trace

inductive Place where
  | start
  | word (first : Nat)
  | span (first : Nat)
  | field (first : Nat)
  | afterFields
  | afterSpan
  | level (first : Nat)

namespace Draft

/-- The part of a text between two places, which are counted in bytes. -/
def cut? (text : Bytes) (first last : Nat) : Option (List Char) :=
  match Text.Utf8.decode ((text.take last).drop first) with
  | .ok part => some part.toList
  | .error _ => none

def named (draft : Draft) (target : List Char) : Draft :=
  { draft with target := some (.ofList target) }

def addField? (draft : Draft) (text : List Char) : Option Draft :=
  match Text.splitWhere (· == '=') text with
  | name :: value :: _ =>
    if text.isEmpty || !ValuePattern.isValid value then none
    else some { draft with isSpecial := true, fields := draft.fields ++ [.ofList name] }
  | _ =>
    if text.isEmpty then none else some { draft with fields := draft.fields ++ [.ofList text] }

def setLevel? (draft : Draft) (text : List Char) : Option Draft :=
  if text.isEmpty then some draft
  else (readLevel? text).map fun level => { draft with level := level }

def step? (text : Bytes) (draft : Draft) (place : Place) (here : Nat) (c : Char) :
    Option (Draft × Place) :=
  match place, c with
  | .start, '[' => some (draft, .span (here + 1))
  | .start, c =>
    if isAlphanumeric c || ['-', ':', '_'].contains c then some (draft, .word here) else none
  | .word first, '=' => do return (draft.named (← cut? text first here), .level (here + 1))
  | .word first, '[' => do return (draft.named (← cut? text first here), .span (here + 1))
  | .word first, _ => some (draft, .word first)
  | .span _, ']' => some ({ draft with isSpecial := true }, .afterSpan)
  | .span first, '\x7b' =>
    some ({ draft with isSpecial := draft.isSpecial || first ≠ here }, .field (here + 1))
  | .span first, _ => some (draft, .span first)
  | .field first, '\x7d' => do return (← draft.addField? (← cut? text first here), .afterFields)
  | .field first, _ => some (draft, .field first)
  | .afterFields, ']' => some (draft, .afterSpan)
  | .afterSpan, '=' => some (draft, .level (here + 1))
  | .level first, _ => some (draft, .level first)
  | _, _ => none

/-- Read the end of the text. A word alone is a level or else a target. -/
def finish? (text : Bytes) (draft : Draft) : Place → Option Draft
  | .word first => do
    let word ← cut? text first text.length
    match readLevel? word with
    | some level => return { draft with level := level }
    | none => return draft.named word
  | .level first => do draft.setLevel? (← cut? text first text.length)
  | .afterSpan => some draft
  | _ => none

def read? (text : Bytes) : Draft → Place → (here : Nat) → List Char → Option Draft
  | draft, place, _, [] => draft.finish? text place
  | draft, place, here, c :: rest => do
    let (draft, place) ← draft.step? text place here c
    read? text draft place (here + c.utf8Size) rest

end Draft

/-- Read a directive; `some none` is one that concerns no event. Places are found in the text
without the white space around it, but what stands there is taken from the text as it is. -/
def ofText? (text : List Char) : Option (Option Directive) := do
  let draft ← Draft.read? (Text.encodeUtf8 text) {} .start 0 (Unicode.trim text)
  return if draft.isSpecial then none else some ⟨draft.target, draft.fields, draft.level⟩

end Directive

end Bindings.Log
