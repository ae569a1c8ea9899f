import Bindings.Workspace.Script

/-! Reading the text of a script from left to right. -/

set_option autoImplicit false

namespace Bindings.Workspace.Script

/-- A document whose text begins after the line. -/
structure Announced where
  number : Nat
  /-- The line after its last one. -/
  ending : List Char
  isQuoted : Bool
  /-- Whether tabs at the beginnings of lines are left out. -/
  stripsTabs : Bool

/-- Where a reader is, and the documents of the part that has been read. -/
structure Cursor where
  rest : List Char
  line : Nat := 1
  announced : List Announced := []
  documents : Documents := []
  /-- How many documents have been announced. -/
  count : Nat := 0

abbrev Reader := StateT Cursor (Except ScriptFault)

namespace Reader

def fault {α : Type} (message : String) : Reader α := do
  throw ⟨(← get).line, message⟩

def joinLines : Reader Unit :=
  modify fun cursor =>
    let (rest, line) := joined cursor.rest cursor.line
    { cursor with rest := rest, line := line }
where
  joined : List Char → (line : Nat) → List Char × Nat
    | '\\' :: '\n' :: rest, line => joined rest (line + 1)
    | rest, line => (rest, line)

def peekRaw : Reader (Option Char) := return (← get).rest.head?

def peek : Reader (Option Char) := do
  joinLines
  peekRaw

def skip : Reader Unit :=
  modify fun cursor =>
    match cursor.rest with
    | [] => cursor
    | c :: rest =>
      { cursor with rest := rest, line := if c = '\n' then cursor.line + 1 else cursor.line }

def accept (c : Char) : Reader Bool := do
  if (← peek) = some c then
    skip
    return true
  else return false

def takeWhile (p : Char → Bool) : Reader (List Char) := do
  joinLines
  let cursor ← get
  set { cursor with rest := cursor.rest.dropWhile p }
  return cursor.rest.takeWhile p

def takeThrough (last : Char) (message : String) : Reader (List Char) := do
  let cursor ← get
  let taken := cursor.rest.takeWhile (· ≠ last)
  let line := cursor.line + taken.count '\n'
  match cursor.rest.dropWhile (· ≠ last) with
  | [] => throw ⟨line, message⟩
  | _ :: rest =>
    set { cursor with rest := rest, line := line }
    return taken

end Reader

end Bindings.Workspace.Script
