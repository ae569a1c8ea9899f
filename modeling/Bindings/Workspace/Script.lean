import Bindings.Workspace.System

/-! Scripts: words, redirections and commands.

A word is made of pieces, which are expanded when a command runs. The texts of documents, which
stand below the command that reads them, are kept apart and known by their numbers.
-/

set_option autoImplicit false

namespace Bindings.Workspace

/-- What a parameter stands for. If it counts as missing when it is empty, the flag is set. -/
inductive Use where
  | value
  | length
  /-- The operand instead of a missing value. -/
  | orElse (ifEmpty : Bool)
  /-- The same, and the parameter gets that value. -/
  | orAssign (ifEmpty : Bool)
  /-- A failure instead of a missing value. -/
  | orFail (ifEmpty : Bool)
  /-- The operand instead of a value that is there. -/
  | instead (ifEmpty : Bool)
  /-- The value without what matches the operand at its start, or at its end. -/
  | withoutStart (longest : Bool)
  | withoutEnd (longest : Bool)
  | mistaken
  deriving DecidableEq

inductive Opening where
  | file (access : System.Access)
  /-- It becomes another one, or is closed. -/
  | copy
  | document (number : Nat)

mutual

/-- A part of a word. What a quoted part expands to is not cut into several words. -/
inductive Piece where
  | text (content : List Char)
  | quoted (content : List Char)
  | parameter (name : String) (use : Use) (operand : List Piece) (isQuoted : Bool)
  /-- What commands print. -/
  | output (commands : List Command) (isQuoted : Bool)
  | arithmetic (expression : List Piece) (isQuoted : Bool)

inductive Redirection where
  | mk (descriptor : Nat) (opening : Opening) (operand : List Piece)

/-- A command; lines are those on which commands begin. -/
inductive Command where
  | simple (line : Nat) (assignments : List (String × List Piece)) (words : List (List Piece))
      (redirections : List Redirection)
  | pipeline (stages : List Command)
  | negation (command : Command)
  /-- The second command only after success, or only after failure, of the first. -/
  | both (first second : Command)
  | either (first second : Command)
  | background (command : Command)
  | group (commands : List Command)
  | subshell (line : Nat) (commands : List Command) (redirections : List Redirection)
  | redirected (line : Nat) (command : Command) (redirections : List Redirection)
  | branch (condition yes no : List Command)
  /-- Runs the body as long as the condition succeeds, or fails. -/
  | loop (untilSuccess : Bool) (condition body : List Command)
  /-- Runs the body for every word; without words for every argument. -/
  | each (line : Nat) (name : String) (words : Option (List (List Piece))) (body : List Command)
  | choice (line : Nat) (subject : List Piece)
      (cases : List (List (List Piece) × List Command))
  | definition (name : String) (body : Command)

end

abbrev Word := List Piece

namespace Word

def add (c : Char) (isQuoted : Bool) (word : Word) : Word :=
  match isQuoted, word with
  | true, .quoted content :: rest => .quoted (c :: content) :: rest
  | true, word => .quoted [c] :: word
  | false, .text content :: rest => .text (c :: content) :: rest
  | false, word => .text [c] :: word

/-- The text of a word in which nothing is quoted or expanded. -/
def plain? : Word → Option (List Char)
  | [] => some []
  | .text content :: rest => (plain? rest).map (content ++ ·)
  | _ :: _ => none

end Word

structure ScriptFault where
  line : Nat
  message : String
  deriving DecidableEq

abbrev Documents := List (Nat × Word)

structure Script where
  lines : List (List Command)
  fault : Option ScriptFault
  documents : Documents

/-! Names -/

def isNameStart (c : Char) : Bool := c.isAlpha || c == '_'

def isNameChar (c : Char) : Bool := c.isAlphanum || c == '_'

def isName (name : List Char) : Bool := name.head?.any isNameStart && name.all isNameChar

def isSpecialParameter (c : Char) : Bool :=
  c.isDigit || ['?', '$', '#', '@', '*', '!', '-'].contains c

end Bindings.Workspace
