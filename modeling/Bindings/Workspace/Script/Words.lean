import Bindings.Workspace.Script.Cursor

/-! Reading words.

What stands for the output of commands is read by a reader of commands that is given.
-/

set_option autoImplicit false

namespace Bindings.Workspace.Script

inductive Context where
  /-- Up to a blank, the end of the line or an operator. -/
  | plain
  | quotes
  /-- The operand of a parameter, up to a closing brace. -/
  | braces (isQuoted : Bool)
  /-- Up to two closing brackets, `depth` others being open. -/
  | arithmetic (depth : Nat)
  | document

namespace Context

def isQuoted : Context → Bool
  | .plain => false
  | .braces isQuoted => isQuoted
  | _ => true

def endsPlain (c : Char) : Bool :=
  [' ', '\t', '\n', ';', '&', '|', '<', '>', '(', ')'].contains c

def escapes (context : Context) (c : Char) : Bool :=
  ['\\', '$', '\x60'].contains c || match context with
    | .document => false
    | .braces _ => c = '"' || c = '\x7d'
    | _ => c = '"'

/-- Why the end of the text must not come here. -/
def missing? : Context → Option String
  | .plain => none
  | .document => none
  | .quotes => some "Unterminated quoted string"
  | .braces true => some "Unterminated quoted string"
  | .braces false => some "Missing '\x7d'"
  | .arithmetic _ => some "Missing '))'"

end Context

namespace Words

structure Commands where
  ofText : List Char → Reader (List Command)
  inBrackets : Reader (List Command)

/-- The text in backquotes, without the backslashes that hide their meaning. -/
def unhidden (isQuoted : Bool) : List Char → List Char
  | '\\' :: c :: rest =>
    if ['\\', '$', '\x60'].contains c || (isQuoted && c = '"') then c :: unhidden isQuoted rest
    else '\\' :: c :: unhidden isQuoted rest
  | c :: rest => c :: unhidden isQuoted rest
  | [] => []

def upToBackquote : List Char → Option (List Char × List Char)
  | [] => none
  | '\x60' :: rest => some ([], rest)
  | '\\' :: c :: rest =>
    (upToBackquote rest).map fun (taken, rest) => ('\\' :: c :: taken, rest)
  | c :: rest => (upToBackquote rest).map fun (taken, rest) => (c :: taken, rest)

def backquoted (commands : Commands) (isQuoted : Bool) : Reader Piece := do
  let cursor ← get
  match upToBackquote cursor.rest with
  | none => throw ⟨cursor.line + cursor.rest.count '\n', "EOF in backquote substitution"⟩
  | some (text, rest) =>
    set { cursor with rest := rest, line := cursor.line + text.count '\n' }
    return .output (← commands.ofText (unhidden isQuoted text)) isQuoted

/-- How a parameter in braces is used, by what follows its name. The closing brace is left unless
the value itself is meant. -/
def use : Reader Use := do
  match ← Reader.peek with
  | some '\x7d' =>
    Reader.skip
    return .value
  | some ':' =>
    Reader.skip
    operator true
  | some '#' =>
    Reader.skip
    return .withoutStart (← Reader.accept '#')
  | some '%' =>
    Reader.skip
    return .withoutEnd (← Reader.accept '%')
  | _ => operator false
where
  operator (ifEmpty : Bool) : Reader Use := do
    match ← Reader.peek with
    | some '-' => Reader.skip; return .orElse ifEmpty
    | some '=' => Reader.skip; return .orAssign ifEmpty
    | some '?' => Reader.skip; return .orFail ifEmpty
    | some '+' => Reader.skip; return .instead ifEmpty
    | _ =>
      modify fun cursor => { cursor with rest := cursor.rest.tail }
      return .mistaken

def lengthUse : Reader Use := do
  if ← Reader.accept '\x7d' then return .length else return .mistaken

def parameterInBraces : Reader (List Char × Use) := do
  match ← Reader.peek with
  | some '#' =>
    Reader.skip
    match ← Reader.peek with
    | some '\x7d' =>
      Reader.skip
      return (['#'], .value)
    | some c =>
      if isNameStart c then return (← Reader.takeWhile isNameChar, ← lengthUse)
      else if c.isDigit then return (← Reader.takeWhile Char.isDigit, ← lengthUse)
      else if isSpecialParameter c && (← get).rest[1]? = some '\x7d' then
        Reader.skip
        return ([c], ← lengthUse)
      else return (['#'], ← use)
    | none => return (['#'], .mistaken)
  | some c =>
    if isNameStart c then return (← Reader.takeWhile isNameChar, ← use)
    else if c.isDigit then return (← Reader.takeWhile Char.isDigit, ← use)
    else if isSpecialParameter c then
      Reader.skip
      return ([c], ← use)
    else return ([], .mistaken)
  | none => return ([], .mistaken)

/-- The context of an operand. Patterns are read as if they were not quoted. -/
def operandContext (use : Use) (context : Context) : Context :=
  match use with
  | .withoutStart _ => .braces false
  | .withoutEnd _ => .braces false
  | _ => .braces context.isQuoted

/-- What a section in quotes consists of. All arguments, alone in quotes, may be no word at all. -/
def quotedSection (content : Word) : Word :=
  match content with
  | [.parameter "@" .value [] true] => content
  | content => .quoted [] :: content

/-- Read pieces up to the end that the context sets; `fuel` bounds their number and depth. -/
def pieces (commands : Commands) : (fuel : Nat) → Context → Reader Word
  | 0, _ => Reader.fault "Out of space"
  | fuel + 1, context => do
    match ← Reader.peek, context with
    | none, context =>
      match context.missing? with
      | some message => Reader.fault message
      | none => return []
    | some '"', .quotes => Reader.skip; return []
    | some '\x7d', .braces _ => Reader.skip; return []
    | some '(', .arithmetic depth =>
      Reader.skip
      return (← pieces commands fuel (.arithmetic (depth + 1))).add '(' true
    | some ')', .arithmetic (depth + 1) =>
      Reader.skip
      return (← pieces commands fuel (.arithmetic depth)).add ')' true
    | some ')', .arithmetic 0 =>
      Reader.skip
      if ← Reader.accept ')' then return []
      return (← pieces commands fuel context).add ')' true
    | some c, context =>
      if (context matches .plain) && Context.endsPlain c then return []
      Reader.skip
      match c with
      | '\\' =>
        match ← Reader.peekRaw with
        | none => return (← pieces commands fuel context).add '\\' true
        | some next =>
          Reader.skip
          let rest ← pieces commands fuel context
          return if !context.isQuoted || context.escapes next then rest.add next true
            else (rest.add next true).add '\\' true
      | '\'' =>
        if context.isQuoted then return (← pieces commands fuel context).add c true
        let content ← Reader.takeThrough '\'' "Unterminated quoted string"
        return .quoted content :: (← pieces commands fuel context)
      | '"' =>
        if (context matches .document) || (context matches .arithmetic _) then
          return (← pieces commands fuel context).add c true
        let content ← pieces commands fuel .quotes
        return quotedSection content ++ (← pieces commands fuel context)
      | '\x60' =>
        let piece ← backquoted commands context.isQuoted
        return piece :: (← pieces commands fuel context)
      | '$' =>
        let head ← dollar commands fuel context
        match head with
        | some piece => return piece :: (← pieces commands fuel context)
        | none => return (← pieces commands fuel context).add '$' context.isQuoted
      | c => return (← pieces commands fuel context).add c context.isQuoted
where
  /-- What a dollar sign begins, if it begins anything. -/
  dollar (commands : Commands) (fuel : Nat) (context : Context) : Reader (Option Piece) := do
    let isQuoted := context.isQuoted
    match ← Reader.peek with
    | some '(' =>
      Reader.skip
      if ← Reader.accept '(' then
        return some (.arithmetic (← pieces commands fuel (.arithmetic 0)) isQuoted)
      return some (.output (← commands.inBrackets) isQuoted)
    | some '\x7b' =>
      Reader.skip
      let (name, use) ← parameterInBraces
      let operand ← match use with
        | .value => pure []
        | .length => pure []
        | use => pieces commands fuel (operandContext use context)
      return some (.parameter (.ofList name) use operand isQuoted)
    | some c =>
      if isNameStart c then
        return some (.parameter (.ofList (← Reader.takeWhile isNameChar)) .value [] isQuoted)
      else if isSpecialParameter c then
        Reader.skip
        return some (.parameter (.ofList [c]) .value [] isQuoted)
      else return none
    | none => return none

end Words

end Bindings.Workspace.Script
