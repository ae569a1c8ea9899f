import Bindings.Workspace.Script.Token

/-! Reading commands.

The functions below follow the grammar; `fuel` bounds how deep they call one another and is
more than the text can need.
-/

set_option autoImplicit false

namespace Bindings.Workspace.Script

open Words (Commands)

structure Reading where
  token : Token
  cursor : Cursor

abbrev Parse := StateT Reading (Except ScriptFault)

inductive Extent where
  /-- The commands of a line. -/
  | line
  /-- At least one command, up to a keyword or bracket. -/
  | body
  /-- Perhaps no command, up to a keyword or bracket. -/
  | clause
  deriving DecidableEq

/-- Commands that a function cannot be named like. -/
def specialCommands : List String :=
  [":", ".", "break", "continue", "eval", "exec", "exit", "export", "readonly", "return", "set",
   "shift", "times", "trap", "unset"]

namespace Parse

def token : Parse Token := return (← get).token

def line : Parse Nat := return (← get).cursor.line

def fail {α : Type} (message : String) : Parse α := do throw ⟨← line, message⟩

/-- Complain of the token; `expected` may name what should stand there. -/
def unexpected {α : Type} (expected : Option String := none) : Parse α := do
  let found := (← token).shown ++ " unexpected"
  fail (match expected with
    | some expected => found ++ " (expecting " ++ expected ++ ")"
    | none => found)

def hasOperator (op : Operator) : Parse Bool := return (← token).isOperator op

def hasKeyword (keyword : Keyword) : Parse Bool := return (← token).keyword? = some keyword

def assignment? : Word → Option (String × Word)
  | .text content :: pieces => do
    let (name, value) ← Text.splitOnce? '=' content
    if isName name then
      return (.ofList name, if value.isEmpty then pieces else .text value :: pieces)
    else none
  | _ => none

/-- The text of a word with what is quoted in it, as far as nothing is expanded. -/
def literal : Word → List Char
  | [] => []
  | .text content :: rest => content ++ literal rest
  | .quoted content :: rest => content ++ literal rest
  | .parameter name _ _ _ :: rest => '$' :: name.toList ++ literal rest
  | _ :: rest => literal rest

end Parse

open Parse

structure Draft where
  line : Nat
  assignments : List (String × Word) := []
  words : List Word := []
  redirections : List Redirection := []

def Draft.command (draft : Draft) : Command :=
  .simple draft.line draft.assignments draft.words draft.redirections

mutual

def advance : (fuel : Nat) → Parse Unit
  | 0 => fail "Out of space"
  | fuel + 1 => fun reading => do
    let (token, cursor) ← (Tokens.next (commands fuel)).run reading.cursor
    return ((), ⟨token, cursor⟩)

def commands : (fuel : Nat) → Commands
  | 0 => ⟨fun _ => Reader.fault "Out of space", Reader.fault "Out of space"⟩
  | fuel + 1 =>
    { ofText := fun text outer => do
        let inner := { outer with rest := text, announced := [] }
        let (body, reading) ← (advance fuel *> list fuel .clause).run ⟨.lineEnd, inner⟩
        let cursor := reading.cursor
        return (body, { outer with documents := cursor.documents, count := cursor.count })
      inBrackets := fun outer => do
        let inner := { outer with announced := [] }
        let read : Parse (List Command) := do
          advance fuel
          let body ← list fuel .clause
          if ← hasOperator .closing then return body else unexpected (some "\")\"")
        let (body, reading) ← read.run ⟨.lineEnd, inner⟩
        return (body, { reading.cursor with announced := outer.announced }) }

def skipLineEnds : (fuel : Nat) → Parse Unit
  | 0 => fail "Out of space"
  | fuel + 1 => do
    if (← token) matches .lineEnd then
      advance fuel
      skipLineEnds fuel

def list : (fuel : Nat) → Extent → Parse (List Command)
  | 0, _ => fail "Out of space"
  | fuel + 1, extent => do
    if extent ≠ .line then skipLineEnds fuel
    let first ← token
    if (first matches .lineEnd) || (first matches .finish) then return []
    if extent = .clause && first.endsList then return []
    let command ← andOr fuel
    let next : Extent := if extent = .body then .clause else extent
    match ← token with
    | .operator .background =>
      advance fuel
      return .background command :: (← list fuel next)
    | .operator .semicolon =>
      advance fuel
      return command :: (← list fuel next)
    | .lineEnd => return command :: (← list fuel next)
    | .finish => return command :: (← list fuel next)
    | _ => if extent = .line then unexpected else return [command]

def andOr : (fuel : Nat) → Parse Command
  | 0 => fail "Out of space"
  | fuel + 1 => do andOrAfter fuel (← pipeline fuel)

def andOrAfter : (fuel : Nat) → Command → Parse Command
  | 0, _ => fail "Out of space"
  | fuel + 1, first => do
    if ← hasOperator .both then
      advance fuel
      skipLineEnds fuel
      andOrAfter fuel (.both first (← pipeline fuel))
    else if ← hasOperator .either then
      advance fuel
      skipLineEnds fuel
      andOrAfter fuel (.either first (← pipeline fuel))
    else return first

def pipeline : (fuel : Nat) → Parse Command
  | 0 => fail "Out of space"
  | fuel + 1 => do
    let negated ← hasKeyword .negation
    if negated then advance fuel
    let first ← command fuel
    let stages ← pipelineAfter fuel
    let whole : Command := if stages.isEmpty then first else .pipeline (first :: stages)
    return if negated then .negation whole else whole

def pipelineAfter : (fuel : Nat) → Parse (List Command)
  | 0 => fail "Out of space"
  | fuel + 1 => do
    if ← hasOperator .pipe then
      advance fuel
      skipLineEnds fuel
      let next ← command fuel
      return next :: (← pipelineAfter fuel)
    else return []

def expect : (fuel : Nat) → Keyword → Parse Unit
  | 0, _ => fail "Out of space"
  | fuel + 1, keyword => do
    if ← hasKeyword keyword then advance fuel
    else unexpected (some (Token.quoted keyword.text))

def command : (fuel : Nat) → Parse Command
  | 0 => fail "Out of space"
  | fuel + 1 => do
    let line ← line
    match ← token with
    | .operator .opening =>
      advance fuel
      let body ← list fuel .body
      if !(← hasOperator .closing) then unexpected (some "\")\"")
      advance fuel
      return .subshell line body (← redirections fuel)
    | .redirection _ _ => simple fuel { line := line }
    | .word content =>
      match content.plain?.bind Keyword.ofText? with
      | none => simple fuel { line := line }
      | some .branch =>
        advance fuel
        redirected fuel line (← branch fuel)
      | some .whileLoop =>
        advance fuel
        redirected fuel line (← loop fuel false)
      | some .untilLoop =>
        advance fuel
        redirected fuel line (← loop fuel true)
      | some .each =>
        advance fuel
        redirected fuel line (← each fuel line)
      | some .choice =>
        advance fuel
        redirected fuel line (← choice fuel line)
      | some .opening =>
        advance fuel
        let body ← list fuel .body
        expect fuel .closing
        redirected fuel line (.group body)
      | some _ => unexpected
    | _ => unexpected

def redirected : (fuel : Nat) → (line : Nat) → Command → Parse Command
  | 0, _, _ => fail "Out of space"
  | fuel + 1, line, body => do
    match ← redirections fuel with
    | [] => return body
    | found => return .redirected line body found

def redirections : (fuel : Nat) → Parse (List Redirection)
  | 0 => fail "Out of space"
  | fuel + 1 => do
    match ← token with
    | .redirection descriptor sign =>
      advance fuel
      let redirection ← redirection fuel descriptor sign
      return redirection :: (← redirections fuel)
    | _ => return []

def redirection : (fuel : Nat) → (descriptor : Nat) → Sign → Parse Redirection
  | 0, _, _ => fail "Out of space"
  | fuel + 1, descriptor, sign => do
    match ← token with
    | .word operand =>
      let opening : Opening ← match sign with
        | .file access => pure (.file access)
        | .copy => pure .copy
        | .document stripsTabs =>
          let number := (← get).cursor.count
          let announced : Announced :=
            ⟨number, literal operand, operand.plain?.isNone, stripsTabs⟩
          modify fun reading =>
            { reading with cursor :=
              { reading.cursor with
                announced := reading.cursor.announced ++ [announced]
                count := number + 1 } }
          pure (.document number)
      advance fuel
      return .mk descriptor opening operand
    | _ => unexpected

def simple : (fuel : Nat) → Draft → Parse Command
  | 0, _ => fail "Out of space"
  | fuel + 1, draft => do
    match ← token with
    | .word content =>
      advance fuel
      match draft.words, assignment? content with
      | [], some assignment =>
        simple fuel { draft with assignments := draft.assignments ++ [assignment] }
      | words, _ => simple fuel { draft with words := words ++ [content] }
    | .redirection descriptor sign =>
      advance fuel
      let redirection ← redirection fuel descriptor sign
      simple fuel { draft with redirections := draft.redirections ++ [redirection] }
    | .operator .opening =>
      match draft with
      | ⟨_, [], [name], []⟩ =>
        advance fuel
        if !(← hasOperator .closing) then
          let found := match ← Parse.token with
            | .word _ => "word"
            | other => other.shown
          fail (found ++ " unexpected (expecting \")\")")
        match name.plain? with
        | none => fail "Bad function name"
        | some name =>
          if !isName name || specialCommands.contains (.ofList name) then
            fail "Bad function name"
          advance fuel
          skipLineEnds fuel
          return .definition (.ofList name) (← command fuel)
      | draft => if draft.words.isEmpty then unexpected else return draft.command
    | _ => return draft.command

def branch : (fuel : Nat) → Parse Command
  | 0 => fail "Out of space"
  | fuel + 1 => do
    let condition ← list fuel .body
    expect fuel .consequence
    let yes ← list fuel .body
    if ← hasKeyword .otherBranch then
      advance fuel
      return .branch condition yes [← branch fuel]
    else if ← hasKeyword .otherwise then
      advance fuel
      let no ← list fuel .body
      expect fuel .branchEnd
      return .branch condition yes no
    else
      expect fuel .branchEnd
      return .branch condition yes []

def loop : (fuel : Nat) → (untilSuccess : Bool) → Parse Command
  | 0, _ => fail "Out of space"
  | fuel + 1, untilSuccess => do
    let condition ← list fuel .body
    expect fuel .body
    let body ← list fuel .body
    expect fuel .bodyEnd
    return .loop untilSuccess condition body

def each : (fuel : Nat) → (line : Nat) → Parse Command
  | 0, _ => fail "Out of space"
  | fuel + 1, line => do
    let name := match ← token with
      | .word content => content.plain?.getD []
      | _ => []
    if !isName name then fail "Bad for loop variable"
    advance fuel
    skipLineEnds fuel
    let words ← if ← hasKeyword .among then do
        advance fuel
        let words ← wordsThrough fuel
        pure (some words)
      else
        if ← hasOperator .semicolon then advance fuel
        pure none
    skipLineEnds fuel
    expect fuel .body
    let body ← list fuel .body
    expect fuel .bodyEnd
    return .each line (.ofList name) words body

/-- Words up to the end of the line or a semicolon, which is passed. -/
def wordsThrough : (fuel : Nat) → Parse (List Word)
  | 0 => fail "Out of space"
  | fuel + 1 => do
    match ← token with
    | .word content =>
      advance fuel
      return content :: (← wordsThrough fuel)
    | .lineEnd =>
      advance fuel
      return []
    | .operator .semicolon =>
      advance fuel
      return []
    | _ => unexpected

def choice : (fuel : Nat) → (line : Nat) → Parse Command
  | 0, _ => fail "Out of space"
  | fuel + 1, line => do
    match ← token with
    | .word subject =>
      advance fuel
      skipLineEnds fuel
      expect fuel .among
      return .choice line subject (← cases fuel)
    | _ => unexpected (some "word")

def cases : (fuel : Nat) → Parse (List (List Word × List Command))
  | 0 => fail "Out of space"
  | fuel + 1 => do
    skipLineEnds fuel
    if ← hasKeyword .choiceEnd then
      advance fuel
      return []
    if ← hasOperator .opening then advance fuel
    let patterns ← patterns fuel
    let body ← list fuel .clause
    skipLineEnds fuel
    if ← hasOperator .caseEnd then
      advance fuel
      return (patterns, body) :: (← cases fuel)
    else if ← hasKeyword .choiceEnd then
      advance fuel
      return [(patterns, body)]
    else unexpected (some "\";;\"")

def patterns : (fuel : Nat) → Parse (List Word)
  | 0 => fail "Out of space"
  | fuel + 1 => do
    match ← token with
    | .word pattern =>
      advance fuel
      if ← hasOperator .pipe then
        advance fuel
        return pattern :: (← patterns fuel)
      else if ← hasOperator .closing then
        advance fuel
        return [pattern]
      else unexpected (some "\")\"")
    | _ => unexpected (some "\")\"")

end

/-- How deep a text of some length can call for. -/
def depthOf (text : List Char) : Nat := 8 * text.length + 64

def readLines (depth : Nat) : (count : Nat) → Cursor → List (List Command) → Script
  | 0, cursor, lines => ⟨lines.reverse, none, cursor.documents⟩
  | count + 1, cursor, lines =>
    match (advance depth *> list depth .line).run ⟨.lineEnd, cursor⟩ with
    | .error fault =>
      ⟨lines.reverse, some { fault with message := "Syntax error: " ++ fault.message },
        cursor.documents⟩
    | .ok (commands, reading) =>
      if reading.token matches .finish then
        ⟨(commands :: lines).reverse, none, reading.cursor.documents⟩
      else readLines depth count reading.cursor (commands :: lines)

/-- Read a script whose first line has a number and whose first document has one. -/
def ofText (text : String) (line : Nat := 1) (count : Nat := 0) : Script :=
  let text := text.toList
  readLines (depthOf text) (text.length + 1)
    { rest := text, line := line, count := count } []

end Bindings.Workspace.Script
