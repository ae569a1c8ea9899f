import Bindings.Text.Split
import Bindings.Workspace.Script.Words

/-! Tokens of a script. -/

set_option autoImplicit false

namespace Bindings.Workspace.Script

inductive Operator where
  | semicolon
  | background
  | both
  | either
  | pipe
  | opening
  | closing
  | caseEnd
  deriving DecidableEq

inductive Sign where
  | file (access : System.Access)
  | copy
  | document (stripsTabs : Bool)

inductive Token where
  | word (word : Word)
  | operator (operator : Operator)
  | redirection (descriptor : Nat) (sign : Sign)
  | lineEnd
  | finish

inductive Keyword where
  | among
  | body
  | bodyEnd
  | branch
  | branchEnd
  | choice
  | choiceEnd
  | closing
  | consequence
  | each
  | negation
  | opening
  | otherBranch
  | otherwise
  | untilLoop
  | whileLoop
  deriving DecidableEq

namespace Keyword

def all : List (Keyword × String) :=
  [(.among, "in"), (.body, "do"), (.bodyEnd, "done"), (.branch, "if"), (.branchEnd, "fi"),
   (.choice, "case"), (.choiceEnd, "esac"), (.closing, "\x7d"), (.consequence, "then"),
   (.each, "for"), (.negation, "!"), (.opening, "\x7b"), (.otherBranch, "elif"),
   (.otherwise, "else"), (.untilLoop, "until"), (.whileLoop, "while")]

def text (keyword : Keyword) : String := (all.lookup keyword).getD ""

def ofText? (text : List Char) : Option Keyword :=
  (all.find? fun item => item.2.toList = text).map (·.1)

def endsList (keyword : Keyword) : Bool :=
  [.body, .bodyEnd, .branchEnd, .choiceEnd, .closing, .consequence, .otherBranch,
   .otherwise].contains keyword

end Keyword

def Operator.text : Operator → String
  | .semicolon => ";"
  | .background => "&"
  | .both => "&&"
  | .either => "||"
  | .pipe => "|"
  | .opening => "("
  | .closing => ")"
  | .caseEnd => ";;"

namespace Token

def keyword? : Token → Option Keyword
  | .word content => content.plain?.bind Keyword.ofText?
  | _ => none

def isOperator (token : Token) (op : Operator) : Bool :=
  match token with
  | .operator other => other = op
  | _ => false

def endsList (token : Token) : Bool :=
  match token with
  | .finish => true
  | .operator op => op = .closing || op = .caseEnd
  | token => token.keyword?.any Keyword.endsList

def quoted (text : String) : String := "\"" ++ text ++ "\""

def shown (token : Token) : String :=
  match token with
  | .word _ => (token.keyword?.map fun keyword => quoted keyword.text).getD "word"
  | .operator op => quoted op.text
  | .redirection _ _ => "redirection"
  | .lineEnd => "newline"
  | .finish => "end of file"

end Token

/-! Reading tokens -/

namespace Tokens

open Words (Commands)

def withoutBlanks : List Char → (line : Nat) → List Char × Nat
  | ' ' :: rest, line => withoutBlanks rest line
  | '\t' :: rest, line => withoutBlanks rest line
  | '\\' :: '\n' :: rest, line => withoutBlanks rest (line + 1)
  | '#' :: rest, line => (rest.dropWhile (· ≠ '\n'), line)
  | rest, line => (rest, line)

def skipBlanks : Reader Unit :=
  modify fun cursor =>
    let (rest, line) := withoutBlanks cursor.rest cursor.line
    { cursor with rest := rest, line := line }

/-- Read pieces of another text; the documents in it count as those of the script. -/
def within (text : List Char) (reader : Reader Word) : Reader Word := do
  let outer ← get
  set { outer with rest := text, announced := [] }
  let word ← reader
  let inner ← get
  set { outer with documents := inner.documents, count := inner.count }
  return word

def document (commands : Commands) (announced : Announced) : Reader Unit := do
  let cursor ← get
  let stripped (line : List Char) : List Char :=
    if announced.stripsTabs then line.dropWhile (· = '\t') else line
  let lines := Text.splitWhere (· = '\n') cursor.rest
  let body := (lines.map stripped).takeWhile (· ≠ announced.ending)
  let isEnded := body.length < lines.length
  let text := if isEnded then body.flatMap (· ++ ['\n']) else ['\n'].intercalate body
  let word ← if announced.isQuoted then pure [.quoted text]
    else within text (Words.pieces commands (text.length + 1) .document)
  modify fun now =>
    { now with
      rest := ['\n'].intercalate (lines.drop (body.length + 1))
      line := cursor.line + body.length + (if isEnded then 1 else 0)
      documents := now.documents ++ [(announced.number, word)] }

def documents (commands : Commands) : Reader Unit := do
  let announced := (← get).announced
  modify fun cursor => { cursor with announced := [] }
  for one in announced do
    document commands one

def redirection (descriptor : Option Nat) : Reader Token := do
  if ← Reader.accept '>' then
    let sign ← if ← Reader.accept '>' then pure (.file .append)
      else if ← Reader.accept '|' then pure (.file .renew)
      else if ← Reader.accept '&' then pure .copy
      else pure (.file .replace)
    return .redirection (descriptor.getD 1) sign
  else
    Reader.skip
    let sign ← if ← Reader.accept '<' then
        return .redirection (descriptor.getD 0) (.document (← Reader.accept '-'))
      else if ← Reader.accept '&' then pure .copy
      else if ← Reader.accept '>' then pure (.file .update)
      else pure (.file .read)
    return .redirection (descriptor.getD 0) sign

def next (commands : Commands) : Reader Token := do
  skipBlanks
  match ← Reader.peek with
  | none =>
    documents commands
    return .finish
  | some '\n' =>
    Reader.skip
    documents commands
    return .lineEnd
  | some '&' =>
    Reader.skip
    return .operator (if ← Reader.accept '&' then .both else .background)
  | some '|' =>
    Reader.skip
    return .operator (if ← Reader.accept '|' then .either else .pipe)
  | some ';' =>
    Reader.skip
    return .operator (if ← Reader.accept ';' then .caseEnd else .semicolon)
  | some '(' =>
    Reader.skip
    return .operator .opening
  | some ')' =>
    Reader.skip
    return .operator .closing
  | some '<' => redirection none
  | some '>' => redirection none
  | some c =>
    let cursor ← get
    if c.isDigit then
      Reader.skip
      let following ← Reader.peek
      if following = some '<' || following = some '>' then
        return ← redirection (some (c.toNat - '0'.toNat))
      set cursor
    return .word (← Words.pieces commands (cursor.rest.length + 1) .plain)

end Tokens

end Bindings.Workspace.Script
