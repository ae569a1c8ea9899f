import Bindings.Json.Reader

/-! Files of keys with text values.

The format is TOML as far as it serves that purpose: a line holds `key = text`, a
comment or nothing. Keys are bare or quoted, texts are basic or literal strings on
one line or several. Any other value or structure makes the file unusable.
-/

set_option autoImplicit false

namespace Bindings.Config

open Json (hexValue?)

def isBlank (c : Char) : Bool := c == ' ' || c == '\t'

def skipBlanks (text : List Char) : List Char := text.dropWhile isBlank

/-- Control characters other than the tab. -/
def isControl (c : Char) : Bool := (c.toNat < 32 && c != '\t') || c.toNat == 127

def isBareKey (c : Char) : Bool := c.isAlphanum || c == '-' || c == '_'

def lineEnd? : List Char → Option (List Char)
  | '\n' :: rest => some rest
  | '\r' :: '\n' :: rest => some rest
  | _ => none

def hexNumber? : List Char → Option Nat
  | [] => some 0
  | digits => digits.foldlM (fun n c => (hexValue? c).map fun d => n * 16 + d) 0

def character? (n : Nat) : Option Char := if n.isValidChar then some (Char.ofNat n) else none

/-- The character after a backslash and the number of characters that spell it. -/
def escape? : List Char → Option (Char × Nat)
  | 'b' :: _ => some ('\x08', 1)
  | 't' :: _ => some ('\t', 1)
  | 'n' :: _ => some ('\n', 1)
  | 'f' :: _ => some ('\x0c', 1)
  | 'r' :: _ => some ('\r', 1)
  | 'e' :: _ => some ('\x1b', 1)
  | '"' :: _ => some ('"', 1)
  | '\\' :: _ => some ('\\', 1)
  | 'x' :: rest => numbered? 2 rest
  | 'u' :: rest => numbered? 4 rest
  | 'U' :: rest => numbered? 8 rest
  | _ => none
where
  numbered? (digits : Nat) (rest : List Char) : Option (Char × Nat) :=
    if rest.length < digits then none
    else do
      let n ← hexNumber? (rest.take digits)
      return (← character? n, digits + 1)

structure Quotes where
  mark : Char
  /-- Three marks enclose a text of several lines. -/
  long : Bool

def Quotes.escapes (quotes : Quotes) : Bool := quotes.mark == '"'

/-- The end of a long string: three marks close it, up to two before them belong to it. -/
def closing? (mark : Char) (text : List Char) : Option (List Char × List Char) :=
  let marks := text.takeWhile (· == mark)
  if marks.length < 3 then none
  else
    let inner := min (marks.length - 3) 2
    some (List.replicate inner mark, text.drop (inner + 3))

inductive Move where
  /-- The string ends with these characters, and `rest` follows it. -/
  | close (last rest : List Char)
  /-- The characters are added; `skip` more have been read, or the space up to the next character
  is `folded`. -/
  | add (characters : List Char) (skip : Nat) (folded : Bool)
  | reject

def Quotes.move (quotes : Quotes) (c : Char) (rest : List Char) : Move :=
  if c == quotes.mark then
    if !quotes.long then .close [] rest
    else
      match closing? quotes.mark (c :: rest) with
      | some (last, rest) => .close last rest
      | none => .add [c] 0 false
  else if c == '\\' && quotes.escapes then
    match escape? rest with
    | some (image, size) => .add [image] size false
    | none =>
      if quotes.long && (lineEnd? (skipBlanks rest)).isSome then .add [] 0 true else .reject
  else if quotes.long && (lineEnd? (c :: rest)).isSome then .add [c] 0 false
  else if isControl c then .reject
  else .add [c] 0 false

/-- A string after its opening marks: the text and what follows the closing marks. `read` is the
text so far, reversed. -/
def readBody (quotes : Quotes) : (skip : Nat) → (folded : Bool) → (read text : List Char) →
    Option (List Char × List Char)
  | _, _, _, [] => none
  | skip + 1, folded, read, _ :: rest => readBody quotes skip folded read rest
  | 0, folded, read, c :: rest =>
    if folded && (isBlank c || (lineEnd? (c :: rest)).isSome) then readBody quotes 0 true read rest
    else
      match quotes.move c rest with
      | .close last rest => some (read.reverse ++ last, rest)
      | .add characters skip folded => readBody quotes skip folded (characters.reverse ++ read) rest
      | .reject => none

/-- A string after its first mark; a line end right after three marks does not count. -/
def readAfterMark (mark : Char) (text : List Char) : Option (List Char × List Char) :=
  match text with
  | a :: b :: rest =>
    if a == mark && b == mark then
      readBody ⟨mark, true⟩ 0 false [] ((lineEnd? rest).getD rest)
    else readBody ⟨mark, false⟩ 0 false [] text
  | _ => readBody ⟨mark, false⟩ 0 false [] text

def readText : List Char → Option (List Char × List Char)
  | '"' :: rest => readAfterMark '"' rest
  | '\'' :: rest => readAfterMark '\'' rest
  | _ => none

def readKey : List Char → Option (List Char × List Char)
  | '"' :: rest => readBody ⟨'"', false⟩ 0 false [] rest
  | '\'' :: rest => readBody ⟨'\'', false⟩ 0 false [] rest
  | text =>
    let key := text.takeWhile isBareKey
    if key.isEmpty then none else some (key, text.dropWhile isBareKey)

def finishLine (text : List Char) : Option (List Char) :=
  match skipBlanks text with
  | [] => some []
  | '#' :: rest => endComment rest
  | rest => lineEnd? rest
where
  endComment : List Char → Option (List Char)
    | [] => some []
    | c :: rest =>
      match lineEnd? (c :: rest) with
      | some rest => some rest
      | none => if isControl c then none else endComment rest

def readLine (text : List Char) : Option (Option (String × String) × List Char) :=
  let text := skipBlanks text
  match finishLine text with
  | some rest => some (none, rest)
  | none => do
    let (key, rest) ← readKey text
    match skipBlanks rest with
    | '=' :: rest =>
      let (value, rest) ← readText (skipBlanks rest)
      return (some (.ofList key, .ofList value), ← finishLine rest)
    | _ => none

/-- The entries of a file in order. Every line uses up a character, so the length bounds them. -/
def readLines : (fuel : Nat) → List Char → Option (List (String × String))
  | _, [] => some []
  | 0, _ => none
  | fuel + 1, text => do
    let (entry, rest) ← readLine text
    let entries ← readLines fuel rest
    return entry.toList ++ entries

def hasRepetition : List String → Bool
  | [] => false
  | x :: xs => xs.contains x || hasRepetition xs

/-- The entries of a file, whose keys have to differ. A byte order mark may precede them. -/
def readTable (text : String) : Option (List (String × String)) := do
  let chars := match text.toList with
    | '\ufeff' :: rest => rest
    | chars => chars
  let entries ← readLines (chars.length + 1) chars
  if hasRepetition (entries.map (·.1)) then none else some entries

end Bindings.Config
