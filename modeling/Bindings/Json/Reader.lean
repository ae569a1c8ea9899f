import Bindings.Json.Draft

/-! Reading a text as a draft of a JSON document. -/

set_option autoImplicit false

namespace Bindings.Json

def isSpace (c : Char) : Bool := c == ' ' || c == '\n' || c == '\t' || c == '\r'

def skipSpace (text : List Char) : List Char := text.dropWhile isSpace

def hexValue? (c : Char) : Option Nat :=
  if c.isDigit then some (c.toNat - 48)
  else if 'a' ≤ c && c ≤ 'f' then some (c.toNat - 87)
  else if 'A' ≤ c && c ≤ 'F' then some (c.toNat - 55)
  else none

def hexWord? (a b c d : Char) : Option Nat := do
  return (← hexValue? a) * 4096 + (← hexValue? b) * 256 + (← hexValue? c) * 16 + (← hexValue? d)

def escaped? (c : Char) : Option Char :=
  match c with
  | '"' => some '"'
  | '\\' => some '\\'
  | '/' => some '/'
  | 'b' => some '\x08'
  | 'f' => some '\x0c'
  | 'n' => some '\n'
  | 'r' => some '\r'
  | 't' => some '\t'
  | _ => none

/-- Code points up to the closing quote, latest first, surrogates as their escapes give them, and
what follows the quote. -/
def readPoints : (text : List Char) → (points : List Nat) → Option (List Nat × List Char)
  | [], _ => none
  | '"' :: rest, points => some (points, rest)
  | '\\' :: 'u' :: a :: b :: c :: d :: rest, points =>
    match hexWord? a b c d with
    | some point => readPoints rest (point :: points)
    | none => none
  | '\\' :: c :: rest, points =>
    match escaped? c with
    | some image => readPoints rest (image.toNat :: points)
    | none => none
  | c :: rest, points => if c.toNat < 32 then none else readPoints rest (c.toNat :: points)

def isHigh (point : Nat) : Bool := 0xd800 ≤ point && point < 0xdc00

def isLow (point : Nat) : Bool := 0xdc00 ≤ point && point < 0xe000

/-- Text of reversed code points in front of `text`, if every surrogate has its partner. -/
def joinPoints : (points : List Nat) → (text : List Char) → Option (List Char)
  | [], text => some text
  | low :: high :: rest, text =>
    if isLow low then
      if isHigh high then
        joinPoints rest (Char.ofNat (0x10000 + (high - 0xd800) * 0x400 + (low - 0xdc00)) :: text)
      else none
    else if isHigh low then none
    else joinPoints (high :: rest) (Char.ofNat low :: text)
  | [point], text =>
    if isLow point || isHigh point then none else some (Char.ofNat point :: text)

/-- The string after an opening quote, without text if a surrogate lacks its partner. -/
def readString (text : List Char) : Option (Option String × List Char) :=
  (readPoints text []).map fun found => ((joinPoints found.1 []).map String.ofList, found.2)

def digitValues (digits : List Char) : List Nat := digits.map fun c => c.toNat - 48

def readFraction : List Char → Option (Option (List Nat) × List Char)
  | '.' :: rest =>
    let digits := rest.takeWhile Char.isDigit
    if digits.isEmpty then none
    else some (some (digitValues digits), rest.dropWhile Char.isDigit)
  | rest => some (none, rest)

def readMagnitude (negative : Bool) (text : List Char) : Option (Int × List Char) :=
  let digits := text.takeWhile Char.isDigit
  if digits.isEmpty then none
  else
    let size : Nat := (digitValues digits).foldl (fun n d => n * 10 + d) 0
    some (if negative then -size else size, text.dropWhile Char.isDigit)

def readExponent : List Char → Option (Option Int × List Char)
  | c :: rest =>
    if c = 'e' || c = 'E' then
      let found := match rest with
        | '+' :: rest => readMagnitude false rest
        | '-' :: rest => readMagnitude true rest
        | rest => readMagnitude false rest
      found.map fun found => (some found.1, found.2)
    else some (none, c :: rest)
  | [] => some (none, [])

def readNumber (text : List Char) : Option (Number × List Char) := do
  let (negative, unsigned) := match text with
    | '-' :: rest => (true, rest)
    | rest => (false, rest)
  let whole := unsigned.takeWhile Char.isDigit
  match whole with
  | [] => none
  | '0' :: _ :: _ => none
  | _ =>
    let (fraction, rest) ← readFraction (unsigned.dropWhile Char.isDigit)
    let (exponent, rest) ← readExponent rest
    return (⟨negative, digitValues whole, fraction, exponent⟩, rest)

mutual
/-- A value and what follows it. The fuel bounds the steps into and along containers. -/
def readValue : (fuel : Nat) → List Char → Draft × List Char
  | 0, _ => (.torn, [])
  | fuel + 1, text =>
    match skipSpace text with
    | 'n' :: 'u' :: 'l' :: 'l' :: rest => (.null, rest)
    | 't' :: 'r' :: 'u' :: 'e' :: rest => (.bool true, rest)
    | 'f' :: 'a' :: 'l' :: 's' :: 'e' :: rest => (.bool false, rest)
    | '"' :: rest =>
      match readString rest with
      | some (some s, rest) => (.string s, rest)
      | some (none, rest) => (.unpaired, rest)
      | none => (.torn, [])
    | '[' :: rest =>
      match skipSpace rest with
      | ']' :: rest => (.array .done, rest)
      | rest => match readItems fuel rest with
        | (items, rest) => (.array items, rest)
    | '\x7b' :: rest =>
      match skipSpace rest with
      | '\x7d' :: rest => (.object .done, rest)
      | rest => match readMembers fuel rest with
        | (members, rest) => (.object members, rest)
    | rest =>
      match readNumber rest with
      | some (n, rest) => (.number n, rest)
      | none => (.torn, [])

def readItems : (fuel : Nat) → List Char → Items × List Char
  | 0, _ => (.torn, [])
  | fuel + 1, text =>
    match readValue fuel text with
    | (head, rest) =>
      match skipSpace rest with
      | ',' :: rest => match readItems fuel rest with
        | (tail, rest) => (.item head tail, rest)
      | ']' :: rest => (.item head .done, rest)
      | _ => (.item head .torn, [])

def readMembers : (fuel : Nat) → List Char → Members × List Char
  | 0, _ => (.torn, [])
  | fuel + 1, text =>
    match skipSpace text with
    | '"' :: rest =>
      match readString rest with
      | none => (.torn, [])
      | some (key, rest) =>
        match skipSpace rest with
        | ':' :: rest =>
          match readValue fuel rest with
          | (value, rest) =>
            match skipSpace rest with
            | ',' :: rest => match readMembers fuel rest with
              | (tail, rest) => (.member key value tail, rest)
            | '\x7d' :: rest => (.member key value .done, rest)
            | _ => (.member key value .torn, [])
        | _ => (.member key .torn .torn, [])
    | _ => (.torn, [])
end

structure Document where
  draft : Draft
  endsThere : Bool

def Document.ofText (text : String) : Document :=
  let chars := text.toList
  match readValue (2 * chars.length + 2) chars with
  | (draft, rest) => ⟨draft, (skipSpace rest).isEmpty⟩

end Bindings.Json
