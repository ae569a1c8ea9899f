import Bindings.Unicode.Case

/-! Which texts a directive takes as the value of a field: numbers and regular expressions.

A text is read character by character. Only whether it is well formed matters, since values of
fields are never compared here.
-/

set_option autoImplicit false

namespace Bindings.Log.ValuePattern

inductive Place where
  /-- Outside of brackets; the flag says whether there is something to repeat. -/
  | plain (repeatable : Bool)
  | escape
  /-- Hexadecimal digits that an escape still needs. -/
  | hexadecimal (missing : Nat)
  /-- After the letter that announces a property. -/
  | property
  | groupStart
  | groupMark
  | groupLetter
  | groupName (isEmpty : Bool)
  /-- Flags of a group; whether there are any, and whether one may still be negated. -/
  | flags (isEmpty negatable : Bool)
  /-- In brackets, `depth` of them one in another, after a character and perhaps a dash. -/
  | brackets (depth : Nat) (previous : Option Char) (dash : Bool)
  | bracketsStart (depth : Nat) (negatable : Bool)
  | bracketsEscape (depth : Nat)

def properties : List Char := ['C', 'L', 'M', 'N', 'P', 'S', 'Z']

def isHexadecimal (c : Char) : Bool :=
  c.isDigit || ('a' ≤ c && c ≤ 'f') || ('A' ≤ c && c ≤ 'F')

def isFlag (c : Char) : Bool := ['i', 'm', 's', 'u', 'x', 'U', 'R'].contains c

/-- Characters that a backslash may precede anywhere: letters with a meaning and punctuation. -/
def isEscapable (c : Char) : Bool :=
  ['a', 'f', 't', 'n', 'r', 'v', 'd', 'D', 's', 'S', 'w', 'W'].contains c
    || (Unicode.isAscii c && '!' ≤ c && c ≤ '~' && !c.isAlphanum && c ≠ '<' && c ≠ '>')

def escape? (c : Char) : Option Place :=
  match c with
  | 'x' => some (.hexadecimal 2)
  | 'u' => some (.hexadecimal 4)
  | 'U' => some (.hexadecimal 8)
  | 'p' => some .property
  | 'P' => some .property
  | 'A' => some (.plain true)
  | 'z' => some (.plain true)
  | c => if isEscapable c then some (.plain true) else none

def bracketsStep? (depth : Nat) (previous : Option Char) (dash : Bool) (c : Char) :
    Option Place :=
  match c with
  | '[' => some (.bracketsStart (depth + 1) true)
  | ']' => some (if depth ≤ 1 then .plain true else .brackets (depth - 1) none false)
  | '\\' => some (.bracketsEscape depth)
  | '-' => some (.brackets depth previous previous.isSome)
  | c =>
    match previous, dash with
    | some first, true => if first ≤ c then some (.brackets depth none false) else none
    | _, _ => some (.brackets depth (some c) false)

def step? (depth : Nat) (place : Place) (c : Char) : Option (Nat × Place) :=
  match place, c with
  | .plain _, '\\' => some (depth, .escape)
  | .plain _, '(' => some (depth + 1, .groupStart)
  | .plain _, ')' => if depth = 0 then none else some (depth - 1, .plain true)
  | .plain _, '|' => some (depth, .plain false)
  | .plain _, '[' => some (depth, .bracketsStart 1 true)
  | .plain _, '\x7b' => none
  | .plain repeatable, c =>
    if ['*', '+', '?'].contains c then if repeatable then some (depth, .plain true) else none
    else some (depth, .plain true)
  | .escape, c => (escape? c).map fun place => (depth, place)
  | .hexadecimal missing, c =>
    if isHexadecimal c then
      some (depth, if missing ≤ 1 then .plain true else .hexadecimal (missing - 1))
    else none
  | .property, c => if properties.contains c then some (depth, .plain true) else none
  | .groupStart, '?' => some (depth, .groupMark)
  | .groupStart, c => groupBody depth c
  | .groupMark, ':' => some (depth, .plain false)
  | .groupMark, 'P' => some (depth, .groupLetter)
  | .groupMark, '<' => some (depth, .groupName true)
  | .groupMark, '-' => some (depth, .flags true false)
  | .groupMark, c => if isFlag c then some (depth, .flags false true) else none
  | .groupLetter, c => if c = '<' then some (depth, .groupName true) else none
  | .groupName isEmpty, c =>
    if c = '>' then if isEmpty then none else some (depth, .plain false)
    else if c.isAlpha || c = '_' || (!isEmpty && (c.isDigit || c = '.')) then
      some (depth, .groupName false)
    else none
  | .flags isEmpty negatable, c =>
    if isFlag c then some (depth, .flags false negatable)
    else if c = '-' then if negatable then some (depth, .flags true false) else none
    else if isEmpty then none
    else if c = ':' then some (depth, .plain false)
    else if c = ')' then some (depth - 1, .plain false)
    else none
  | .bracketsStart inner negatable, c =>
    if c = '^' && negatable then some (depth, .bracketsStart inner false)
    else if c = ']' || c = '-' then some (depth, .brackets inner (some c) false)
    else (bracketsStep? inner none false c).map fun place => (depth, place)
  | .brackets inner previous dash, c =>
    (bracketsStep? inner previous dash c).map fun place => (depth, place)
  | .bracketsEscape inner, c =>
    if isEscapable c then some (depth, .brackets inner none false) else none
where
  /-- The first character of a group without a mark. -/
  groupBody (depth : Nat) (c : Char) : Option (Nat × Place) :=
    match c with
    | '\\' => some (depth, .escape)
    | '(' => some (depth + 1, .groupStart)
    | ')' => some (depth - 1, .plain true)
    | '|' => some (depth, .plain false)
    | '[' => some (depth, .bracketsStart 1 true)
    | c => if ['*', '+', '\x7b'].contains c then none else some (depth, .plain true)

def isExpression : (depth : Nat) → Place → List Char → Bool
  | depth, .plain _, [] => depth = 0
  | _, _, [] => false
  | depth, place, c :: rest =>
    match step? depth place c with
    | some (depth, place) => isExpression depth place rest
    | none => false

def isDecimal (text : List Char) : Bool :=
  let isDigits (digits : List Char) : Bool := !digits.isEmpty && digits.all Char.isDigit
  let mantissa := text.takeWhile fun c => c ≠ 'e' && c ≠ 'E'
  let whole := mantissa.takeWhile (· ≠ '.')
  let fraction := (mantissa.dropWhile (· ≠ '.')).drop 1
  isDigits (whole ++ fraction) &&
    match text.dropWhile fun c => c ≠ 'e' && c ≠ 'E' with
    | [] => true
    | _ :: '+' :: digits => isDigits digits
    | _ :: '-' :: digits => isDigits digits
    | _ :: digits => isDigits digits

/-- Numbers without a sign or with a minus are expressions as well. -/
def isValid (text : List Char) : Bool :=
  isExpression 0 (.plain false) text ||
    match text with
    | '+' :: rest =>
      isDecimal rest || ["inf", "infinity", "nan"].contains (.ofList (Unicode.asciiLowercase rest))
    | _ => false

end Bindings.Log.ValuePattern
