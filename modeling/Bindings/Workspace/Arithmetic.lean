import Bindings.Text.Split
import Bindings.Workspace.Numeral
import Bindings.Workspace.Script

/-! Whole-number expressions with variables, in 64 bits. -/

set_option autoImplicit false

namespace Bindings.Workspace.Arithmetic

inductive UnaryOperator where
  | plus
  | minus
  | not
  | complement
  deriving DecidableEq

inductive BinaryOperator where
  | multiply
  | divide
  | remainder
  | add
  | subtract
  | shiftLeft
  | shiftRight
  | less
  | lessEqual
  | greater
  | greaterEqual
  | equal
  | unequal
  | bitAnd
  | bitXor
  | bitOr
  | both
  | either
  deriving DecidableEq

namespace BinaryOperator

def all : List (BinaryOperator × String × Nat) :=
  [(.multiply, "*", 10), (.divide, "/", 10), (.remainder, "%", 10), (.add, "+", 9),
   (.subtract, "-", 9), (.shiftLeft, "<<", 8), (.shiftRight, ">>", 8), (.less, "<", 7),
   (.lessEqual, "<=", 7), (.greater, ">", 7), (.greaterEqual, ">=", 7), (.equal, "==", 6),
   (.unequal, "!=", 6), (.bitAnd, "&", 5), (.bitXor, "^", 4), (.bitOr, "|", 3), (.both, "&&", 2),
   (.either, "||", 1)]

def ofSign? (sign : String) : Option (BinaryOperator × Nat) :=
  (all.find? fun item => item.2.1 = sign).map fun item => (item.1, item.2.2)

end BinaryOperator

inductive Expression where
  | number (value : Int)
  | variable (name : String)
  /-- Give a variable a value, or what an operator makes of its value and another one. -/
  | assign (name : String) (operator : Option BinaryOperator) (value : Expression)
  | unary (operator : UnaryOperator) (operand : Expression)
  | binary (operator : BinaryOperator) (first second : Expression)
  | choice (condition yes no : Expression)

inductive Failure where
  | expecting (what : String)
  | divisionByZero
  | notANumber (text : String)
  deriving DecidableEq

/-! Reading -/

inductive Token where
  | number (value : Int)
  | name (name : String)
  | sign (sign : String)
  deriving DecidableEq

/-- Signs, longer ones before those they begin with. -/
def signs : List String :=
  ["<<=", ">>=", "<<", ">>", "<=", ">=", "==", "!=", "&&", "||", "+=", "-=", "*=", "/=", "%=", "&=",
   "|=", "^=", "+", "-", "*", "/", "%", "<", ">", "=", "!", "~", "&", "|", "^", "?", ":", "(", ")"]

/-- The tokens of a text; what is none of them is a sign that fits nowhere. -/
def tokens : (fuel : Nat) → List Char → List Token
  | 0, _ => []
  | _, [] => []
  | fuel + 1, c :: rest =>
    if isSpace c then tokens fuel rest
    else if c.isDigit then
      let numeral := Numeral.ofText 0 (c :: rest)
      let value := if isWord numeral.value then numeral.value else (Nat.pow 2 63 - 1 : Nat)
      .number value :: tokens fuel numeral.rest
    else if isNameStart c then
      .name (.ofList (c :: rest.takeWhile isNameChar)) :: tokens fuel (rest.dropWhile isNameChar)
    else
      match signs.find? fun sign => sign.toList.isPrefixOf (c :: rest) with
      | some sign => .sign sign :: tokens fuel ((c :: rest).drop sign.length)
      | none => .sign (.ofList [c]) :: tokens fuel rest

/-- The operator of an assignment; `some none` is the plain one. -/
def assignmentOf? (sign : String) : Option (Option BinaryOperator) :=
  if sign = "=" then some none
  else if ["<=", ">=", "==", "!="].contains sign then none
  else
    match Text.before? ['='] sign.toList with
    | some operator => (BinaryOperator.ofSign? (.ofList operator)).map fun item => some item.1
    | none => none

abbrev Reader := StateT (List Token) (Except Failure)

mutual

def readAssignment : (fuel : Nat) → Reader Expression
  | 0 => throw (.expecting "primary")
  | fuel + 1 => do
    match ← get with
    | .name name :: .sign sign :: rest =>
      match assignmentOf? sign with
      | some operator =>
        set rest
        return .assign name operator (← readAssignment fuel)
      | none => readChoice fuel
    | _ => readChoice fuel

def readChoice : (fuel : Nat) → Reader Expression
  | 0 => throw (.expecting "primary")
  | fuel + 1 => do
    let condition ← readBinary fuel 1
    match ← get with
    | .sign "?" :: rest =>
      set rest
      let yes ← readAssignment fuel
      match ← get with
      | .sign ":" :: rest =>
        set rest
        return .choice condition yes (← readChoice fuel)
      | _ => throw (.expecting "':'")
    | _ => return condition

/-- Read operands joined by operators that bind at least as closely as `closeness`. -/
def readBinary : (fuel closeness : Nat) → Reader Expression
  | 0, _ => throw (.expecting "primary")
  | fuel + 1, closeness => do readBinaryAfter fuel closeness (← readPrimary fuel)

def readBinaryAfter : (fuel closeness : Nat) → Expression → Reader Expression
  | 0, _, _ => throw (.expecting "primary")
  | fuel + 1, closeness, first => do
    match ← get with
    | .sign sign :: rest =>
      match BinaryOperator.ofSign? sign with
      | some (operator, own) =>
        if own < closeness then return first
        set rest
        let second ← readBinary fuel (own + 1)
        readBinaryAfter fuel closeness (.binary operator first second)
      | none => return first
    | _ => return first

def readPrimary : (fuel : Nat) → Reader Expression
  | 0 => throw (.expecting "primary")
  | fuel + 1 => do
    let tokens ← get
    set tokens.tail
    match tokens with
    | .number value :: _ => return .number value
    | .name name :: _ => return .variable name
    | .sign "(" :: _ =>
      let inner ← readAssignment fuel
      match ← get with
      | .sign ")" :: rest =>
        set rest
        return inner
      | _ => throw (.expecting "')'")
    | .sign "+" :: _ => return .unary .plus (← readPrimary fuel)
    | .sign "-" :: _ => return .unary .minus (← readPrimary fuel)
    | .sign "!" :: _ => return .unary .not (← readPrimary fuel)
    | .sign "~" :: _ => return .unary .complement (← readPrimary fuel)
    | _ => throw (.expecting "primary")

end

def ofText? (text : List Char) : Except Failure Expression :=
  let tokens := tokens (text.length + 1) text
  match (readAssignment (16 * tokens.length + 16)).run tokens with
  | .ok (expression, []) => .ok expression
  | .ok (_, _ :: _) => .error (.expecting "EOF")
  | .error failure => .error failure

/-! Values -/

def truth (b : Bool) : Int := if b then 1 else 0

def UnaryOperator.apply (operator : UnaryOperator) (n : Int) : Int :=
  match operator with
  | .plus => n
  | .minus => toWord (-n)
  | .not => truth (n = 0)
  | .complement => -n - 1

def onBits (work : Nat → Nat → Nat) (a b : Int) : Int :=
  toWord (work (a % (Nat.pow 2 64 : Nat)).toNat (b % (Nat.pow 2 64 : Nat)).toNat)

def BinaryOperator.apply (operator : BinaryOperator) (a b : Int) : Except Failure Int :=
  match operator with
  | .multiply => .ok (toWord (a * b))
  | .divide => if b = 0 then .error .divisionByZero else .ok (toWord (a.tdiv b))
  | .remainder => if b = 0 then .error .divisionByZero else .ok (a.tmod b)
  | .add => .ok (toWord (a + b))
  | .subtract => .ok (toWord (a - b))
  | .shiftLeft => .ok (toWord (a * (Nat.pow 2 (b % 64).toNat : Nat)))
  | .shiftRight => .ok (a / (Nat.pow 2 (b % 64).toNat : Nat))
  | .less => .ok (truth (a < b))
  | .lessEqual => .ok (truth (a ≤ b))
  | .greater => .ok (truth (a > b))
  | .greaterEqual => .ok (truth (a ≥ b))
  | .equal => .ok (truth (a = b))
  | .unequal => .ok (truth (a ≠ b))
  | .bitAnd => .ok (onBits (· &&& ·) a b)
  | .bitXor => .ok (onBits (· ^^^ ·) a b)
  | .bitOr => .ok (onBits (· ||| ·) a b)
  | .both => .ok (truth (a ≠ 0 && b ≠ 0))
  | .either => .ok (truth (a ≠ 0 || b ≠ 0))

/-- The number that a text is; one without a digit is zero. -/
def numberOf (text : String) : Except Failure Int :=
  let numeral := Numeral.ofText 0 text.toList
  if numeral.rest.all isSpace && isWord numeral.value then .ok numeral.value
  else .error (.notANumber text)

/-- Values of variables. Later assignments stand before earlier ones. -/
abbrev Variables := List (String × String)

def Expression.evaluate (look : String → String) :
    Expression → StateT Variables (Except Failure) Int
  | .number value => return value
  | .variable name => read name
  | .assign name operator value => do
    let value ← value.evaluate look
    let value ← match operator with
      | some operator => operator.apply (← read name) value
      | none => pure value
    modify ((name, toString value) :: ·)
    return value
  | .unary operator operand => return operator.apply (← operand.evaluate look)
  | .binary .both first second => do
    if (← first.evaluate look) = 0 then return 0
    return truth ((← second.evaluate look) ≠ 0)
  | .binary .either first second => do
    if (← first.evaluate look) ≠ 0 then return 1
    return truth ((← second.evaluate look) ≠ 0)
  | .binary operator first second => do
    let a ← first.evaluate look
    let b ← second.evaluate look
    operator.apply a b
  | .choice condition yes no => do
    if (← condition.evaluate look) ≠ 0 then yes.evaluate look else no.evaluate look
where
  read (name : String) : StateT Variables (Except Failure) Int := do
    numberOf (((← get).lookup name).getD (look name))

def Failure.message (failure : Failure) (text : String) : String :=
  let complaint (what : String) : String :=
    "arithmetic expression: " ++ what ++ ": \"" ++ text ++ "\""
  match failure with
  | .expecting what => complaint ("expecting " ++ what)
  | .divisionByZero => complaint "division by zero"
  | .notANumber text => "Illegal number: " ++ text

end Bindings.Workspace.Arithmetic
