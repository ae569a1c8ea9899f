import Bindings.Decimal.Shortest

/-! Numbers of a document, as written and as read.

A number without fraction and exponent is an integer when 64 bits hold it.
Every other number is read as a binary64: as many leading digits as 64 bits hold
are scaled by a power of ten, so a long number may be off in its last place.
-/

set_option autoImplicit false

namespace Bindings.Json

/-- A number as written; digits are values below ten. -/
structure Number where
  negative : Bool
  whole : List Nat
  fraction : Option (List Nat)
  exponent : Option Int
  deriving DecidableEq

inductive Quantity where
  | integer (value : Int)
  | floating (value : Float)
  | outOfRange

namespace Number

def largestSignificand : Nat := Nat.pow 2 64 - 1

/-- Leading whole digits that fit the significand, and the number of those that do not. -/
def takeWhole : (digits : List Nat) → (significand : Nat) → Nat × Nat
  | [], significand => (significand, 0)
  | d :: rest, significand =>
    if largestSignificand < significand * 10 + d then (significand, rest.length + 1)
    else takeWhole rest (significand * 10 + d)

def takeFraction : (digits : List Nat) → (significand taken : Nat) → Nat × Nat
  | [], significand, taken => (significand, taken)
  | d :: rest, significand, taken =>
    if largestSignificand < significand * 10 + d then (significand, taken)
    else takeFraction rest (significand * 10 + d) (taken + 1)

def powerOfTen (n : Nat) : Float := Float.ofScientific 1 false n

/-- `significand * 10 ^ exponent` in binary64, in steps of at most 308 decimal places. -/
def scale : (fuel : Nat) → (value : Float) → (exponent : Int) → Option Float
  | 0, value, _ => some value
  | fuel + 1, value, exponent =>
    if exponent.natAbs ≤ 308 then
      if 0 ≤ exponent then
        let product := value * powerOfTen exponent.natAbs
        if product.isInf then none else some product
      else some (value / powerOfTen exponent.natAbs)
    else if value == 0 then some value
    else if 0 ≤ exponent then none
    else scale fuel (value / powerOfTen 308) (exponent + 308)

/-- Exponents that 32 bits do not hold decide between zero and out of range at once. -/
def largestExponent : Nat := Nat.pow 2 31 - 1

def floating (n : Number) (significand : Nat) (shift : Int) : Quantity :=
  let signed (x : Float) : Quantity := .floating (if n.negative then -x else x)
  let written := n.exponent.getD 0
  if largestExponent < written.natAbs then
    if significand ≠ 0 && 0 < written then .outOfRange else signed 0
  else
    match scale 8 significand.toUInt64.toFloat (max (shift + written) (-2000)) with
    | some x => signed x
    | none => .outOfRange

def quantity (n : Number) : Quantity :=
  let whole := takeWhole n.whole 0
  match n.fraction, n.exponent with
  | none, none =>
    if whole.2 ≠ 0 then n.floating whole.1 whole.2
    else if !n.negative then .integer whole.1
    else if whole.1 = 0 || Nat.pow 2 63 < whole.1 then .floating (-whole.1.toUInt64.toFloat)
    else .integer (-whole.1)
  | fraction, _ =>
    let extended := takeFraction (fraction.getD []) whole.1 0
    n.floating extended.1 (whole.2 - extended.2)

def ofNat (n : Nat) : Number :=
  ⟨false, (Nat.toDigits 10 n).map fun c => c.toNat - 48, none, none⟩

end Number

def Quantity.text : Quantity → String
  | .integer value => toString value
  | .floating value => Decimal.floatText value
  | .outOfRange => ""

end Bindings.Json
