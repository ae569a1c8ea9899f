/-! Shortest decimal text of a binary64 number.

A positive number is `mantissa * 2 ^ exponent`. Among the decimals that round to
it, those with the fewest digits are taken, and of them the nearest.
-/

set_option autoImplicit false

namespace Bindings.Decimal

/-- A positive binary64 number and how far its rounding interval reaches below it, in quarters of
the last binary place. -/
structure Binary where
  mantissa : Nat
  exponent : Int
  below : Nat

def Binary.ofBits (bits : Nat) : Binary :=
  let fraction : Nat := bits % Nat.pow 2 52
  let field : Nat := bits / Nat.pow 2 52 % Nat.pow 2 11
  if field = 0 then ⟨fraction, -1074, 2⟩
  else ⟨Nat.pow 2 52 + fraction, (field : Int) - 1075, if fraction = 0 && 1 < field then 1 else 2⟩

structure Ratio where
  num : Nat
  den : Nat

/-- `quarters * 2 ^ (exponent - 2) / 10 ^ place`. -/
def Binary.scaled (x : Binary) (quarters : Nat) (place : Int) : Ratio :=
  let shift := x.exponent - 2
  ⟨quarters * Nat.pow 2 shift.toNat * Nat.pow 10 (-place).toNat,
    Nat.pow 2 (-shift).toNat * Nat.pow 10 place.toNat⟩

/-- Whether `candidate * 10 ^ place` rounds to the number; a tie goes to an even mantissa. -/
def Binary.admits (x : Binary) (candidate : Nat) (place : Int) : Bool :=
  let low := x.scaled (4 * x.mantissa - x.below) place
  let high := x.scaled (4 * x.mantissa + 2) place
  if x.mantissa % 2 = 0 then low.num ≤ candidate * low.den && candidate * high.den ≤ high.num
  else low.num < candidate * low.den && candidate * high.den < high.num

/-- The nearest admitted multiple of `10 ^ place`, if there is one; of two as near, the even one. -/
def Binary.onGrid? (x : Binary) (place : Int) : Option Nat :=
  let exact := x.scaled (4 * x.mantissa) place
  let floor := exact.num / exact.den
  let rest := exact.num % exact.den
  match x.admits floor place, x.admits (floor + 1) place with
  | true, true =>
    let goesDown := 2 * rest < exact.den || (2 * rest = exact.den && floor % 2 = 0)
    some (if goesDown then floor else floor + 1)
  | true, false => some floor
  | false, true => some (floor + 1)
  | false, false => none

/-- The first decimal place, from the highest down, whose grid has an admitted multiple. -/
def Binary.search (x : Binary) : Nat → Int → Nat × Int
  | 0, place => (0, place)
  | fuel + 1, place =>
    match x.onGrid? place with
    | some n => if n = 0 then search x fuel (place - 1) else (n, place)
    | none => search x fuel (place - 1)

structure Digits where
  digits : List Char
  place : Int

def Digits.ofNat (n : Nat) (place : Int) : Digits :=
  let all := Nat.toDigits 10 n
  ⟨(all.reverse.dropWhile (· == '0')).reverse, place + all.length - 1⟩

def Binary.shortest (x : Binary) : Digits :=
  let found := x.search 700 309
  Digits.ofNat found.1 found.2

/-- Between `10 ^ -5` and `10 ^ 16` digits stand at their places with a decimal point among
them; beyond that the exponent is written with its sign. -/
def Digits.text (d : Digits) : List Char :=
  let count := d.digits.length
  if d.place < -5 || 15 < d.place then
    let mantissa := match d.digits with
      | first :: second :: rest => first :: '.' :: second :: rest
      | short => short
    mantissa ++ ['e', if d.place < 0 then '-' else '+'] ++ Nat.toDigits 10 d.place.natAbs
  else if d.place < 0 then
    ['0', '.'] ++ List.replicate (-d.place - 1).toNat '0' ++ d.digits
  else if (count : Int) ≤ d.place + 1 then
    d.digits ++ List.replicate (d.place + 1 - count).toNat '0' ++ ['.', '0']
  else
    d.digits.take (d.place + 1).toNat ++ '.' :: d.digits.drop (d.place + 1).toNat

def floatText (x : Float) : String :=
  let bits := x.toBits.toNat
  let sign := if Nat.pow 2 63 ≤ bits then ['-'] else []
  let magnitude := bits % Nat.pow 2 63
  .ofList (sign ++ if magnitude = 0 then ['0', '.', '0']
    else (Binary.ofBits magnitude).shortest.text)

end Bindings.Decimal
