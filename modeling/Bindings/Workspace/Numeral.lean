/-! Numbers as scripts write them: decimal, octal after `0`, hexadecimal after `0x`. -/

set_option autoImplicit false

namespace Bindings.Workspace

def isSpace (c : Char) : Bool := c == ' ' || (9 ≤ c.toNat && c.toNat ≤ 13)

def digitValue? (c : Char) : Option Nat :=
  if c.isDigit then some (c.toNat - '0'.toNat)
  else if 'a' ≤ c && c ≤ 'f' then some (c.toNat - 'a'.toNat + 10)
  else if 'A' ≤ c && c ≤ 'F' then some (c.toNat - 'A'.toNat + 10)
  else none

def isDigitOf (base : Nat) (c : Char) : Bool := (digitValue? c).any (· < base)

def valueOf (base : Nat) (digits : List Char) : Nat :=
  digits.foldl (fun n c => n * base + (digitValue? c).getD 0) 0

structure Numeral where
  value : Int
  /-- What follows it; the whole text if there is none. -/
  rest : List Char

/-- Read a number; in base 0 its first digits choose the base. -/
def Numeral.ofText (base : Nat) (text : List Char) : Numeral :=
  let unsigned := text.dropWhile isSpace
  let (negative, digits) := match unsigned with
    | '-' :: rest => (true, rest)
    | '+' :: rest => (false, rest)
    | rest => (false, rest)
  let (base, digits) := match base, digits with
    | 0, '0' :: x :: d :: rest =>
      if (x = 'x' || x = 'X') && isDigitOf 16 d then (16, d :: rest) else (8, '0' :: x :: d :: rest)
    | 0, '0' :: rest => (8, '0' :: rest)
    | 0, digits => (10, digits)
    | base, digits => (base, digits)
  let read := digits.takeWhile (isDigitOf base)
  if read.isEmpty then ⟨0, text⟩
  else
    let value : Int := valueOf base read
    ⟨if negative then -value else value, digits.drop read.length⟩

/-- Whether a whole number of 64 bits, the first of them for the sign, holds the value. -/
def isWord (n : Int) : Bool := -(Nat.pow 2 63 : Nat) ≤ n && n < (Nat.pow 2 63 : Nat)

def toWord (n : Int) : Int := Int.bmod n (Nat.pow 2 64)

end Bindings.Workspace
