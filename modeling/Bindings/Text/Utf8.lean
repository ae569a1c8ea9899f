/-! UTF-8: encoding, strict decoding, and decoding with replacement characters. -/

set_option autoImplicit false

namespace Bindings.Text

abbrev Bytes := List UInt8

def encodeUtf8 (text : List Char) : Bytes := text.flatMap String.utf8EncodeChar

def utf8 (text : String) : Bytes := encodeUtf8 text.toList

theorem toByteArray_utf8 (text : String) : (utf8 text).toByteArray = text.toByteArray :=
  String.utf8Encode_toList

theorem utf8_injective : Function.Injective utf8 := by
  intro first second same
  rw [← String.toByteArray_inj, ← toByteArray_utf8, ← toByteArray_utf8, same]

namespace Utf8

/-- The longest beginning of some bytes that decides what they are. -/
inductive Head where
  /-- A character, followed by `extra` more of its bytes. -/
  | char (c : Char) (extra : Nat)
  /-- The beginning of no character; it goes on for `extra` bytes. -/
  | bad (extra : Nat)
  /-- The bytes end inside a character. -/
  | cut

def isTail (b : UInt8) : Bool := 0x80 ≤ b && b ≤ 0xbf

def secondRange (first : UInt8) : UInt8 × UInt8 :=
  if first = 0xe0 then (0xa0, 0xbf)
  else if first = 0xed then (0x80, 0x9f)
  else if first = 0xf0 then (0x90, 0xbf)
  else if first = 0xf4 then (0x80, 0x8f)
  else (0x80, 0xbf)

def extraOf? (first : UInt8) : Option Nat :=
  if first < 0x80 then some 0
  else if 0xc2 ≤ first && first ≤ 0xdf then some 1
  else if 0xe0 ≤ first && first ≤ 0xef then some 2
  else if 0xf0 ≤ first && first ≤ 0xf4 then some 3
  else none

def leading (extra : Nat) (first : UInt8) : Nat :=
  match extra with
  | 0 => first.toNat
  | 1 => first.toNat % 32
  | 2 => first.toNat % 16
  | _ => first.toNat % 8

/-- Read the remaining tails of a character; `passed` have been read. -/
def tails : (missing passed value : Nat) → Bytes → Head
  | 0, passed, value, _ => .char (Char.ofNat value) passed
  | _ + 1, _, _, [] => .cut
  | missing + 1, passed, value, b :: rest =>
    if isTail b then tails missing (passed + 1) (value * 64 + b.toNat % 64) rest else .bad passed

def head (first : UInt8) (rest : Bytes) : Head :=
  match extraOf? first with
  | none => .bad 0
  | some 0 => .char (Char.ofNat first.toNat) 0
  | some (extra + 1) =>
    match rest with
    | [] => .cut
    | second :: rest =>
      let range := secondRange first
      if range.1 ≤ second && second ≤ range.2 then
        tails extra 1 (leading (extra + 1) first * 64 + second.toNat % 64) rest
      else .bad 0

inductive Fault where
  | invalid (size index : Nat)
  | incomplete (index : Nat)
  deriving DecidableEq

def Fault.message : Fault → String
  | .invalid size index =>
    "invalid utf-8 sequence of " ++ toString size ++ " bytes from index " ++ toString index
  | .incomplete index => "incomplete utf-8 byte sequence from index " ++ toString index

/-- Decode from byte `index` on; `skip` bytes belong to the character before. -/
def decodeFrom : (skip index : Nat) → Bytes → Except Fault (List Char)
  | _, _, [] => .ok []
  | skip + 1, index, _ :: rest => decodeFrom skip (index + 1) rest
  | 0, index, b :: rest =>
    match head b rest with
    | .char c extra => do return c :: (← decodeFrom extra (index + 1) rest)
    | .bad extra => .error (.invalid (extra + 1) index)
    | .cut => .error (.incomplete index)

def decode (bytes : Bytes) : Except Fault String := (decodeFrom 0 0 bytes).map String.ofList

/-- Decode with a replacement character for every fault. -/
def lossyFrom : (skip : Nat) → Bytes → List Char
  | _, [] => []
  | skip + 1, _ :: rest => lossyFrom skip rest
  | 0, b :: rest =>
    match head b rest with
    | .char c extra => c :: lossyFrom extra rest
    | .bad extra => '\ufffd' :: lossyFrom extra rest
    | .cut => ['\ufffd']

def decodeLossy (bytes : Bytes) : List Char := lossyFrom 0 bytes

end Utf8

end Bindings.Text
