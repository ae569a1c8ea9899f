import Bindings.Text.Quoted
import Bindings.Unicode.Printable

/-! Double-quoted text for messages: whatever has no visible form is spelled by its code point. -/

set_option autoImplicit false

namespace Bindings.Text

def hexDigits (n : Nat) : List Char := Nat.toDigits 16 n

def showChar (c : Char) : List Char :=
  if c = '\x00' then ['\\', '0']
  else if c = '\t' then ['\\', 't']
  else if c = '\r' then ['\\', 'r']
  else if c = '\n' then ['\\', 'n']
  else if c = '"' then ['\\', '"']
  else if c = '\\' then ['\\', '\\']
  else if Unicode.isPrintable c then [c]
  else ['\\', 'u', '\x7b'] ++ hexDigits c.toNat ++ ['\x7d']

def shown (text : String) : String :=
  .ofList ('"' :: (text.toList.flatMap showChar ++ ['"']))

end Bindings.Text
