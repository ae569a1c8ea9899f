/-! Double-quoted text with backslash escapes, one line whatever the text holds. -/

set_option autoImplicit false

namespace Bindings.Text

def hexDigit (n : Nat) : Char := Char.ofNat (if n < 10 then 48 + n else 87 + n)

/-- Quote, backslash and the controls are escaped, everything else stands for itself. -/
def escape (c : Char) : List Char :=
  if c = '"' then ['\\', '"']
  else if c = '\\' then ['\\', '\\']
  else if c = '\n' then ['\\', 'n']
  else if c = '\r' then ['\\', 'r']
  else if c = '\t' then ['\\', 't']
  else if c = '\x08' then ['\\', 'b']
  else if c = '\x0c' then ['\\', 'f']
  else if c.toNat < 32 then
    ['\\', 'u', '0', '0', hexDigit (c.toNat / 16), hexDigit (c.toNat % 16)]
  else [c]

def quoteChars (text : List Char) : List Char := '"' :: (text.flatMap escape ++ ['"'])

def quote (text : String) : String := .ofList (quoteChars text.toList)

end Bindings.Text
