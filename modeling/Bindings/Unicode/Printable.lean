import Bindings.Unicode.PrintTable

/-! Characters that show as themselves. -/

set_option autoImplicit false

namespace Bindings.Unicode

/-- Whether a character shows as itself after any neighbour: it is printable and does not extend
the character before it. -/
def isPrintable (c : Char) : Bool :=
  if c.toNat < 127 then 32 ≤ c.toNat
  else !covered unprintableSpans c && !covered graphemeExtendSpans c

end Bindings.Unicode
