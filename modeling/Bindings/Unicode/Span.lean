/-! Sets of characters given as runs of code points. -/

set_option autoImplicit false

namespace Bindings.Unicode

/-- The code points `first`, `first + step`, and so on up to `last`. -/
structure Span where
  first : Nat
  last : Nat
  step : Nat

def Span.contains (span : Span) (point : Nat) : Bool :=
  span.first ≤ point && point ≤ span.last && (point - span.first) % span.step == 0

def covered (spans : List Span) (c : Char) : Bool :=
  spans.any fun span => span.contains c.toNat

end Bindings.Unicode
