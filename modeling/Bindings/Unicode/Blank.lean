import Bindings.Unicode.Span

/-! White space: the property White_Space, trimming and splitting into words. -/

set_option autoImplicit false

namespace Bindings.Unicode

def blankSpans : List Span :=
  [⟨0x9, 0xd, 1⟩, ⟨0x20, 0x20, 1⟩, ⟨0x85, 0x85, 1⟩, ⟨0xa0, 0xa0, 1⟩, ⟨0x1680, 0x1680, 1⟩,
   ⟨0x2000, 0x200a, 1⟩, ⟨0x2028, 0x2029, 1⟩, ⟨0x202f, 0x202f, 1⟩, ⟨0x205f, 0x205f, 1⟩,
   ⟨0x3000, 0x3000, 1⟩]

def isBlank (c : Char) : Bool := covered blankSpans c

def dropWhileEnd {α : Type} (p : α → Bool) (xs : List α) : List α :=
  (xs.reverse.dropWhile p).reverse

def trimStart (text : List Char) : List Char := text.dropWhile isBlank

def trimEnd (text : List Char) : List Char := dropWhileEnd isBlank text

def trim (text : List Char) : List Char := trimEnd (trimStart text)

end Bindings.Unicode
