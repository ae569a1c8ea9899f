import Bindings.Name.Exported

/-! Unexported parameter names: an exported identifier with its leading word in small letters. -/

set_option autoImplicit false

namespace Bindings.Name

open Unicode (isUppercase lowercase)

/-- Keywords, and names that constructors and setters bind themselves. -/
def reserved : List (List Char) :=
  ["a", "args", "break", "case", "chan", "const", "continue", "default", "defer", "else",
    "fallthrough", "for", "func", "go", "goto", "if", "import", "interface", "map", "new",
    "package", "range", "return", "select", "struct", "switch", "type", "var"].map String.toList

def atBoundary : List Char → Bool
  | [] => true
  | c :: _ => isUppercase c || c.isDigit

def longestInitialism? (ident : List Char) : Option Nat :=
  ((initialisms.filter fun initialism => initialism.isPrefixOf ident).map List.length).max?

/-- Length of the initialism, plural or not, that is the first word of the identifier. -/
def leadingInitialism? (ident : List Char) : Option Nat := do
  let size ← longestInitialism? ident
  let size := match ident.drop size with
    | 's' :: rest => if atBoundary rest then size + 1 else size
    | _ => size
  if atBoundary (ident.drop size) then some size else none

def unexportedChars (ident : List Char) : List Char :=
  match leadingInitialism? ident with
  | some size => lowercase (ident.take size) ++ ident.drop size
  | none =>
    match words ident with
    | [] => []
    | first :: others => lowercase first ++ others.flatten

def parameterChars (raw : List Char) : List Char :=
  let name := unexportedChars (exportedChars raw)
  if reserved.contains name then name ++ "Val".toList else name

def parameter (raw : String) : String := .ofList (parameterChars raw.toList)

end Bindings.Name
