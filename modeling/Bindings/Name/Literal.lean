import Bindings.Name.Exported

/-! Names of enumeration literals. -/

set_option autoImplicit false

namespace Bindings.Name

/-- The exported names of the alphanumeric ASCII runs, joined; two negative numbers are spelled
out. -/
def literalChars (value : List Char) : List Char :=
  if value = "-Infinity".toList then "NegativeInfinity".toList
  else if value = "-0".toList then "NegativeZero".toList
  else
    let name := (Text.fields (fun c => !c.isAlphanum) value).flatMap exportedChars
    if name.isEmpty then "Empty".toList else name

def literal (value : String) : String := .ofList (literalChars value.toList)

end Bindings.Name
