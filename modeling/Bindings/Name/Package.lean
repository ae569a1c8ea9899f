import Bindings.Name.Exported

/-! Package names, and type names without the domain in front of them. -/

set_option autoImplicit false

namespace Bindings.Name

def package (domain : String) : String := .ofList (Unicode.asciiLowercase domain.toList)

/-- A type identifier without the domain identifier it begins with, if an exported one remains. -/
def withoutDomain (domain type : String) : String :=
  match Text.after? domain.toList type.toList with
  | some (c :: rest) => if Unicode.isUppercase c then .ofList (c :: rest) else type
  | _ => type

end Bindings.Name
