import Bindings.Text.Split
import Bindings.Unicode.Case

/-! Whether a description says that its value is binary data in base64. -/

set_option autoImplicit false

namespace Bindings.Text

/-- The marker that counts wherever it stands. -/
def encodingMarker : List Char := "(encoded as a base64 string when passed over json)".toList

def encodingPhrases : List (List Char) :=
  ["base64-encoded".toList, "base64 encoded".toList]

def conditionals : List (List Char) := ["if".toList, "unless".toList, "otherwise".toList]

/-- The marker, or an unconditional statement that the value is encoded. -/
def statesBase64 (description : String) : Bool :=
  let text := Unicode.asciiLowercase description.toList
  occurs encodingMarker text
    || (encodingPhrases.any fun phrase => occurs phrase text)
      && !(splitWhere (fun c => !c.isAlpha) text).any fun word => conditionals.contains word

end Bindings.Text
