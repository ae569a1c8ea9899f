import Bindings.Text.Utf8

/-! Texts of processes, which have one character for each byte. -/

set_option autoImplicit false

namespace Bindings.Workspace.Octets

open Text (Bytes)

def ofBytes (bytes : Bytes) : String := .ofList (bytes.map fun byte => Char.ofNat byte.toNat)

def toBytes (octets : String) : Bytes := octets.toList.map fun c => c.toNat.toUInt8

def ofText (text : String) : String := ofBytes (Text.utf8 text)

def toText (octets : String) : String := .ofList (Text.Utf8.decodeLossy (toBytes octets))

end Bindings.Workspace.Octets
