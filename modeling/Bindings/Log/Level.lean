import Bindings.Error
import Bindings.Unicode.Blank
import Bindings.Unicode.Case

/-! Log levels, from the most talkative to silence. -/

set_option autoImplicit false

namespace Bindings.Log

inductive Level where
  | trace
  | debug
  | info
  | warn
  | error
  | off
  deriving DecidableEq

namespace Level

def rank : Level → Nat
  | .trace => 0
  | .debug => 1
  | .info => 2
  | .warn => 3
  | .error => 4
  | .off => 5

def name : Level → String
  | .trace => "trace"
  | .debug => "debug"
  | .info => "info"
  | .warn => "warn"
  | .error => "error"
  | .off => "off"

def label : Level → String
  | .trace => "TRACE"
  | .debug => "DEBUG"
  | .info => "INFO"
  | .warn => "WARN"
  | .error => "ERROR"
  | .off => "OFF"

def ofName? : String → Option Level
  | "trace" => some .trace
  | "debug" => some .debug
  | "info" => some .info
  | "warn" => some .warn
  | "warning" => some .warn
  | "error" => some .error
  | "off" => some .off
  | _ => none

def ofText (text : String) : Except Error Level :=
  let name : String := .ofList (Unicode.asciiLowercase (Unicode.trim text.toList))
  match ofName? name with
  | some level => .ok level
  | none => .error (.unknownLevel name)

end Level

end Bindings.Log
