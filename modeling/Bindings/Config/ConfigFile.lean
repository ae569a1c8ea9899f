import Bindings.Config.TextTable

/-! Configuration files. -/

set_option autoImplicit false

namespace Bindings

structure ConfigFile where
  dest : Option String := none
  importRoot : Option String := none
  browserProtocol : Option String := none
  jsProtocol : Option String := none
  formatter : Option String := none
  verifyCommand : Option String := none
  logLevel : Option String := none
  deriving DecidableEq

namespace ConfigFile

def keys : List String :=
  ["dest", "import", "browser_proto", "js_proto", "gofmt", "verify_command", "log_level"]

def ofEntries (entries : List (String × String)) : ConfigFile where
  dest := entries.lookup "dest"
  importRoot := entries.lookup "import"
  browserProtocol := entries.lookup "browser_proto"
  jsProtocol := entries.lookup "js_proto"
  formatter := entries.lookup "gofmt"
  verifyCommand := entries.lookup "verify_command"
  logLevel := entries.lookup "log_level"

def ofText? (text : String) : Option ConfigFile := do
  let entries ← Config.readTable text
  if entries.all fun entry => keys.contains entry.1 then some (ofEntries entries) else none

end ConfigFile

end Bindings
