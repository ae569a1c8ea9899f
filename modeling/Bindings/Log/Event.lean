import Bindings.Log.Level

/-! Events of a run. -/

set_option autoImplicit false

namespace Bindings.Log

structure Event where
  level : Level
  target : String
  message : Option String
  fields : List (String × String) := []

def Event.fieldNames (event : Event) : List String :=
  (if event.message.isSome then ["message"] else []) ++ event.fields.map (·.1)

/-- The message and the fields, single spaces between them. -/
def Event.text (event : Event) : String :=
  let message := event.message.getD ""
  let fields := event.fields.map fun field => field.1 ++ "=" ++ field.2
  " ".intercalate (if message.isEmpty then fields else message :: fields)

end Bindings.Log
