import Bindings.Log.Event

/-! Warnings and errors of a run: all are counted, the first hundred are kept. -/

set_option autoImplicit false

namespace Bindings.Log

structure Diagnostics where
  warnings : Nat := 0
  errors : Nat := 0
  messages : List String := []

namespace Diagnostics

def retained : Nat := 100

def keep (d : Diagnostics) (message : String) : Diagnostics :=
  if d.messages.length < retained then { d with messages := d.messages ++ [message] } else d

def record (d : Diagnostics) (level : Level) (target message : String) : Diagnostics :=
  let entry := level.label ++ " " ++ target ++ ": " ++ message
  match level with
  | .warn => { d with warnings := d.warnings + 1 }.keep entry
  | .error => { d with errors := d.errors + 1 }.keep entry
  | _ => d

def recordEvent (d : Diagnostics) (event : Event) : Diagnostics :=
  d.record event.level event.target event.text

def ofEvents (events : List Event) : Diagnostics := events.foldl recordEvent {}

def summary (d : Diagnostics) : String :=
  toString d.warnings ++ " warning(s), " ++ toString d.errors ++ " error(s)"

def omitted (d : Diagnostics) : Nat := d.warnings + d.errors - d.messages.length

/-- One line for every message that is kept and one for the rest; nothing when there is none. -/
def report (d : Diagnostics) : Option String :=
  if d.messages.isEmpty then none
  else
    let lines := d.messages.map fun message => "  " ++ message ++ "\n"
    let rest := if d.omitted = 0 then "" else "  ... and " ++ toString d.omitted ++ " more\n"
    some (String.join lines ++ rest)

end Diagnostics

end Bindings.Log
