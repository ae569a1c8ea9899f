import Bindings.Workspace.System

/-! Processes: what they are started with. -/

set_option autoImplicit false

namespace Bindings.Workspace

open Text (Bytes)

/-- What a process is started with. Its texts have one character for each byte. -/
structure Call where
  name : String
  arguments : List String
  directory : Path
  environment : List (String × String)
  /-- The channels by the numbers under which the process knows them. -/
  descriptors : List (Nat × Nat)

abbrev Start := Call → System → Except OsError (ExitStatus × System)

namespace Call

def input : Nat := 0

def output : Nat := 1

def errors : Nat := 2

def read (call : Call) (system : System) : Bytes × System :=
  match call.descriptors.lookup input with
  | some channel => system.readAll channel
  | none => ([], system)

def write (call : Call) (descriptor : Nat) (bytes : Bytes) (system : System) : System :=
  match call.descriptors.lookup descriptor with
  | some channel => system.write channel bytes
  | none => system

def readFile (call : Call) (system : System) (text : String) : Except OsError (Bytes × System) := do
  let path ← system.tree.locate call.directory (Octets.toText text)
  match system.tree.get? path with
  | some (.opened descriptor) =>
    match call.descriptors.lookup descriptor with
    | some channel => return system.readAll channel
    | none => .error .noEntry
  | _ => return (← system.tree.content path, system)

def complain (call : Call) (message : String) (system : System) : System :=
  call.write errors (Octets.toBytes (call.name ++ ": " ++ message ++ "\n")) system

def entryOf? (call : Call) (system : System) (text : String) : Option Entry :=
  match system.tree.locate call.directory (Octets.toText text) with
  | .ok path => system.tree.get? path
  | .error _ => none

end Call

end Bindings.Workspace
