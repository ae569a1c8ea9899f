import Bindings.Workspace.Process

/-! Looking for programs.

A name with a slash is a path. Any other name is looked for in the directories of the variable
`PATH`, one after the other.
-/

set_option autoImplicit false

namespace Bindings.Workspace

structure Program where
  entry : Entry
  path : String

namespace Program

/-- The directories that programs are looked for in unless the environment names others. -/
def defaultDirectories : String := "/usr/bin:/bin"

def atPath (call : Call) (system : System) (path : String) : Except OsError Program := do
  let place ← system.tree.locate call.directory (Octets.toText path)
  match system.tree.get? place with
  | none => .error .noEntry
  | some (.file content true) => return ⟨.file content true, path⟩
  | some (.utility program) => return ⟨.utility program, path⟩
  | some _ => .error .accessDenied

/-- The first program among some paths. What is there and cannot be executed is passed over, but
counts if nothing else is found. -/
def first (call : Call) (system : System) (refusal : OsError) : List String → Except OsError Program
  | [] => .error refusal
  | path :: others =>
    match atPath call system path with
    | .ok program => .ok program
    | .error .accessDenied => first call system .accessDenied others
    | .error .noEntry => first call system refusal others
    | .error .notDirectory => first call system refusal others
    | .error other => .error other

def find (call : Call) (system : System) : Except OsError Program :=
  let name := call.name
  if name.toList.contains '/' then atPath call system name
  else if name = "" then .error .noEntry
  else if FileTree.nameLimit < name.length then .error .nameTooLong
  else
    let directories := (call.environment.lookup "PATH").getD defaultDirectories
    first call system .noEntry ((Text.splitWhere (· == ':') directories.toList).map fun directory =>
      if directory.isEmpty then name else .ofList directory ++ "/" ++ name)

end Program

end Bindings.Workspace
