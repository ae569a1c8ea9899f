import Bindings.Workspace.Printing
import Bindings.Workspace.Search
import Bindings.Workspace.Shell.Flags
import Bindings.Workspace.Shell.Signals

/-! The commands of a shell that run no other commands. -/

set_option autoImplicit false

namespace Bindings.Workspace.Shell

def say (text : String) : Effect Nat := do
  let shell ← get
  if text ≠ "" && (shell.descriptors.lookup Call.output).isNone then
    complain ((shell.own.map (· ++ ": ")).getD "" ++ "I/O error")
    return 1
  write Call.output text
  return 0

def printCommand (words : List String) : Effect Nat := do
  let printing := Printing.ofWords (← flags [] words).2
  printing.complaints.forM complain
  return max printing.status (← say (.ofList printing.printed))

def callOf (shell : Shell) (words : List String) : Call :=
  { name := words.headD "", arguments := words.tail, directory := shell.directory,
    environment := shell.environment, descriptors := shell.descriptors }

def ask (words : List String) : Effect Nat := do
  let shell ← get
  match Question.answer ((shell.callOf []).entryOf? shell.system) words with
  | .ok answer => return if answer then 0 else 1
  | .error message => fail message

def askInBrackets (words : List String) : Effect Nat := do
  if words.getLast? ≠ some "]" then fail "missing ]"
  ask words.dropLast

/-! Directories -/

def textOf (directory : Path) : String := Octets.ofText ("/" ++ "/".intercalate directory)

def changeDirectory (words : List String) : Effect Nat := do
  let (_, words) ← flags ['L', 'P'] words
  let shell ← get
  let value (name : String) : String := (shell.parameter? name).getD ""
  let name := match words with
    | [] => value "HOME"
    | "-" :: _ => value "OLDPWD"
    | name :: _ => name
  let place : Except OsError Path := do
    let path ← shell.system.tree.locate shell.directory
      (Octets.toText (if name.isEmpty then "." else name))
    if shell.system.tree.get? path = some .directory then return path else .error .notDirectory
  match place with
  | .ok path =>
    modify ({ · with directory := path })
    assign "OLDPWD" (textOf shell.directory)
    assign "PWD" (textOf path)
    if words.head? = some "-" then say (textOf path ++ "\n") else return 0
  | .error _ => fail ("can't cd to " ++ name)

/-! Ends -/

def exitCommand (words : List String) : Effect Nat := do
  let shell ← get
  let status ← (words.head?.map count).getD (return shell.final.getD shell.status)
  throw (.exit (.code status))

def returnCommand (words : List String) : Effect Nat := do
  setStatus (← (words.head?.map count).getD (return (← get).status))
  throw .leaveFunction

def loopCount (words : List String) : Effect Nat := do
  let asked ← (words.head?.map count).getD (return 1)
  if asked = 0 then fail ("Illegal number: " ++ words.headD "")
  return min asked (← get).loops

def breakCommand (words : List String) : Effect Nat := do
  let loops ← loopCount words
  if loops = 0 then return 0
  setStatus 0
  throw (.leave loops)

def continueCommand (words : List String) : Effect Nat := do
  let loops ← loopCount words
  if loops = 0 then return 0
  setStatus 0
  throw (.resume loops)

def waitCommand (words : List String) : Effect Nat := do
  let jobs := (← get).jobs.reverse
  let mut status := 0
  for word in words do
    let number ← count word
    let job := if number < jobNumber 0 then none else jobs[number - jobNumber 0]?
    status := job.getD 127
  return status

/-! Commands by name -/

def simpleCommands : List (String × (List String → Effect Nat)) :=
  [(":", fun _ => return 0), ("[", askInBrackets), ("break", breakCommand),
   ("cd", changeDirectory), ("chdir", changeDirectory), ("continue", continueCommand),
   ("echo", fun words => say (spokenLine words)), ("exit", exitCommand),
   ("export", exportCommand), ("false", fun _ => return 1), ("getopts", flagCommand),
   ("hash", fun _ => return 0), ("jobs", fun _ => return 0), ("kill", killCommand),
   ("local", localCommand),
   ("printf", printCommand), ("pwd", fun _ => do say (textOf (← get).directory ++ "\n")),
   ("read", readCommand), ("readonly", readOnlyCommand), ("return", returnCommand),
   ("set", setCommand), ("shift", shiftCommand), ("test", ask),
   ("times", fun _ => say "0m0.00s 0m0.00s\n0m0.00s 0m0.00s\n"), ("trap", trapCommand),
   ("true", fun _ => return 0), ("umask", fun _ => say "0022\n"), ("unset", unsetCommand),
   ("wait", waitCommand)]

/-- The commands whose mistakes end the script. -/
def isSpecial (name : String) : Bool := Script.specialCommands.contains name || name = "local"

def isAssigning (name : String) : Bool := ["export", "readonly", "local"].contains name

def isOwn (name : String) : Bool :=
  (simpleCommands.lookup name).isSome || [".", "command", "eval", "exec", "type"].contains name

def describe (isVerbose : Bool) (name : String) : Effect Nat := do
  let shell ← get
  let found (what : String) (brief : String := name) : Effect Nat :=
    say ((if isVerbose then name ++ what else brief) ++ "\n")
  if (Script.Keyword.ofText? name.toList).isSome then found " is a shell keyword"
  else if isSpecial name then found " is a special shell builtin"
  else if (shell.functions.lookup name).isSome then found " is a shell function"
  else if isOwn name then found " is a shell builtin"
  else
    match Program.find (shell.callOf [name]) shell.system with
    | .ok program => found (" is " ++ program.path) program.path
    | .error _ =>
      if isVerbose then discard (say (name ++ ": not found\n"))
      return 127

def typeCommand : List String → Effect Nat
  | [] => return 0
  | name :: names => do
    let status ← describe true name
    return max status (← typeCommand names)

end Bindings.Workspace.Shell
