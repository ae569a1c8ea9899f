import Bindings.Workspace.Shell.Commands

/-! Shells within shells, and how shells end.

How a text is run as commands is given, since a shell may have an action to run at its end.
-/

set_option autoImplicit false

namespace Bindings.Workspace.Shell

abbrev Evaluation := String → Effect Unit

def endOf (effect : Effect Unit) : Effect ExitStatus := do
  match ← observe effect with
  | .error (.exit status) => return status
  | .error (.kill signal) => throw (.kill signal)
  | _ => return .code (← get).status

/-- Run an effect to the end of the shell, then the action that has been set for the end. -/
def conclude (evaluate : Evaluation) (effect : Effect Unit) : Effect ExitStatus := do
  let status ← endOf effect
  match (← get).traps.lookup 0 with
  | none => return inByte status
  | some action =>
    setTrap 0 none
    modify ({ · with status := statusOf status, final := some (statusOf status) })
    match ← observe (evaluate action) with
    | .error (.exit status) => return inByte status
    | .error (.kill signal) => throw (.kill signal)
    | .error .failure => return .code 2
    | _ => return inByte status
where
  /-- A status as other processes get to know it. -/
  inByte : ExitStatus → ExitStatus
    | .code n => .code (n % 256)
    | .signal n => .signal n

/-- Run an effect in a shell of its own. What it does to the system stays, and so do the signals
that it has sent to the main shell. -/
def inSubshell (evaluate : Evaluation) (effect : Effect Unit) : Effect ExitStatus := do
  let outer ← get
  let inner := { outer with
    traps := outer.traps.filter (·.2 = ""), pending := []
    mainTraps := some (outer.mainTraps.getD outer.traps) }
  let (result, after) := (conclude evaluate effect).run inner
  set { outer with system := after.system, pending := outer.pending ++ after.pending }
  match result with
  | .ok status => return status
  | .error interrupt => throw interrupt

def signalTexts : List (Nat × String) :=
  [(1, "Hangup"), (3, "Quit"), (4, "Illegal instruction"), (5, "Trace/breakpoint trap"),
   (6, "Aborted"), (7, "Bus error"), (8, "Floating point exception"), (9, "Killed"),
   (10, "User defined signal 1"), (11, "Segmentation fault"), (12, "User defined signal 2"),
   (14, "Alarm clock"), (15, "Terminated"), (16, "Stack fault"), (24, "CPU time limit exceeded"),
   (25, "File size limit exceeded"), (26, "Virtual timer expired"),
   (27, "Profiling timer expired"), (29, "I/O possible"), (30, "Power failure"),
   (31, "Bad system call")]

def reportEnd (status : ExitStatus) : Effect Unit := do
  match status with
  | .signal number =>
    if let some text := signalTexts.lookup number then write Call.errors (text ++ "\n")
  | .code _ => return

def note (status : ExitStatus) : Effect Unit := do
  reportEnd status
  setStatus (statusOf status)

def captured (evaluate : Evaluation) (effect : Effect Unit) : Effect String := do
  let shell ← get
  let (number, system) := shell.system.attach (.collector [])
  set { shell with system := system }
  let status ← inSubshell evaluate do
    setDescriptor Call.output (some number)
    effect
  reportEnd status
  modify ({ · with outputStatus := statusOf status })
  return Octets.ofBytes ((← get).system.collected number)

/-- Run the actions of the signals that have come. Parts of a shell leave them to the whole. -/
def runTraps (evaluate : Evaluation) : Effect Unit := do
  let shell ← get
  if shell.mainTraps.isNone && !shell.pending.isEmpty then
    set { shell with pending := [] }
    shell.pending.forM fun signal => do
      if let some action := (← get).traps.lookup signal then
        evaluate action
        setStatus shell.status

/-! Programs -/

def startComplaint (refusal : OsError) : String :=
  if refusal = .noEntry || refusal = .notDirectory then "not found" else refusal.reason.2

def startStatus (isPath : Bool) (refusal : OsError) : Nat :=
  if refusal = .noEntry || refusal = .notDirectory || refusal = .nameTooLong then 127
  else if refusal = .accessDenied && !isPath then 127
  else 126

/-- Start a program and wait for its end. A text that can be executed is a script, whatever it
begins with. -/
def startProgram (start : Start) (words : List String) : Effect ExitStatus := do
  let shell ← get
  let call := shell.callOf words
  let isPath := call.name.toList.contains '/'
  let result := if !isPath && (shell.parameter? "PATH").isNone then .error .noEntry
    else
      match start call shell.system with
      | .error .formatError => do
        let program ← Program.find call shell.system
        start { call with name := "/bin/sh", arguments := program.path :: call.arguments }
          shell.system
      | result => result
  match result with
  | .ok (status, system) =>
    set { shell with system := system }
    return status
  | .error refusal =>
    complain (call.name ++ ": " ++ startComplaint refusal)
    return .code (startStatus (isPath || shell.own = some "exec") refusal)

end Bindings.Workspace.Shell
