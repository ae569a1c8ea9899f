import Bindings.Workspace.Shell.Variables

/-! The commands of a shell that work on signals. -/

set_option autoImplicit false

namespace Bindings.Workspace.Shell

/-- The names of signals by their numbers; number 0 is the end of the shell. -/
def namedSignals : List String := "EXIT" :: signalNames

def greatestSignal : Nat := 64

def signalByNumber? (word : String) : Option Nat :=
  if word ≠ "" && word.toList.all Char.isDigit then
    word.toNat?.filter (· ≤ greatestSignal)
  else none

/-- The signal that a word names, of those from `least` on. -/
def signal? (least : Nat) (word : String) : Option Nat :=
  match signalByNumber? word with
  | some number => some number
  | none => (namedSignals.idxOf? (word.map Char.toUpper)).filter (least ≤ ·)

/-! Actions -/

def setTrap (signal : Nat) (action : Option String) : Effect Unit :=
  modify fun shell =>
    let others := shell.traps.filter (·.1 ≠ signal)
    { shell with traps := match action with
      | some action => (signal, action) :: others
      | none => others }

def shownTraps (traps : List (Nat × String)) : String :=
  String.join ((namedSignals.zipIdx).map fun (name, number) =>
    match traps.lookup number with
    | some action => "trap -- " ++ quoted action ++ " " ++ name ++ "\n"
    | none => "")

def trapCommand (words : List String) : Effect Nat := do
  let (_, words) ← flags [] words
  match words with
  | [] =>
    write Call.output (shownTraps (← get).traps)
    return 0
  | [signal] => setAll none [signal]
  | action :: signals =>
    if (signalByNumber? action).isSome then setAll none (action :: signals)
    else setAll (if action = "-" then none else some action) signals
where
  setAll (action : Option String) : List String → Effect Nat
    | [] => return 0
    | word :: words => do
      match signal? 0 word with
      | some signal =>
        setTrap signal action
        setAll action words
      | none =>
        write Call.errors ("trap: " ++ word ++ ": bad trap\n")
        return 1

/-! Sending -/

/-- Signals that leave a process as it is unless it has an action for them. -/
def harmlessSignals : List Nat := [17, 18, 23, 28]

def receive (signal : Nat) : Effect Unit := do
  let shell ← get
  let action := if signal = 9 then none else (shell.mainTraps.getD shell.traps).lookup signal
  match action with
  | some "" => return
  | some _ => set { shell with pending := shell.pending ++ [signal] }
  | none => if signal ≠ 0 && !harmlessSignals.contains signal then throw (.kill signal)

/-- Send a signal to processes. Only the shell itself is still there to get it. -/
def send (signal : Nat) (processes : List String) : Effect Nat := do
  let mut status := 0
  for process in processes do
    if (← count process) = processNumber then receive signal
    else
      complain "No such process\n"
      status := 1
  return status

/-- Show the name of a signal, which may be given by the status of a process that it has ended. -/
def showSignal (word : String) : Effect Nat := do
  let number ← count word
  let number := if 128 < number then number - 128 else number
  match if number = 0 then none else namedSignals[number]? with
  | some name =>
    write Call.output (name ++ "\n")
    return 0
  | none => fail ("invalid signal number or exit status: " ++ word)

def killCommand (words : List String) : Effect Nat := do
  match words with
  | [] => usage
  | first :: others =>
    match first.toList with
    | ['-', 'l'] =>
      match others with
      | [] =>
        write Call.output ("0\n" ++ String.join (signalNames.map (· ++ "\n")))
        return 0
      | word :: _ => showSignal word
    | ['-', 's'] =>
      match others with
      | name :: processes => byName name processes
      | [] => fail "No arg for -s option"
    | ['-', '-'] => if others.isEmpty then usage else send 15 others
    | '-' :: name =>
      match signal? 1 (.ofList name) with
      | some signal => if others.isEmpty then usage else send signal others
      | none =>
        match name with
        | 's' :: name => byName (.ofList name) others
        | c :: _ => fail ("Illegal option -" ++ .ofList [c])
        | [] => usage
    | _ => send 15 words
where
  byName (name : String) (processes : List String) : Effect Nat := do
    match signal? 1 name with
    | some signal => if processes.isEmpty then usage else send signal processes
    | none => fail ("invalid signal number or name: " ++ name)
  usage : Effect Nat :=
    fail "Usage: kill [-s sigspec | -signum | -sigspec] [pid | job]... or\nkill -l [exitstatus]"

end Bindings.Workspace.Shell
