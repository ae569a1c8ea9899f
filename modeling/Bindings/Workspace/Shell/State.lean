import Bindings.Workspace.Pattern
import Bindings.Workspace.Process
import Bindings.Workspace.Script.Grammar

/-! The state of a shell, and what may end or interrupt the run of a script. -/

set_option autoImplicit false

namespace Bindings.Workspace

open Text (Bytes)

/-- A variable may be known without having a value. -/
structure Variable where
  value : Option String
  isExported : Bool := false
  isReadOnly : Bool := false

structure Shell where
  name : String
  arguments : List String
  directory : Path
  system : System
  descriptors : List (Nat × Nat)
  /-- The variables by their names. -/
  store : List (String × Variable) := []
  functions : List (String × Command) := []
  documents : Documents := []
  /-- How many documents have been read. -/
  documentCount : Nat := 0
  status : Nat := 0
  /-- The status of the commands whose output was used last. -/
  outputStatus : Nat := 0
  options : List Char := []
  line : Nat := 1
  /-- The command of the shell that runs; complaints name it. -/
  own : Option String := none
  /-- Actions by the numbers of their signals; number 0 is the end of the shell. -/
  traps : List (Nat × String) := []
  /-- The actions of the shell that runs the script as a whole, of which this one may be a part. -/
  mainTraps : Option (List (Nat × String)) := none
  /-- With what status the shell ends; it is set when only the action for the end is left. -/
  final : Option Nat := none
  /-- Signals that have come and whose actions have not been run yet. -/
  pending : List Nat := []
  /-- How many loops the commands stand in. -/
  loops : Nat := 0
  /-- What variables were before functions made them their own, the innermost function first. -/
  locals : List (List (String × Option Variable)) := []
  /-- The word whose flags are being read, and how many of its characters have been read. -/
  flagPlace : Option (Nat × Nat) := none
  /-- How background commands have ended, the last one first. -/
  jobs : List Nat := []

inductive Interrupt where
  | exit (status : ExitStatus)
  /-- An error that has been complained of. -/
  | failure
  | leave (loops : Nat)
  | resume (loops : Nat)
  | leaveFunction
  /-- A signal, which ends the shells within which this one runs as well. -/
  | kill (signal : Nat)

abbrev Effect := ExceptT Interrupt (StateM Shell)

namespace Shell

def processNumber : Nat := 4096

/-- The number of a background command, of which `count` have been started before. -/
def jobNumber (count : Nat) : Nat := processNumber + 1 + count

def statusOf : ExitStatus → Nat
  | .code n => n
  | .signal n => 128 + n

def hasOption (option : Char) : Effect Bool := return (← get).options.contains option

def setStatus (status : Nat) : Effect Unit := modify ({ · with status := status })

/-! Writing -/

def write (descriptor : Nat) (text : String) : Effect Unit :=
  modify fun shell =>
    match shell.descriptors.lookup descriptor with
    | some channel =>
      { shell with system := shell.system.write channel (Octets.toBytes text) }
    | none => shell

def complain (message : String) : Effect Unit := do
  let shell ← get
  let own := (shell.own.map (· ++ ": ")).getD ""
  write Call.errors (shell.name ++ ": " ++ toString shell.line ++ ": " ++ own ++ message ++ "\n")

def fail {α : Type} (message : String) : Effect α := do
  complain message
  setStatus 2
  throw .failure

/-! Variables -/

def variableOf? (name : String) : Effect (Option Variable) := return (← get).store.lookup name

def replaceVariable (name : String) (content : Option Variable) : Effect Unit :=
  modify fun shell =>
    let others := shell.store.filter (·.1 ≠ name)
    { shell with store := match content with
      | some content => (name, content) :: others
      | none => others }

def assign (name value : String) : Effect Unit := do
  if !isName name.toList then fail (name ++ ": bad variable name")
  let old := (← variableOf? name).getD { value := none }
  if old.isReadOnly then fail (name ++ ": is read only")
  let exported := old.isExported || (← hasOption 'a')
  replaceVariable name (some { old with value := some value, isExported := exported })

def unassign (name : String) : Effect Unit := do
  if !isName name.toList then fail (name ++ ": bad variable name")
  if (← variableOf? name).any (·.isReadOnly) then fail (name ++ ": is read only")
  replaceVariable name none

/-- The value of a parameter, if it has one; of all arguments one after the other. -/
def parameter? (shell : Shell) (name : String) : Option String :=
  match name with
  | "?" => some (toString shell.status)
  | "$" => some (toString processNumber)
  | "#" => some (toString shell.arguments.length)
  | "-" => some (.ofList shell.options.reverse)
  | "0" => some shell.name
  | "!" => if shell.jobs.isEmpty then none else some (toString (jobNumber (shell.jobs.length - 1)))
  | _ =>
    if name = "@" || name = "*" then
      if shell.arguments.isEmpty then none else some (" ".intercalate shell.arguments)
    else
      match name.toNat? with
      | some n => shell.arguments[n - 1]?
      | none => (shell.store.lookup name).bind (·.value)

def separators (shell : Shell) : List Char :=
  match (shell.parameter? "IFS") with
  | some value => value.toList
  | none => [' ', '\t', '\n']

def environment (shell : Shell) : List (String × String) :=
  shell.store.filterMap fun (name, content) =>
    if content.isExported then content.value.map fun value => (name, value) else none

/-! Fields -/

/-- What a word expands to: characters, a quotation that may be empty, or an end of a field. -/
inductive Atom where
  | plain (c : Char)
  | quoted (c : Char)
  /-- A character of a value, which may separate fields. -/
  | expanded (c : Char)
  | mark
  | cut

abbrev Field := List PatternChar

namespace Field

def text (field : Field) : String := .ofList (field.map (·.char))

end Field

/-- Fields that are complete, the one that has begun, and whether a separator that is no blank
may still belong to the blanks before it. -/
structure Splitting where
  done : List Field := []
  field : Option Field := none
  joins : Bool := false

namespace Splitting

def add (state : Splitting) (c : PatternChar) : Splitting :=
  { state with field := some (c :: state.field.getD []), joins := false }

def close (state : Splitting) : Splitting :=
  match state.field with
  | some field => { state with done := field.reverse :: state.done, field := none }
  | none => state

def step (separators : List Char) (state : Splitting) : Atom → Splitting
  | .plain c => state.add ⟨c, false⟩
  | .quoted c => state.add ⟨c, true⟩
  | .mark => { state with field := some (state.field.getD []), joins := false }
  | .cut => { state.close with joins := false }
  | .expanded c =>
    if !separators.contains c then state.add ⟨c, false⟩
    else if [' ', '\t', '\n'].contains c then
      if state.field.isSome then { state.close with joins := true } else state
    else if state.joins then { state with joins := false }
    else { state with field := some (state.field.getD []) }.close

end Splitting

def fields (separators : List Char) (atoms : List Atom) : List Field :=
  (atoms.foldl (Splitting.step separators) {}).close.done.reverse

/-- An expanded word that stays one field; `joint` stands where fields end. -/
def wholeField (joint : String) (atoms : List Atom) : Field :=
  atoms.flatMap fun atom =>
    match atom with
    | .plain c => [⟨c, false⟩]
    | .quoted c => [⟨c, true⟩]
    | .expanded c => [⟨c, false⟩]
    | .cut => joint.toList.map (⟨·, false⟩)
    | .mark => []

end Shell

end Bindings.Workspace
