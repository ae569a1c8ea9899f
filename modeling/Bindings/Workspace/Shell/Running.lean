import Bindings.Workspace.Shell.Subshell

/-! Running commands.

Commands run commands inside of them by a runner that goes less deep.
-/

set_option autoImplicit false

namespace Bindings.Workspace.Shell

structure Standing where
  /-- Its failure is allowed for, as it is part of a condition. -/
  isTested : Bool := false
  /-- Nothing is left for the shell to do after it. -/
  isLast : Bool := false

structure Runner where
  run : Standing → Command → Effect Unit
  evaluate : Standing → String → Effect Unit
  start : Start

namespace Runner

variable (runner : Runner)

def tested : Standing := { isTested := true }

def runAll (standing : Standing) : List Command → Effect Unit
  | [] => return
  | [command] => runner.run standing command
  | command :: rest => do
    runner.run { standing with isLast := false } command
    runAll standing rest

/-- Run commands, of which there may be none at all. -/
def runBody (standing : Standing) (commands : List Command) : Effect Unit := do
  if commands.isEmpty then setStatus 0 else runner.runAll standing commands

def subshell (effect : Effect Unit) : Effect ExitStatus := inSubshell (runner.evaluate {}) effect

def substitution : Substitution := fun commands =>
  captured (runner.evaluate {}) (runner.runBody { isLast := true } commands)

/-! Simple commands -/

/-- Expand the words of a command. Assignments among its arguments stay one word each if the
command makes them. -/
def expandCommand : (isAssigning : Bool) → (isFirst : Bool) → List Word → Effect (List String)
  | _, _, [] => return []
  | isAssigning, isFirst, word :: rest => do
    let found ← if isAssigning && (Script.Parse.assignment? word).isSome then
        pure [← expandWhole runner.substitution word]
      else expand runner.substitution word
    let isAssigning := match found with
      | name :: _ => if isFirst then Shell.isAssigning name else isAssigning
      | [] => isAssigning
    return found ++ (← expandCommand isAssigning (isFirst && found.isEmpty) rest)

/-- Run a command of the shell itself. A mistake ends the script if it is fatal. -/
def runOwn (name : String) (isFatal : Bool) (effect : Effect Nat) : Effect Unit := do
  let own := (← get).own
  modify ({ · with own := some name })
  let result ← observe effect
  modify ({ · with own := own })
  match result with
  | .ok status => setStatus status
  | .error .failure => if isFatal then throw .failure
  | .error other => throw other

def call (standing : Standing) (body : Command) (arguments : List String) : Effect Unit := do
  let shell ← get
  set { shell with arguments := arguments, loops := 0, locals := [] :: shell.locals }
  let result ← observe (runner.run { isTested := standing.isTested } body)
  restoreVariables ((← get).locals.headD [])
  modify ({ · with arguments := shell.arguments, loops := shell.loops, locals := shell.locals })
  match result with
  | .ok _ => return
  | .error .leaveFunction => return
  | .error other => throw other

/-- Keep how a process has ended; if nothing is left to be done the shell ends in the same way. -/
def follow (standing : Standing) (status : ExitStatus) : Effect Unit := do
  if standing.isLast && (← get).traps.isEmpty then throw (.exit status) else note status

def runProgram (standing : Standing) (words : List String) : Effect Unit := do
  follow standing (← startProgram runner.start words)

def become (words : List String) : Effect Nat := do
  if words.isEmpty then return 0
  let shell ← get
  let isThere := (Program.find (shell.callOf words) shell.system).isOk
  let status ← startProgram runner.start words
  if isThere then setTrap 0 none
  throw (.exit status)

def evaluateWords (standing : Standing) (words : List String) : Effect Nat := do
  runner.evaluate { isTested := standing.isTested } (" ".intercalate words)
  return (← get).status

def findScript (name : String) : Effect String := do
  let shell ← get
  let call := shell.callOf []
  if name.toList.contains '/' then return name
  let directories := (shell.parameter? "PATH").getD Program.defaultDirectories
  let paths := (Text.splitWhere (· == ':') directories.toList).map fun directory =>
    if directory.isEmpty then name else .ofList directory ++ "/" ++ name
  match paths.find? fun path => (call.entryOf? shell.system path) matches some (.file _ _) with
  | some path => return path
  | none => fail (name ++ ": not found")

def runFile (standing : Standing) : List String → Effect Nat
  | [] => return 0
  | name :: _ => do
    let path ← findScript name
    let shell ← get
    match (shell.callOf []).readFile shell.system path with
    | .error refusal => fail (openComplaint .read path refusal)
    | .ok (content, system) =>
      set { shell with system := system, own := some path }
      let text := Octets.ofBytes content
      match ← observe (runner.evaluate { isTested := standing.isTested } text) with
      | .ok _ => return (← get).status
      | .error .leaveFunction => return (← get).status
      | .error other => throw other

/-- Run a command by its words. If it is bare, no function is meant and its mistakes are not
fatal; `fuel` bounds how often that is asked for. -/
def runWords (standing : Standing) (fuel : Nat) (isBare : Bool) : List String → Effect Unit
  | [] => return
  | name :: arguments => do
    let shell ← get
    let isFatal := isSpecial name && !isBare
    match if isBare then none else shell.functions.lookup name with
    | some body => runner.call standing body arguments
    | none =>
      match simpleCommands.lookup name, name with
      | some effect, _ => runOwn name isFatal (effect arguments)
      | none, "." => runOwn name isFatal (runner.runFile standing arguments)
      | none, "eval" => runOwn name isFatal (runner.evaluateWords standing arguments)
      | none, "exec" => runOwn name isFatal (runner.become arguments)
      | none, "type" => runOwn name false (typeCommand arguments)
      | none, "command" =>
        runOwn name false do
          let (letters, words) ← flags ['p', 'v', 'V'] arguments
          match fuel, words with
          | _, [] => return 0
          | 0, _ => return 0
          | fuel + 1, word :: words =>
            if letters.contains 'v' then describe false word
            else if letters.contains 'V' then describe true word
            else
              modify ({ · with own := shell.own })
              runWords standing fuel true (word :: words)
              return (← get).status
      | none, _ => runner.runProgram standing (name :: arguments)

def trace (descriptors : List (Nat × Nat)) (words : List String) : Effect Unit := do
  if ← hasOption 'x' then
    let sign := ((← get).parameter? "PS4").getD "+ "
    keepingDescriptors do
      modify ({ · with descriptors := descriptors })
      write Call.errors (sign ++ " ".intercalate words ++ "\n")

def assignAll (isExported : Bool) (assignments : List (String × Word)) : Effect (List String) :=
  assignments.mapM fun (name, word) => do
    let value ← expandWhole runner.substitution word
    assign name value
    if isExported then
      replaceVariable name (some { value := some value, isExported := true })
    return name ++ "=" ++ value

def runSimple (standing : Standing) (line : Nat) (assignments : List (String × Word))
    (words : List Word) (redirections : List Redirection) : Effect Unit := do
  modify ({ · with line := line, outputStatus := 0 })
  let words ← runner.expandCommand false true words
  let targets ← redirections.mapM (targetOf runner.substitution)
  let name := words.head?
  let isSpecial := name.any isSpecial
  let descriptors := (← get).descriptors
  let effect : Effect Unit := do
    if !(← redirectAll targets) then
      setStatus 2
      if isSpecial then throw .failure
    else if words.isEmpty || isSpecial then
      let shown ← runner.assignAll (name = some "exec" && words.length ≠ 1) assignments
      trace descriptors (shown ++ words)
      if words.isEmpty then setStatus (← get).outputStatus
      else runner.runWords standing words.length false words
    else
      let before := (← get).store
      let saved := assignments.map fun item => (item.1, before.lookup item.1)
      let result ← observe do
        let shown ← runner.assignAll true assignments
        trace descriptors (shown ++ words)
        runner.runWords standing words.length false words
      restoreVariables saved
      match result with
      | .ok _ => return
      | .error interrupt => throw interrupt
  if name = some "exec" then effect else keepingDescriptors effect

/-! Loops -/

inductive Turn where
  | go
  | next
  | done

def turn (effect : Effect Unit) : Effect Turn := do
  match ← observe effect with
  | .ok _ => return .go
  | .error (.leave loops) => if loops ≤ 1 then return .done else throw (.leave (loops - 1))
  | .error (.resume loops) => if loops ≤ 1 then return .next else throw (.resume (loops - 1))
  | .error other => throw other

def inLoop (effect : Effect Unit) : Effect Unit := do
  let loops := (← get).loops
  modify ({ · with loops := loops + 1 })
  let result ← observe effect
  modify ({ · with loops := loops })
  match result with
  | .ok _ => return
  | .error interrupt => throw interrupt

def roundLimit : Nat := Nat.pow 10 6

/-- Run the body as long as the condition allows it; `status` is that of the last round. -/
def runLoop (standing : Standing) (untilSuccess : Bool) (condition body : List Command) :
    (rounds status : Nat) → Effect Unit
  | 0, _ => throw (.kill 9)
  | rounds + 1, status => do
    match ← turn (runner.runAll tested condition) with
    | .done => setStatus status
    | .next => runLoop standing untilSuccess condition body rounds status
    | .go =>
      if ((← get).status = 0) = untilSuccess then setStatus status
      else
        match ← turn (runner.runAll { isTested := standing.isTested } body) with
        | .done => return
        | _ => runLoop standing untilSuccess condition body rounds (← get).status

def runEach (standing : Standing) (name : String) (body : List Command) :
    List String → Effect Unit
  | [] => return
  | value :: rest => do
    assign name value
    match ← turn (runner.runAll { isTested := standing.isTested } body) with
    | .done => return
    | _ => runEach standing name body rest

/-! Other commands -/

def findCase (subject : String) :
    List (List Word × List Command) → Effect (List Command)
  | [] => return []
  | (patterns, body) :: rest => do
    if ← fits patterns then return body else findCase subject rest
where
  fits : List Word → Effect Bool
    | [] => return false
    | pattern :: patterns => do
      if Pattern.isMatch (← expandPattern runner.substitution pattern) subject.toList then
        return true
      else fits patterns

def runStages (standing : Standing) : List Command → Effect Unit
  | [] => return
  | [last] => do
    note (← runner.subshell (runner.run { standing with isLast := true } last))
  | stage :: rest => do
    let shell ← get
    let (number, system) := shell.system.attach (.collector [])
    set { shell with system := system }
    discard <| runner.subshell do
      setDescriptor Call.output (some number)
      runner.run { standing with isLast := true } stage
    keepingDescriptors do
      attach Call.input (.source ((← get).system.collected number))
      runStages standing rest

def redirected (line : Nat) (redirections : List Redirection) (effect : Effect Unit) :
    Effect Unit := do
  modify ({ · with line := line })
  let targets ← redirections.mapM (targetOf runner.substitution)
  keepingDescriptors do
    if ← redirectAll targets then effect else setStatus 2

/-- Run a command without waiting for it. It is run at once, but how it ends is only told later. -/
def runBackground (command : Command) : Effect Unit := do
  let status ← runner.subshell do
    attach Call.input .nothing
    runner.run { isLast := true } command
  modify fun shell => { shell with jobs := statusOf status :: shell.jobs, status := 0 }

/-- A failure that is not allowed for ends the shell if it shall. -/
def checkStatus (standing : Standing) : Effect Unit := do
  let status := (← get).status
  if status ≠ 0 && !standing.isTested && (← hasOption 'e') then throw (.exit (.code status))

/-- Run a command, unless commands are only read. -/
def runCommand (standing : Standing) (command : Command) : Effect Unit := do
  if !(← hasOption 'n') then perform command
where
  perform : Command → Effect Unit
    | .simple line assignments words redirections => do
      runner.runSimple standing line assignments words redirections
      runTraps (runner.evaluate {})
      checkStatus standing
    | .pipeline stages => do
      runner.runStages standing stages
      runTraps (runner.evaluate {})
      checkStatus standing
    | .subshell line commands redirections => do
      modify ({ · with line := line })
      let targets ← redirections.mapM (targetOf runner.substitution)
      follow standing (← runner.subshell do
        if ← redirectAll targets then runner.runAll { standing with isLast := true } commands
        else setStatus 2)
      runTraps (runner.evaluate {})
      checkStatus standing
    | .negation command => do
      runner.run tested command
      setStatus (if (← get).status = 0 then 1 else 0)
    | .both first second => do
      runner.run tested first
      if (← get).status = 0 then runner.run standing second
    | .either first second => do
      runner.run tested first
      if (← get).status ≠ 0 then runner.run standing second
    | .background command => runner.runBackground command
    | .group commands => runner.runAll standing commands
    | .redirected line command redirections =>
      runner.redirected line redirections (runner.run { isTested := standing.isTested } command)
    | .branch condition yes no => do
      runner.runAll tested condition
      if (← get).status = 0 then runner.runAll standing yes else runner.runBody standing no
    | .loop untilSuccess condition body =>
      inLoop (runner.runLoop standing untilSuccess condition body roundLimit 0)
    | .each line name words body => do
      modify ({ · with line := line })
      let values ← match words with
        | some words => do pure (← words.mapM (expand runner.substitution)).flatten
        | none => do pure (← get).arguments
      setStatus 0
      inLoop (runner.runEach standing name body values)
    | .choice line subject cases => do
      modify ({ · with line := line })
      let subject ← expandWhole runner.substitution subject
      runner.runBody standing (← runner.findCase subject cases)
    | .definition name body =>
      modify fun shell =>
        { shell with
          functions := (name, body) :: shell.functions.filter (·.1 ≠ name), status := 0 }

def runText (standing : Standing) (text : String) : Effect Unit := do
  let shell ← get
  let script := Script.ofText text 1 shell.documentCount
  set { shell with
    documents := script.documents ++ shell.documents
    documentCount := shell.documentCount + script.documents.length }
  let isOpen := standing.isLast && script.fault.isNone && !text.endsWith "\n"
  runLines isOpen script.lines
  if script.lines.all List.isEmpty && script.fault.isNone then setStatus 0
  if let some fault := script.fault then
    modify ({ · with line := fault.line })
    fail fault.message
where
  runLines (isOpen : Bool) : List (List Command) → Effect Unit
    | [] => return
    | line :: rest => do
      runner.runAll { standing with isLast := isOpen && rest.isEmpty } line
      runLines isOpen rest

end Runner

/-- A runner of commands that stand inside of one another up to some depth. The system ends a shell
that goes deeper. -/
def runner (start : Start) : (depth : Nat) → Runner
  | 0 => ⟨fun _ _ => throw (.kill 11), fun _ _ => throw (.kill 11), start⟩
  | depth + 1 =>
    let inner := runner start depth
    ⟨inner.runCommand, inner.runText, start⟩

def depthLimit : Nat := 1000

/-- Run a text to the end of the shell. If it is all that the shell has to do, the shell becomes
the last program in it. -/
def run (start : Start) (shell : Shell) (isAll : Bool) (text : String) : ExitStatus × System :=
  let runner := runner start depthLimit
  let (result, after) := (conclude (runner.evaluate {})
    (runner.evaluate { isLast := isAll } text)).run shell
  match result with
  | .ok status => (status, after.system)
  | .error (.kill signal) => (.signal signal, after.system)
  | .error _ => (.code after.status, after.system)

end Bindings.Workspace.Shell
