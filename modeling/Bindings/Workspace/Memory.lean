import Bindings.Workspace.Copying
import Bindings.Workspace.Replacing
import Bindings.Workspace.Shell.Running

/-! A machine in memory: its files are a tree, its programs utilities and scripts. -/

set_option autoImplicit false

namespace Bindings.Workspace

open Text (Bytes utf8)

namespace Memory

def interpreter? (content : Bytes) : Option (String × List String) :=
  match content with
  | 35 :: 33 :: rest =>
    let line := (Octets.ofBytes (rest.takeWhile (· ≠ 10))).toList
    let blank (c : Char) : Bool := c == ' ' || c == '\t'
    let line := line.dropWhile blank
    let name := line.takeWhile fun c => !blank c
    let argument := ((line.dropWhile fun c => !blank c).dropWhile blank).reverse.dropWhile blank
    if name.isEmpty then none
    else
      some (.ofList name,
        if argument.isEmpty then [] else [.ofList argument.reverse])
  | _ => none

/-! The shell -/

def shellOf (call : Call) (system : System) : Shell :=
  let inherited := call.environment.filter fun item => isName item.1.toList
  { name := call.name, arguments := [], directory := call.directory, system := system,
    descriptors := call.descriptors, line := 0
    store := inherited.map (fun item => (item.1, { value := item.2, isExported := true }))
      ++ [("IFS", { value := " \t\n" }), ("OPTIND", { value := "1" }), ("PS4", { value := "+ " }),
          ("PWD", { value := Shell.textOf call.directory })] }

def runScript (start : Start) (call : Call) (system : System) : ExitStatus × System :=
  let (result, shell) := (Shell.setOptions ['c'] call.arguments).run (shellOf call system)
  let refuse (message : String) : ExitStatus × System :=
    (.code 2, ((Shell.complain message).run shell).2.system)
  match result with
  | .error _ => (.code 2, shell.system)
  | .ok (own, operands) =>
    match operands.getD [] with
    | [] =>
      if own.contains 'c' then refuse "-c requires an argument" else fromInput shell []
    | first :: rest =>
      if own.contains 'c' then
        Shell.run start { shell with name := rest.headD call.name, arguments := rest.tail }
          (!shell.options.contains 's') first
      else if shell.options.contains 's' then fromInput shell (first :: rest)
      else
        match call.readFile system first with
        | .ok (content, system) => fromFile { shell with system := system } first rest content
        | .error .isDirectory => fromFile shell first rest []
        | .error refusal => refuse (Shell.openComplaint .read first refusal)
where
  text (content : Bytes) : String := Octets.ofBytes (content.filter (· ≠ 0))
  fromInput (shell : Shell) (arguments : List String) : ExitStatus × System :=
    let (_, shell) := (Shell.setOption true 's').run shell
    let (content, system) := call.read shell.system
    Shell.run start { shell with system := system, arguments := arguments } false (text content)
  fromFile (shell : Shell) (name : String) (arguments : List String) (content : Bytes) :
      ExitStatus × System :=
    Shell.run start { shell with name := name, arguments := arguments } false (text content)

/-! Other programs -/

/-- The environment after the flags that words begin with, and the other words: none of the old
variables is left after `-i`, and not those that are named after `-u`. -/
def remaining : List String → List (String × String) → List (String × String) × List String
  | "-" :: rest, _ => remaining rest []
  | "-i" :: rest, _ => remaining rest []
  | "-u" :: name :: rest, environment => remaining rest (environment.filter (·.1 ≠ name))
  | "--" :: rest, environment => (environment, rest)
  | words, environment => (environment, words)

/-- The words of a first argument that holds several of them after `-S`, and the other arguments. -/
def separated (arguments : List String) : List String :=
  match arguments.map String.toList with
  | ('-' :: 'S' :: text) :: _ =>
    ((Text.splitWhere isSpace text).filter (!·.isEmpty)).map String.ofList ++ arguments.tail
  | _ => arguments

def define (environment : List (String × String)) (word : String) : List (String × String) :=
  let (name, value) := Shell.assignmentOf word
  (name, value.getD "") :: environment.filter (·.1 ≠ name)

def runElsewhere (start : Start) (call : Call) (system : System) :
    Except OsError (ExitStatus × System) :=
  let assigns (word : String) : Bool := word.toList.contains '='
  let (environment, words) := remaining (separated call.arguments) call.environment
  let environment := (words.takeWhile assigns).foldl define environment
  match words.dropWhile assigns with
  | [] =>
    let lines := environment.map fun item => item.1 ++ "=" ++ item.2 ++ "\n"
    .ok (.code 0, call.write Call.output (Octets.toBytes (String.join lines)) system)
  | name :: arguments =>
    match start { call with name := name, arguments := arguments, environment := environment }
      system with
    | .ok result => .ok result
    | .error refusal =>
      let status := if refusal = .noEntry then 127 else 126
      .ok (.code status, call.complain ("'" ++ name ++ "': " ++ refusal.reason.2) system)

def print (call : Call) (system : System) : ExitStatus × System :=
  let printing := Printing.ofWords call.arguments
  let system := printing.complaints.foldl (fun system message => call.complain message system)
    system
  (.code (min printing.status 1),
    call.write Call.output (Octets.toBytes (.ofList printing.printed)) system)

def utility (start : Start) (call : Call) (system : System) :
    Utility → Except OsError (ExitStatus × System)
  | .cat => .ok (copy call system)
  | .echo =>
    .ok (.code 0, call.write Call.output (Octets.toBytes (echoedLine call.arguments)) system)
  | .env => runElsewhere start call system
  | .fail => .ok (.code 1, system)
  | .printf => .ok (print call system)
  | .shell => .ok (runScript start call system)
  | .succeed => .ok (.code 0, system)
  | .test => .ok (test call system)
  | .tr => .ok (Workspace.replace call system)

/-- Start programs, `depth` of them one in another. -/
def start : (depth : Nat) → Start
  | 0, _, _ => .error .unavailable
  | depth + 1, call, system => do
    match ← Program.find call system with
    | ⟨.utility program, _⟩ => utility (start depth) call system program
    | ⟨.file content _, path⟩ =>
      match interpreter? content with
      | none => .error .formatError
      | some (name, arguments) =>
        let name := if name.toList.contains '/' then name else "./" ++ name
        start depth { call with name := name, arguments := arguments ++ path :: call.arguments }
          system
    | _ => .error .accessDenied

def processLimit : Nat := 64

def environment : List (String × String) := [("PATH", Program.defaultDirectories)]

def directoryOf (tree : FileTree) (base : Path) (directory : Option String) :
    Except OsError Path :=
  match directory with
  | none => .ok base
  | some name => do
    let path ← tree.locate base name
    match tree.get? path with
    | some .directory => return path
    | some _ => .error .notDirectory
    | none => .error .noEntry

/-- How many bytes can be passed on to a program that does not read them. -/
def pipeSize : Nat := 65536

/-- Run a program to its end. No text of an invocation holds the character that ends texts. -/
def execute (base : Path) (invocation : Invocation) (tree : FileTree) :
    Except OsError (Execution × FileTree) := do
  let texts := invocation.program :: invocation.arguments ++ invocation.directory.toList
  if texts.any fun text => text.toList.contains '\x00' then .error .zeroInArgument
  let directory ← directoryOf tree base invocation.directory
  let channels : List Channel := [.source (utf8 invocation.input), .collector [], .collector []]
  let call : Call :=
    { name := Octets.ofText invocation.program
      arguments := invocation.arguments.map Octets.ofText
      directory := directory, environment := environment
      descriptors := [(Call.input, 0), (Call.output, 1), (Call.errors, 2)] }
  let (status, system) ← start processLimit call ⟨tree, channels⟩
  let refusal := if pipeSize < (system.pending 0).length then some OsError.brokenPipe else none
  return (⟨status, system.collected 1, system.collected 2, refusal⟩, system.tree)

end Memory

def memory (base : Path) : Machine FileTree where
  read path tree := do
    let content ← tree.content (← tree.locate base path)
    (Text.Utf8.decode content).mapError fun _ => .notText
  createDirectories path tree := tree.createDirectories base path
  write path text tree := do
    tree.write (← tree.locate base path) (utf8 text)
  execute := Memory.execute base

namespace FileTree

def directoryPart (path : String) : String :=
  "/".intercalate ((Text.splitWhere (· == '/') path.toList).map String.ofList).dropLast

/-- Add a file and the directories above it. A script can be executed. A file that cannot be there
is left out. -/
def addFile (base : Path) (tree : FileTree) (file : String × Bytes) : FileTree :=
  let added : Except OsError FileTree := do
    let tree ← tree.createDirectories base (directoryPart file.1)
    let path ← tree.locate base file.1
    return tree.put path (.file file.2 ((Text.utf8 "#!").isPrefixOf file.2))
  match added with
  | .ok tree => tree
  | .error _ => tree

def ofFiles (base : Path) (files : List (String × Bytes)) : FileTree :=
  let tree := match standard.create [] base with
    | .ok tree => tree
    | .error _ => standard
  files.foldl (addFile base) tree

end FileTree

end Bindings.Workspace
