import Bindings.Workspace.Shell.Redirecting
import Bindings.Workspace.Testing

/-! The commands of a shell that work on its variables, arguments and options. -/

set_option autoImplicit false

namespace Bindings.Workspace.Shell

def count (word : String) : Effect Nat := do
  match Question.number? word with
  | some n => if 0 ≤ n && n < (Nat.pow 2 31 : Nat) then return n.toNat else mistake
  | none => mistake
where
  mistake : Effect Nat := fail ("Illegal number: " ++ word)

/-- A text as it has to be written for a shell to read it back: single quotation marks stand
between double ones, all else between single ones. -/
def quoted (text : String) : String := .ofList ('\'' :: rest '\'' text.toList)
where
  rest (mark : Char) : List Char → List Char
    | [] => [mark]
    | c :: text =>
      let own := if c = '\'' then '"' else '\''
      if own = mark then c :: rest mark text else mark :: own :: c :: rest own text

def flags (known : List Char) : List String → Effect (List Char × List String)
  | [] => return ([], [])
  | word :: words =>
    match word.toList with
    | ['-', '-'] => return ([], words)
    | '-' :: c :: rest => do
      match (c :: rest).find? fun c => !known.contains c with
      | some c => fail ("Illegal option -" ++ .ofList [c])
      | none =>
        let (others, words) ← flags known words
        return (c :: rest ++ others, words)
    | _ => return ([], word :: words)

/-! Variables -/

def assignmentOf (word : String) : String × Option String :=
  match Text.splitOnce? '=' word.toList with
  | some (name, value) => (.ofList name, some (.ofList value))
  | none => (word, none)

/-- Mark variables, which may get values as well; without words show those that are marked. -/
def markVariables (command : String) (mark : Variable → Variable) (isMarked : Variable → Bool)
    (words : List String) : Effect Nat := do
  let (asked, words) ← flags ['p'] words
  if words.isEmpty || !asked.isEmpty then
    let marked := (← get).store.filter fun item => isMarked item.2
    let lines := marked.map fun (name, content) =>
      command ++ " " ++ name ++ ((content.value.map ("=" ++ quoted ·)).getD "") ++ "\n"
    write Call.output (String.join lines.mergeSort)
  else
    for word in words do
      let (name, value) := assignmentOf word
      if let some value := value then assign name value
      if !isName name.toList then fail (name ++ ": bad variable name")
      let content := (← variableOf? name).getD { value := none }
      replaceVariable name (some (mark content))
  return 0

def exportCommand : List String → Effect Nat :=
  markVariables "export" ({ · with isExported := true }) (·.isExported)

def readOnlyCommand : List String → Effect Nat :=
  markVariables "readonly" ({ · with isReadOnly := true }) (·.isReadOnly)

def unsetCommand (words : List String) : Effect Nat := do
  let (asked, words) ← flags ['v', 'f'] words
  for word in words do
    if asked.getLast? = some 'f' then
      modify fun shell => { shell with functions := shell.functions.filter (·.1 ≠ word) }
    else unassign word
  return 0

def localCommand (words : List String) : Effect Nat := do
  for word in words do
    let (name, value) := assignmentOf word
    let shell ← get
    match shell.locals with
    | [] => fail "not in a function"
    | known :: others =>
      if !known.any (·.1 = name) then
        set { shell with locals := ((name, shell.store.lookup name) :: known) :: others }
      if let some value := value then assign name value
  if (← get).locals.isEmpty then fail "not in a function"
  return 0

def restoreVariables (saved : List (String × Option Variable)) : Effect Unit :=
  saved.forM fun (name, content) => replaceVariable name content

/-! Arguments -/

def shiftCommand (words : List String) : Effect Nat := do
  let size ← (words.head?.map count).getD (return 1)
  let shell ← get
  if shell.arguments.length < size then fail "can't shift that many"
  set { shell with arguments := shell.arguments.drop size }
  return 0

/-! Options -/

def optionNames : List (String × Char) :=
  [("errexit", 'e'), ("noglob", 'f'), ("ignoreeof", 'I'), ("interactive", 'i'), ("monitor", 'm'),
   ("noexec", 'n'), ("stdin", 's'), ("xtrace", 'x'), ("verbose", 'v'), ("vi", 'V'),
   ("emacs", 'E'), ("noclobber", 'C'), ("allexport", 'a'), ("notify", 'b'), ("nounset", 'u'),
   ("privileged", 'p')]

def setOption (isOn : Bool) (letter : Char) : Effect Unit := do
  let known := optionNames.map (·.2)
  if !known.contains letter then fail ("Illegal option -" ++ .ofList [letter])
  modify fun shell =>
    { shell with options := known.filter fun other =>
        if other = letter then isOn else shell.options.contains other }

def setNamedOption (isOn : Bool) (name : String) : Effect Unit := do
  match optionNames.lookup name with
  | some letter => setOption isOn letter
  | none => fail ("Illegal option -o " ++ name)

def shownOptions (isTable : Bool) (isOn : Char → Bool) : String :=
  let row (option : String × Char) : String :=
    if isTable then
      option.1 ++ .ofList (List.replicate (16 - option.1.length) ' ')
        ++ (if isOn option.2 then "on" else "off") ++ "\n"
    else (if isOn option.2 then "set -o " else "set +o ") ++ option.1 ++ "\n"
  (if isTable then "Current option settings\n" else "") ++ String.join (optionNames.map row)

/-- Set options, of which the letters `own` are left alone and returned. Returns what follows them;
`none` after a single minus or nothing at all that follows. -/
def setOptions (own : List Char) : List String → Effect (List Char × Option (List String))
  | [] => return ([], none)
  | word :: words => do
    match word.toList with
    | ['-'] => do
      setOption false 'x'
      setOption false 'v'
      return ([], if words.isEmpty then none else some words)
    | ['-', '-'] => return ([], some words)
    | sign :: letters => do
      if sign ≠ '-' && sign ≠ '+' then return ([], some (word :: words))
      let isOn := sign = '-'
      let found := letters.filter own.contains
      (letters.filter fun c => c ≠ 'o' && !own.contains c).forM (setOption isOn)
      if letters.contains 'o' then
        match words with
        | [] =>
          let shell ← get
          write Call.output (shownOptions isOn shell.options.contains)
          return (found, none)
        | name :: words =>
          setNamedOption isOn name
          let (others, rest) ← setOptions own words
          return (found ++ others, rest)
      let (others, rest) ← setOptions own words
      return (found ++ others, rest)
    | [] => return ([], some (word :: words))

def setCommand (words : List String) : Effect Nat := do
  if words.isEmpty then
    let known := (← get).store.filterMap fun (name, content) =>
      content.value.map fun value => name ++ "=" ++ quoted value ++ "\n"
    write Call.output (String.join known.mergeSort)
  else if let (_, some arguments) ← setOptions [] words then
    modify ({ · with arguments := arguments })
  return 0

/-! Reading -/

/-- A line that has been read: its characters, the last one first, how many bytes it takes,
and whether its end has been found. -/
structure Line where
  text : List PatternChar := []
  size : Nat := 0
  isEnded : Bool := false

def Line.add (line : Line) (byte : UInt8) (isQuoted : Bool) (size : Nat) : Line :=
  { line with text := ⟨Char.ofNat byte.toNat, isQuoted⟩ :: line.text, size := line.size + size }

/-- Read a line. Unless it is read as it is, a backslash hides the meaning of the next character,
also of the end of the line. -/
def Line.read (asItIs : Bool) (line : Line) : Text.Bytes → Line
  | [] => line
  | [byte] =>
    if byte = newline then { line with size := line.size + 1, isEnded := true }
    else if byte = 0 || (byte = backslash && !asItIs) then { line with size := line.size + 1 }
    else line.add byte false 1
  | byte :: next :: rest =>
    if byte = newline then { line with size := line.size + 1, isEnded := true }
    else if byte = 0 then read asItIs { line with size := line.size + 1 } (next :: rest)
    else if byte ≠ backslash || asItIs then read asItIs (line.add byte false 1) (next :: rest)
    else if next = newline then read asItIs { line with size := line.size + 2 } rest
    else read asItIs (line.add next true 2) rest
where
  newline : UInt8 := 10
  backslash : UInt8 := 92

/-- Cut a line into fields, the last of which is all that is left. A single field that is left
loses the separator after it, several ones keep theirs, except for blanks. -/
def lineFields (separators : List Char) : (count : Nat) → List PatternChar → List (List PatternChar)
  | 0, _ => []
  | count + 1, text =>
    let separates (c : PatternChar) : Bool := !c.isQuoted && separators.contains c.char
    let isBlank (c : PatternChar) : Bool := separates c && [' ', '\t', '\n'].contains c.char
    let text := text.dropWhile isBlank
    let field := text.takeWhile fun c => !separates c
    let afterBlanks := (text.drop field.length).dropWhile isBlank
    let rest := match afterBlanks with
      | c :: rest => if separates c then rest.dropWhile isBlank else afterBlanks
      | [] => []
    if count = 0 then [if rest.isEmpty then field else Unicode.dropWhileEnd isBlank text]
    else field :: lineFields separators count rest

def readCommand (words : List String) : Effect Nat := do
  let (asked, words) ← flags ['r', 'p'] words
  let names := if asked.contains 'p' then words.tail else words
  if names.isEmpty then fail "arg count"
  let shell ← get
  match shell.descriptors.lookup Call.input with
  | none => finish names {} shell.separators
  | some channel =>
    let line := Line.read (asked.contains 'r') {} (shell.system.pending channel)
    set { shell with system := shell.system.advance channel line.size }
    finish names line shell.separators
where
  finish (names : List String) (line : Line) (separators : List Char) : Effect Nat := do
    let fields := lineFields separators names.length line.text.reverse
    (names.zip fields).forM fun (name, field) => assign name (Field.text field)
    return if line.isEnded then 0 else 1

end Bindings.Workspace.Shell
