import Bindings.Unicode.Blank
import Bindings.Workspace.Arithmetic
import Bindings.Workspace.Shell.State

/-! Expansion of words.

How commands inside of a word are run is given; they return what they print.
-/

set_option autoImplicit false

namespace Bindings.Workspace.Shell

abbrev Substitution := List Command → Effect String

/-! Files by patterns -/

namespace Field

def components : Field → List Field
  | [] => [[]]
  | c :: rest =>
    if c.char = '/' then [] :: components rest
    else
      match components rest with
      | [] => [[c]]
      | first :: others => (c :: first) :: others

def isPattern (field : Field) : Bool := field.any Pattern.isSpecial

def literal (field : Field) : String :=
  .ofList ((Pattern.unescaped field).map (·.char))

/-- The names in a directory that fit a pattern; names that begin with a dot have to be asked
for. -/
def names (tree : FileTree) (directory : Path) (pattern : Field) : List String :=
  let asksForDot := (Pattern.unescaped pattern).head?.any (·.char = '.')
  ([".", ".."] ++ (tree.names directory).map Octets.ofText).filter fun name =>
    (asksForDot || !name.startsWith ".") && Pattern.isMatch pattern name.toList

def paths (tree : FileTree) (before : String) : (directory : Path) → List Field → List String
  | _, [] => []
  | directory, [last] =>
    if last.isPattern then (names tree directory last).map (before ++ ·)
    else
      match tree.locate directory (Octets.toText (if last.isEmpty then "." else literal last)) with
      | .ok path => if (tree.get? path).isSome then [before ++ literal last] else []
      | .error _ => []
  | directory, component :: rest =>
    let found := if component.isPattern then names tree directory component
      else [literal component]
    found.flatMap fun name =>
      match tree.step directory (Octets.toText name) with
      | .ok path =>
        if tree.get? path = some .directory then paths tree (before ++ name ++ "/") path rest
        else []
      | .error _ => []

/-- The paths that fit a pattern in order, or the field as it is if there are none. -/
def expand (field : Field) (tree : FileTree) (directory : Path) : List String :=
  if !field.isPattern then [field.text]
  else
    let found := match field with
      | ⟨'/', _⟩ :: rest => paths tree "/" [] (components rest)
      | field => paths tree "" directory (components field)
    if found.isEmpty then [field.text] else found.mergeSort

end Field

/-! Words -/

def atomsOf (isQuoted : Bool) (text : String) : List Atom :=
  text.toList.map (if isQuoted then .quoted else .expanded)

/-- The character between arguments where they are one text. -/
def joint (shell : Shell) : String := .ofList (shell.separators.take 1)

def withoutLineEnds (text : String) : String :=
  .ofList (Unicode.dropWhileEnd (· = '\n') text.toList)

/-- Inside of a value, plain characters may separate fields as well. -/
def Atom.asValue (isQuoted : Bool) : Atom → Atom
  | .plain c => if isQuoted then .quoted c else .expanded c
  | atom => atom

def Atom.pattern? : Atom → Option PatternChar
  | .plain c => some ⟨c, false⟩
  | .expanded c => some ⟨c, false⟩
  | .quoted c => some ⟨c, true⟩
  | _ => none

def wholeText (atoms : List Atom) : Effect String :=
  return (wholeField (joint (← get)) atoms).text

def valueAtoms (name : String) (isQuoted : Bool) : Effect (List Atom) := do
  let shell ← get
  if name = "@" && isQuoted then
    return [Atom.cut].intercalate (shell.arguments.map fun argument =>
      .mark :: atomsOf true argument)
  else if name = "*" && isQuoted then
    return atomsOf true ((joint shell).intercalate shell.arguments)
  else if name = "@" || name = "*" then
    return [Atom.cut].intercalate (shell.arguments.map (atomsOf false))
  else
    match shell.parameter? name with
    | some value => return atomsOf isQuoted value
    | none =>
      if ← hasOption 'u' then fail (name ++ ": parameter not set")
      return []

def calculate (text : String) : Effect String := do
  let shell ← get
  let look (name : String) : String := (shell.parameter? name).getD ""
  let result := do
    let expression ← Arithmetic.ofText? text.toList
    (expression.evaluate look).run []
  match result with
  | .error failure => fail (failure.message text)
  | .ok (value, assignments) =>
    for assignment in assignments.reverse do
      assign assignment.1 assignment.2
    return toString value

mutual

def expandPiece (substitution : Substitution) : Piece → Effect (List Atom)
  | .text content => return content.map .plain
  | .quoted content => return .mark :: content.map .quoted
  | .output commands isQuoted => do
    let text ← substitution commands
    return atomsOf isQuoted (withoutLineEnds (.ofList (text.toList.filter (· ≠ '\x00'))))
  | .arithmetic expression isQuoted => do
    let text ← wholeText (← expandPieces substitution expression)
    return atomsOf isQuoted (← calculate text)
  | .parameter name use operand isQuoted => do
    let value? := (← get).parameter? name
    let isMissing (ifEmpty : Bool) : Bool := value?.all fun value => ifEmpty && value.isEmpty
    match use with
    | .value => valueAtoms name isQuoted
    | .length =>
      if value?.isNone && (← hasOption 'u') then fail (name ++ ": parameter not set")
      return atomsOf isQuoted (toString (value?.getD "").length)
    | .orElse ifEmpty =>
      if isMissing ifEmpty then
        return (← expandPieces substitution operand).map (Atom.asValue isQuoted)
      valueAtoms name isQuoted
    | .orAssign ifEmpty =>
      if isMissing ifEmpty then
        let text ← wholeText (← expandPieces substitution operand)
        if !isName name.toList then fail (name ++ ": bad variable name")
        assign name text
      valueAtoms name isQuoted
    | .orFail ifEmpty =>
      if isMissing ifEmpty then
        let text ← wholeText (← expandPieces substitution operand)
        let message := if operand.isEmpty then
            if ifEmpty then "parameter not set or null" else "parameter not set"
          else text
        fail (name ++ ": " ++ message)
      valueAtoms name isQuoted
    | .instead ifEmpty =>
      if isMissing ifEmpty then return []
      return (← expandPieces substitution operand).map (Atom.asValue isQuoted)
    | .withoutStart longest =>
      if value?.isNone && (← hasOption 'u') then fail (name ++ ": parameter not set")
      let pattern := (← expandPieces substitution operand).filterMap Atom.pattern?
      let value := (wholeField (joint (← get)) (← valueAtoms name true)).text
      return atomsOf isQuoted (.ofList (Pattern.withoutStart longest pattern value.toList))
    | .withoutEnd longest =>
      if value?.isNone && (← hasOption 'u') then fail (name ++ ": parameter not set")
      let pattern := (← expandPieces substitution operand).filterMap Atom.pattern?
      let value := (wholeField (joint (← get)) (← valueAtoms name true)).text
      return atomsOf isQuoted (.ofList (Pattern.withoutEnd longest pattern value.toList))
    | .mistaken => fail "Bad substitution"

def expandPieces (substitution : Substitution) : List Piece → Effect (List Atom)
  | [] => return []
  | piece :: rest => do
    let first ← expandPiece substitution piece
    return first ++ (← expandPieces substitution rest)

end

def expand (substitution : Substitution) (word : Word) : Effect (List String) := do
  let atoms ← expandPieces substitution word
  let shell ← get
  let found := fields shell.separators atoms
  if ← hasOption 'f' then return found.map Field.text
  return found.flatMap fun field => field.expand shell.system.tree shell.directory

def expandWhole (substitution : Substitution) (word : Word) : Effect String := do
  wholeText (← expandPieces substitution word)

def expandPattern (substitution : Substitution) (word : Word) : Effect (List PatternChar) := do
  return wholeField (joint (← get)) (← expandPieces substitution word)

end Bindings.Workspace.Shell
