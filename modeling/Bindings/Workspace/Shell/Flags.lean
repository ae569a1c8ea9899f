import Bindings.Workspace.Shell.Variables

/-! The command of a shell that reads flags from words, one each time.

The variable `OPTIND` holds the number of the word that comes next.
-/

set_option autoImplicit false

namespace Bindings.Workspace.Shell

structure FlagReading where
  letter : Char := '?'
  operand : Option String := none
  complaint : Option String := none
  isOver : Bool := false
  next : Nat
  place : Option (Nat × Nat) := none

/-- Whether a flag is known, and if so whether it has an operand. -/
def knownFlag? (letter : Char) : List Char → Option Bool
  | [] => none
  | c :: rest =>
    if c = letter then some (rest.head? = some ':')
    else
      match rest with
      | ':' :: rest => knownFlag? letter rest
      | rest => knownFlag? letter rest

def FlagReading.ofLetters (known : List Char) (words : List String) (next : Nat) (letter : Char)
    (letters : List Char) : FlagReading :=
  let isQuiet := known.head? = some ':'
  let place := (words[next - 2]?).map fun word => (next, word.length - letters.length)
  match knownFlag? letter known with
  | none =>
    if isQuiet then { operand := some (.ofList [letter]), next := next, place := place }
    else
      { complaint := some ("Illegal option -" ++ .ofList [letter]), next := next, place := place }
  | some false => { letter := letter, operand := some "", next := next, place := place }
  | some true =>
    if !letters.isEmpty then { letter := letter, operand := some (.ofList letters), next := next }
    else
      match words[next - 1]? with
      | some word => { letter := letter, operand := some word, next := next + 1 }
      | none =>
        if isQuiet then { letter := ':', operand := some (.ofList [letter]), next := next }
        else
          { complaint := some ("No arg for -" ++ .ofList [letter] ++ " option"), next := next }

/-- Read the next flag. A word that is no flag, or two dashes, end the flags. -/
def FlagReading.ofWords (known : List Char) (words : List String) (next : Nat)
    (place : Option (Nat × Nat)) : FlagReading :=
  let left := match place with
    | some (number, size) =>
      if number = next then ((words[next - 2]?).getD "").toList.drop size else []
    | none => []
  match left with
  | letter :: letters => ofLetters known words next letter letters
  | [] =>
    match ((words[next - 1]?).getD "").toList with
    | ['-', '-'] => { isOver := true, next := next + 1 }
    | '-' :: letter :: letters => ofLetters known words (next + 1) letter letters
    | _ => { isOver := true, next := next }

def flagCommand : List String → Effect Nat
  | known :: name :: words => do
    let shell ← get
    let words := if words.isEmpty then shell.arguments else words
    let next ← count ((shell.parameter? "OPTIND").getD "1")
    let next := if next = 0 || words.length + 1 < next then 1 else next
    let reading := FlagReading.ofWords known.toList words next shell.flagPlace
    modify ({ · with flagPlace := reading.place })
    if let some complaint := reading.complaint then write Call.errors (complaint ++ "\n")
    if !reading.isOver then
      match reading.operand with
      | some operand => assign "OPTARG" operand
      | none => unassign "OPTARG"
    assign "OPTIND" (toString reading.next)
    assign name (.ofList [reading.letter])
    return if reading.isOver then 1 else 0
  | _ => fail "Usage: getopts optstring var [arg]"

end Bindings.Workspace.Shell
