import Bindings.Workspace.Process

/-! Copying files, one after the other.

Lines may be numbered, and characters that cannot be seen may be shown.
-/

set_option autoImplicit false

namespace Bindings.Workspace

open Text (Bytes)

namespace Copying

/-! Names in complaints -/

def isPrintable (c : Char) : Bool := 32 ≤ c.toNat && c.toNat < 127

/-- Characters that a shell takes as they are, also between double quotation marks. -/
def isPlain (c : Char) : Bool :=
  c.isAlphanum || [' ', '%', '+', ',', '-', '.', '/', ':', ']', '_', '\''].contains c

def needsQuotes (name : List Char) : Bool :=
  let special := " !\"$&()*;<=>?[\\^\x60|':".toList
  name.isEmpty || name.any (fun c => special.contains c || !isPrintable c)
    || [some '#', some '~'].contains name.head? || name = ['\x7b'] || name = ['\x7d']

def escapeOf (c : Char) : List Char :=
  match [('\x07', 'a'), ('\x08', 'b'), ('\t', 't'), ('\n', 'n'), ('\x0b', 'v'), ('\x0c', 'f'),
    ('\r', 'r')].lookup c with
  | some letter => ['\\', letter]
  | none =>
    let digits := Nat.toDigits 8 c.toNat
    '\\' :: List.replicate (3 - digits.length) '0' ++ digits

/-- A name between quotation marks, in which escapes have quotation marks of their own. -/
def inQuotes : (isEscaping : Bool) → List Char → List Char
  | _, [] => ['\'']
  | isEscaping, c :: rest =>
    if isPrintable c then
      let between := if isEscaping then ['\'', '\''] else []
      let written := if c = '\'' then ['\'', '\\', '\'', '\''] else [c]
      between ++ written ++ inQuotes false rest
    else
      let between := if isEscaping then [] else ['\'', '$', '\'']
      between ++ escapeOf c ++ inQuotes true rest

def shown (name : String) : String :=
  let characters := name.toList
  if !needsQuotes characters then name
  else if characters.contains '\'' && characters.all isPlain then "\"" ++ name ++ "\""
  else .ofList ('\'' :: inQuotes false characters)

/-! Layout -/

structure Flags where
  numbers : Bool
  /-- Only lines that hold something are numbered. -/
  numbersFilled : Bool
  squeezes : Bool
  showsEnds : Bool
  showsTabs : Bool
  showsOthers : Bool

def Flags.ofLetters (letters : List Char) : Flags :=
  let has (among : List Char) : Bool := letters.any among.contains
  ⟨has ['n'], has ['b'], has ['s'], has ['E', 'A', 'e'], has ['T', 'A', 't'],
    has ['v', 'A', 'e', 't']⟩

def visible (flags : Flags) (c : Char) : List Char :=
  let control (n : Nat) : List Char := ['^', Char.ofNat (n + 64)]
  let low (n : Nat) : List Char :=
    if n < 32 then control n else if n = 127 then ['^', '?'] else [Char.ofNat n]
  if c = '\t' then if flags.showsTabs then control 9 else [c]
  else if !flags.showsOthers then [c]
  else if c.toNat < 128 then low c.toNat
  else 'M' :: '-' :: low (c.toNat - 128)

/-- Lay out lines; `count` of them have been numbered, `blanks` empty ones come before them. -/
def layOut (flags : Flags) : (count blanks : Nat) → List (List Char) → List Char
  | _, _, [] => []
  | _, _, [[]] => []
  | count, blanks, line :: rest =>
    if flags.squeezes && line.isEmpty && 0 < blanks then layOut flags count (blanks + 1) rest
    else
      let isNumbered := if flags.numbersFilled then !line.isEmpty else flags.numbers
      let digits := Nat.toDigits 10 (count + 1)
      let number := if isNumbered then
          List.replicate (6 - digits.length) ' ' ++ digits ++ ['\t']
        else []
      let ending := if rest.isEmpty then [] else if flags.showsEnds then ['$', '\n'] else ['\n']
      number ++ line.flatMap (visible flags) ++ ending
        ++ layOut flags (if isNumbered then count + 1 else count)
          (if line.isEmpty then blanks + 1 else 0) rest

/-- Words that are flags, by their letters, and the others; after two dashes there are no flags. -/
def divide : List String → List Char × List String
  | [] => ([], [])
  | "--" :: words => ([], words)
  | word :: words =>
    let (letters, names) := divide words
    match word.toList with
    | '-' :: c :: rest => (c :: rest ++ letters, names)
    | _ => (letters, word :: names)

end Copying

def copy (call : Call) (system : System) : ExitStatus × System :=
  let (letters, names) := Copying.divide call.arguments
  match letters.find? fun c => !"AbeEnstTuv".toList.contains c with
  | some c =>
    (.code 1, call.complain ("invalid option -- '" ++ .ofList [c]
      ++ "'\nTry '" ++ call.name ++ " --help' for more information.") system)
  | none =>
    let (status, bytes, system) :=
      (if names.isEmpty then ["-"] else names).foldl add (.code 0, [], system)
    let flags := letters.filter (· ≠ 'u')
    let bytes := if flags.isEmpty then bytes
      else
        let lines := Text.splitWhere (· == '\n') (Octets.ofBytes bytes).toList
        Octets.toBytes (.ofList (Copying.layOut (.ofLetters flags) 0 0 lines))
    (status, call.write Call.output bytes system)
where
  add (state : ExitStatus × Bytes × System) (name : String) : ExitStatus × Bytes × System :=
    let (status, bytes, system) := state
    if name = "-" then
      let (more, system) := call.read system
      (status, bytes ++ more, system)
    else
      match call.readFile system name with
      | .ok (more, system) => (status, bytes ++ more, system)
      | .error e =>
        (.code 1, bytes, call.complain (Copying.shown name ++ ": " ++ e.reason.2) system)

end Bindings.Workspace
