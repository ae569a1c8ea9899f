import Bindings.Workspace.Printing

/-! Replacing and deleting the bytes of a set. -/

set_option autoImplicit false

namespace Bindings.Workspace

namespace Replacing

def range (first last : Nat) : List Char :=
  (List.range (last + 1 - first)).map fun n => Char.ofNat (first + n)

def classes : List (String × List Char) :=
  [("[:upper:]", range 65 90), ("[:lower:]", range 97 122), ("[:digit:]", range 48 57),
   ("[:alpha:]", range 65 90 ++ range 97 122),
   ("[:alnum:]", range 48 57 ++ range 65 90 ++ range 97 122),
   ("[:space:]", range 9 13 ++ [' ']), ("[:blank:]", ['\t', ' ']),
   ("[:punct:]", range 33 47 ++ range 58 64 ++ range 91 96 ++ range 123 126),
   ("[:cntrl:]", range 0 31 ++ ['\x7f']), ("[:print:]", range 32 126),
   ("[:graph:]", range 33 126), ("[:xdigit:]", range 48 57 ++ range 65 70 ++ range 97 102)]

def character : List Char → Option (Char × List Char)
  | [] => none
  | ['\\'] => some ('\\', [])
  | '\\' :: rest =>
    match escape? rest with
    | some (c, size) => some (c, rest.drop size)
    | none => some (rest.headD '\\', rest.tail)
  | c :: rest => some (c, rest)

inductive Element where
  | members (characters : List Char)
  /-- A character as often as it takes to make the set as long as another one. -/
  | filling (c : Char)

/-- A character with the number of its repetitions, between brackets, and what follows them. -/
def repetition? (text : List Char) : Option (Element × List Char) := do
  let .some (c, '*' :: rest) := character text | none
  let digits := rest.takeWhile Char.isDigit
  let .some (']' :: after) := some (rest.drop digits.length) | none
  let count := valueOf (if digits.head? = some '0' then 8 else 10) digits
  return (if count = 0 then .filling c else .members (List.replicate count c), after)

/-- What stands between a bracket with a mark and the mark with the closing bracket. -/
def marked? (mark : Char) (text : List Char) : Option (List Char × List Char) := do
  let '[' :: c :: rest := text | none
  if c ≠ mark then none
  else
    let sizes := List.range rest.length
    let size ← sizes.find? fun size => (rest.drop size).take 2 = [mark, ']']
    return (rest.take size, rest.drop (size + 2))

def set : (fuel : Nat) → List Char → Except String (List Element)
  | 0, _ => .ok []
  | _, [] => .ok []
  | fuel + 1, c :: rest =>
    let text := c :: rest
    match marked? ':' text, marked? '=' text with
    | some (name, after), _ =>
      match classes.lookup ("[:" ++ .ofList name ++ ":]") with
      | some members => do return .members members :: (← set fuel after)
      | none => .error ("invalid character class '" ++ .ofList name ++ "'")
    | none, some ([c], after) => do return .members [c] :: (← set fuel after)
    | none, _ =>
      match if c = '[' then repetition? rest else none with
      | some (element, after) => do return element :: (← set fuel after)
      | none =>
        match character text with
        | none => .ok []
        | some (first, '-' :: next :: rest) =>
          match character (next :: rest) with
          | some (last, rest) =>
            if first ≤ last then
              do return .members (range first.toNat last.toNat) :: (← set fuel rest)
            else
              .error ("range-endpoints of '" ++ .ofList [first, '-', last]
                ++ "' are in reverse collating sequence order")
          | none => .ok [.members [first, '-']]
        | some (first, rest) => do return .members [first] :: (← set fuel rest)

/-- The characters of a set, the first filling of which makes it `size` characters long. -/
def flat (size : Nat) (elements : List Element) : List Char :=
  let known := elements.flatMap fun element =>
    match element with
    | .members characters => characters
    | .filling _ => []
  elements.flatMap fun element =>
    match element with
    | .members characters => characters
    | .filling c => List.replicate (size - known.length) c

def ofText (size : Nat) (text : String) : Except String (List Char) := do
  return flat size (← set text.length text.toList)

def hasFilling (elements : List Element) : Bool :=
  elements.any fun element => element matches .filling _

def squeeze (members : List Char) : List Char → List Char
  | first :: second :: rest =>
    if first = second && members.contains first then squeeze members (second :: rest)
    else first :: squeeze members (second :: rest)
  | text => text

/-- The image of a character: the one of `images` at its last place in `members`, the last one of
all for later places. -/
def image (members images : List Char) (c : Char) : Char :=
  match members.reverse.idxOf? c with
  | some place => (images[members.length - 1 - place]?).getD (images.getLastD c)
  | none => c

/-- Why nothing is made of a text, and whether that is a matter of how one asks. -/
structure Refusal where
  message : String
  isUsage : Bool := true

structure Flags where
  complements : Bool
  deletes : Bool
  squeezes : Bool
  truncates : Bool

def apply (flags : Flags) (operands : List String) (text : List Char) :
    Except Refusal (List Char) := do
  let refuse (message : String) : Refusal := ⟨message, false⟩
  let set (operand : String) (size : Nat) : Except Refusal (List Char) :=
    (ofText size operand).mapError refuse
  let chosen (operand : String) : Except Refusal (List Char) := do
    let elements ← (Replacing.set operand.length operand.toList).mapError refuse
    if hasFilling elements then
      .error (refuse "the [c*] repeat construct may not appear in string1")
    else
      let members := flat 0 elements
      return if flags.complements then (range 0 255).filter fun c => !members.contains c
        else members
  match operands with
  | [] => .error { message := "missing operand" }
  | [first] =>
    if flags.deletes && !flags.squeezes then
      let members ← chosen first
      return text.filter fun c => !members.contains c
    else if flags.squeezes && !flags.deletes then return squeeze (← chosen first) text
    else
      let purpose := if flags.deletes then "both deleting and squeezing repeats" else "translating"
      .error { message := "missing operand after '" ++ first
        ++ "'\nTwo strings must be given when " ++ purpose ++ "." }
  | [first, second] =>
    let members ← chosen first
    let images ← set second members.length
    if flags.deletes then
      if !flags.squeezes then
        .error { message := "extra operand '" ++ second
          ++ "'\nOnly one string may be given when deleting without squeezing repeats." }
      else return squeeze images (text.filter fun c => !members.contains c)
    else
      let members := if flags.truncates then members.take images.length else members
      if images.isEmpty && !members.isEmpty then
        .error ⟨"when not truncating set1, string2 must be non-empty", false⟩
      else
        let text := text.map (image members images)
        return if flags.squeezes then squeeze images text else text
  | _ :: _ :: third :: _ => .error { message := "extra operand '" ++ third ++ "'" }

end Replacing

def replace (call : Call) (system : System) : ExitStatus × System :=
  let isFlag (word : String) : Bool := word.startsWith "-" && word ≠ "-" && word ≠ "--"
  let flags := (call.arguments.takeWhile isFlag).flatMap fun word => word.toList.drop 1
  let operands := call.arguments.dropWhile isFlag
  let operands := if operands.head? = some "--" then operands.tail else operands
  let complain (refusal : Replacing.Refusal) : ExitStatus × System :=
    let hint := if refusal.isUsage then "\nTry '" ++ call.name ++ " --help' for more information."
      else ""
    (.code 1, call.complain (refusal.message ++ hint) system)
  match flags.find? fun c => !"cCdst".toList.contains c with
  | some c => complain { message := "invalid option -- '" ++ .ofList [c] ++ "'" }
  | none =>
    let (input, after) := call.read system
    match Replacing.apply ⟨flags.any ['c', 'C'].contains, flags.contains 'd', flags.contains 's',
      flags.contains 't'⟩ operands (Octets.ofBytes input).toList with
    | .ok text => (.code 0, call.write Call.output (Octets.toBytes (.ofList text)) after)
    | .error refusal => complain refusal

end Bindings.Workspace
