import Bindings.Workspace.Numeral
import Bindings.Workspace.Process

/-! Printing words and filled formats. -/

set_option autoImplicit false

namespace Bindings.Workspace

open Text (Bytes)

/-! Escapes -/

/-- The byte that up to `limit` octal digits spell, and their number; none without a digit. -/
def octal? (limit : Nat) (text : List Char) : Option (Char × Nat) :=
  let digits := (text.take limit).takeWhile (isDigitOf 8)
  if digits.isEmpty then none
  else some (Char.ofNat (valueOf 8 digits % 256), digits.length)

def escape? : List Char → Option (Char × Nat)
  | 'a' :: _ => some ('\x07', 1)
  | 'b' :: _ => some ('\x08', 1)
  | 't' :: _ => some ('\t', 1)
  | 'n' :: _ => some ('\n', 1)
  | 'v' :: _ => some ('\x0b', 1)
  | 'f' :: _ => some ('\x0c', 1)
  | 'r' :: _ => some ('\r', 1)
  | '\\' :: _ => some ('\\', 1)
  | text => octal? 3 text

/-- A text with its escapes, in which a zero may precede octal digits; `\c` ends it. The flag says
that it has not been ended. -/
def spoken : (skip : Nat) → List Char → List Char × Bool
  | _, [] => ([], true)
  | skip + 1, _ :: rest => spoken skip rest
  | 0, '\\' :: 'c' :: _ => ([], false)
  | 0, '\\' :: '0' :: rest =>
    match octal? 3 rest with
    | some (c, size) => after c (spoken (size + 1) ('0' :: rest))
    | none => after '\x00' (spoken 1 ('0' :: rest))
  | 0, '\\' :: rest =>
    match escape? rest with
    | some (c, size) => after c (spoken size rest)
    | none => after '\\' (spoken 0 rest)
  | 0, c :: rest => after c (spoken 0 rest)
where
  after (c : Char) (rest : List Char × Bool) : List Char × Bool := (c :: rest.1, rest.2)

def spokenLine (words : List String) : String :=
  let (words, stays) := match words with
    | "-n" :: words => (words, true)
    | words => (words, false)
  let (text, whole) := spoken 0 (" ".intercalate words).toList
  .ofList (if stays || !whole then text else text ++ ['\n'])

/-- Words on a line as they are, unless `-e` asks for their escapes; after `-n` the line stays
open. -/
def echoedLine (words : List String) : String :=
  let isFlag (word : String) : Bool :=
    match word.toList with
    | '-' :: c :: rest => (c :: rest).all ['n', 'e', 'E'].contains
    | _ => false
  let flags := (words.takeWhile isFlag).flatMap String.toList
  let text := " ".intercalate (words.dropWhile isFlag)
  let escapes := (flags.filter fun c => c = 'e' || c = 'E').getLast? = some 'e'
  let (text, whole) := if escapes then spoken 0 text.toList else (text.toList, true)
  .ofList (if flags.contains 'n' || !whole then text else text ++ ['\n'])

/-! Formats -/

structure Layout where
  flags : List Char := []
  width : Nat := 0
  precision : Option Nat := none

structure Printing where
  printed : List Char := []
  complaints : List String := []
  /-- Zero as long as nothing is wrong. -/
  status : Nat := 0
  arguments : List String
  /-- Whether the format goes on. -/
  goesOn : Bool := true

namespace Layout

def pad (layout : Layout) (text : List Char) : List Char :=
  let gap := List.replicate (layout.width - text.length) ' '
  if layout.flags.contains '-' then text ++ gap else gap ++ text

def text (layout : Layout) (content : List Char) : List Char :=
  layout.pad (match layout.precision with
    | some limit => content.take limit
    | none => content)

def number (layout : Layout) (sign digits : List Char) : List Char :=
  let digits := match layout.precision with
    | some 0 => if digits = ['0'] then [] else digits
    | some least => List.replicate (least - digits.length) '0' ++ digits
    | none => digits
  let zeros := layout.flags.contains '0' && !layout.flags.contains '-' && layout.precision.isNone
  let fill := if zeros then layout.width - sign.length - digits.length else 0
  layout.pad (sign ++ List.replicate fill '0' ++ digits)

def signed (layout : Layout) (n : Int) : List Char :=
  let sign := if n < 0 then ['-'] else if layout.flags.contains '+' then ['+']
    else if layout.flags.contains ' ' then [' '] else []
  layout.number sign (Nat.toDigits 10 n.natAbs)

def unsigned (layout : Layout) (kind : Char) (n : Nat) : List Char :=
  let alternative := layout.flags.contains '#' && n ≠ 0
  match kind with
  | 'o' => layout.number [] (if alternative then '0' :: Nat.toDigits 8 n else Nat.toDigits 8 n)
  | 'x' => layout.number (if alternative then ['0', 'x'] else []) (Nat.toDigits 16 n)
  | 'X' =>
    layout.number (if alternative then ['0', 'X'] else []) ((Nat.toDigits 16 n).map Char.toUpper)
  | _ => layout.number [] (Nat.toDigits 10 n)

end Layout

namespace Printing

def add (state : Printing) (text : List Char) : Printing :=
  { state with printed := state.printed ++ text }

def complain (state : Printing) (message : String) : Printing :=
  { state with complaints := state.complaints ++ [message], status := max state.status 1 }

def stop (state : Printing) (message : String) : Printing :=
  { state.complain message with status := 2, goesOn := false }

def take (state : Printing) : Option String × Printing :=
  (state.arguments.head?, { state with arguments := state.arguments.tail })

/-- Use up an argument as a number; a quotation mark precedes a character whose number is meant. -/
def takeNumber (state : Printing) (isSigned : Bool) : Int × Printing :=
  match state.take with
  | (none, state) => (0, state)
  | (some argument, state) =>
    match argument.toList with
    | '"' :: rest => (((rest.head?.map Char.toNat).getD 0 : Nat), state)
    | '\'' :: rest => (((rest.head?.map Char.toNat).getD 0 : Nat), state)
    | text =>
      let numeral := Numeral.ofText 0 text
      let fits := if isSigned then isWord numeral.value
        else -(Nat.pow 2 64 : Nat) < numeral.value && numeral.value < (Nat.pow 2 64 : Nat)
      let value := if fits then numeral.value
        else if isSigned then
          if numeral.value < 0 then -(Nat.pow 2 63 : Nat) else (Nat.pow 2 63 - 1 : Nat)
        else (Nat.pow 2 64 - 1 : Nat)
      if !numeral.rest.isEmpty then
        (value, state.complain (argument ++ ": " ++
          (if numeral.rest = text then "expected numeric value" else "not completely converted")))
      else if fits then (value, state)
      else (value, state.complain (argument ++ ": Numerical result out of range"))

/-- A width or precision: digits, or a star for an argument. -/
def takeSize (state : Printing) (text : List Char) : Int × List Char × Printing :=
  match text with
  | '*' :: rest =>
    let (size, state) := state.takeNumber true
    (size, rest, state)
  | text =>
    let digits := text.takeWhile Char.isDigit
    (valueOf 10 digits, text.drop digits.length, state)

/-- Print an argument in the way that a character names; `shown` is the directive as written. -/
def conversion (state : Printing) (layout : Layout) (kind : Char) (shown : List Char) : Printing :=
  match kind with
  | 's' =>
    let (argument, state) := state.take
    state.add (layout.text (argument.getD "").toList)
  | 'c' =>
    let (argument, state) := state.take
    state.add (layout.pad ((argument.getD "").toList.take 1))
  | 'b' =>
    let (argument, state) := state.take
    let (text, whole) := spoken 0 (argument.getD "").toList
    { state.add (layout.text text) with goesOn := whole }
  | kind =>
    if kind = 'd' || kind = 'i' then
      let (n, state) := state.takeNumber true
      state.add (layout.signed n)
    else if ['o', 'u', 'x', 'X'].contains kind then
      let (n, state) := state.takeNumber false
      state.add (layout.unsigned kind (n % (Nat.pow 2 64 : Nat)).toNat)
    else state.stop (.ofList shown ++ ": invalid directive")

def directive (state : Printing) (text : List Char) : Printing × List Char :=
  let flags := text.takeWhile ['#', '-', '+', ' ', '0'].contains
  let (width, rest, state) := state.takeSize (text.drop flags.length)
  let flags := if width < 0 then '-' :: flags else flags
  let (precision, rest, state) : Option Nat × List Char × Printing := match rest with
    | '.' :: rest =>
      let (size, rest, state) := state.takeSize rest
      (if size < 0 then none else some size.toNat, rest, state)
    | rest => (none, rest, state)
  match rest with
  | [] => (state.stop "missing format character", [])
  | kind :: rest =>
    let shown := '%' :: text.take (text.length - rest.length)
    (state.conversion ⟨flags, width.natAbs, precision⟩ kind shown, rest)

/-- Fill a format with arguments once; `fuel` bounds its length. -/
def fill : (fuel : Nat) → List Char → Printing → Printing
  | 0, _, state => state
  | _, [], state => state
  | fuel + 1, '\\' :: rest, state =>
    match escape? rest with
    | some (c, size) => fill fuel (rest.drop size) (state.add [c])
    | none => fill fuel rest (state.add ['\\'])
  | fuel + 1, '%' :: '%' :: rest, state => fill fuel rest (state.add ['%'])
  | fuel + 1, '%' :: rest, state =>
    let (state, rest) := state.directive rest
    if state.goesOn then fill fuel rest state else state
  | fuel + 1, c :: rest, state => fill fuel rest (state.add [c])

def fillAll : (rounds : Nat) → List Char → Printing → Printing
  | 0, _, state => state
  | rounds + 1, format, state =>
    let next := fill format.length format state
    if !next.goesOn || next.arguments.isEmpty || next.arguments.length = state.arguments.length then
      next
    else fillAll rounds format next

end Printing

def Printing.ofWords (words : List String) : Printing :=
  match if words.head? = some "--" then words.tail else words with
  | [] => { arguments := [], complaints := ["usage: printf format [arg ...]"], status := 2 }
  | format :: arguments =>
    .fillAll (arguments.length + 1) format.toList { arguments := arguments }

end Bindings.Workspace
