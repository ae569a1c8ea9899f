import Bindings.Workspace.Numeral
import Bindings.Workspace.Process

/-! Questions about files, texts and numbers.

The words of a question are read from left to right; what has been read last is named in a
complaint. Two readers differ in what they complain of: one reads any expression, the other
goes by the number of words as long as there are at most four.
-/

set_option autoImplicit false

namespace Bindings.Workspace

namespace Question

abbrev Files := String → Option Entry

def unaryOperators : List String :=
  ["-n", "-z", "-b", "-c", "-d", "-e", "-f", "-g", "-h", "-k", "-p", "-r", "-s", "-t", "-u", "-w",
   "-x", "-G", "-L", "-O", "-S"]

def isUnary (word : String) : Bool := unaryOperators.contains word

def askOne (files : Files) (operator operand : String) : Bool :=
  let entry := files operand
  match operator with
  | "-n" => operand ≠ ""
  | "-z" => operand = ""
  | "-d" => entry = some .directory
  | "-c" => entry = some .sink
  | "-f" =>
    match entry with
    | some (.file _ _) => true
    | some (.utility _) => true
    | _ => false
  | "-s" =>
    match entry with
    | some (.file content _) => !content.isEmpty
    | some .sink => false
    | other => other.isSome
  | "-x" =>
    match entry with
    | some (.file _ executable) => executable
    | some .sink => false
    | other => other.isSome
  | operator => ["-e", "-r", "-w", "-G", "-O"].contains operator && entry.isSome

def number? (word : String) : Option Int :=
  let numeral := Numeral.ofText 10 word.toList
  if numeral.rest.length < word.length && numeral.rest.all isSpace && isWord numeral.value then
    some numeral.value
  else none

def compareNumbers (first second : String) (holds : Int → Int → Bool) : Except String Bool :=
  match number? first, number? second with
  | some a, some b => .ok (holds a b)
  | none, _ => .error first
  | _, none => .error second

def binary? : String → Option (String → String → Except String Bool)
  | "=" => some fun a b => .ok (a = b)
  | "!=" => some fun a b => .ok (a ≠ b)
  | "<" => some fun a b => .ok (a < b)
  | ">" => some fun a b => .ok (b < a)
  | "-eq" => some fun a b => compareNumbers a b (· == ·)
  | "-ne" => some fun a b => compareNumbers a b (· != ·)
  | "-lt" => some fun a b => compareNumbers a b (· < ·)
  | "-le" => some fun a b => compareNumbers a b (· ≤ ·)
  | "-gt" => some fun a b => compareNumbers a b (· > ·)
  | "-ge" => some fun a b => compareNumbers a b (· ≥ ·)
  | "-nt" => some fun _ _ => .ok false
  | "-ot" => some fun _ _ => .ok false
  | "-ef" => some fun a b => .ok (a = b)
  | _ => none

/-! Any expression -/

/-- Whether a unary operator at the head is an operand instead. -/
def isOperand : List String → Bool
  | [_] => true
  | [_, _] => false
  | _ :: next :: _ => (binary? next).isSome
  | [] => false

/-- An answer, the words that are left and the one that was read last. -/
structure Answer where
  value : Bool
  rest : List String
  last : String := ""

inductive Level where
  | either
  | both
  | negation
  | primary

/-- Read an expression; `fuel` bounds its depth. -/
def read (files : Files) : (fuel : Nat) → Level → List String → Except String Answer
  | 0, _, _ => .error "out of memory"
  | fuel + 1, .either, words => do
    let first ← read files fuel .both words
    match first.rest with
    | "-o" :: rest =>
      let second ← read files fuel .either rest
      return { second with value := first.value || second.value }
    | _ => return first
  | fuel + 1, .both, words => do
    let first ← read files fuel .negation words
    match first.rest with
    | "-a" :: rest =>
      let second ← read files fuel .both rest
      return { second with value := first.value && second.value }
    | _ => return first
  | fuel + 1, .negation, "!" :: rest => do
    let answer ← read files fuel .negation rest
    return { answer with value := !answer.value }
  | fuel + 1, .negation, words => read files fuel .primary words
  | _ + 1, .primary, [] => .ok ⟨false, [], ""⟩
  | fuel + 1, .primary, "(" :: next :: rest => do
    if next = ")" then return ⟨false, rest, next⟩
    let answer ← read files fuel .either (next :: rest)
    match answer.rest with
    | ")" :: rest => return { answer with rest := rest, last := ")" }
    | _ => .error "closing paren expected"
  | _ + 1, .primary, word :: rest =>
    if isUnary word && !isOperand (word :: rest) then
      match rest with
      | operand :: rest => .ok ⟨askOne files word operand, rest, operand⟩
      | [] => .error (word ++ ": argument expected")
    else
      match rest with
      | operator :: rest =>
        match binary? operator, rest with
        | some ask, second :: rest => do
          let value ← (ask word second).mapError ("Illegal number: " ++ ·)
          return ⟨value, rest, second⟩
        | some _, [] => .error (operator ++ ": argument expected")
        | none, _ => .ok ⟨word ≠ "", operator :: rest, word⟩
      | [] => .ok ⟨word ≠ "", [], word⟩

def readWhole (files : Files) (words : List String) : Except String Bool := do
  let answer ← read files (4 * words.length + 4) .either words
  if answer.rest.isEmpty then return answer.value
  else .error (answer.last ++ ": unexpected operator")

/-- The answer to the words of a question. Of three or four words the first and the last may be
brackets, or the first a negation. -/
def answer (files : Files) : List String → Except String Bool
  | [] => .ok false
  | [a, b, c] =>
    if (binary? b).isSome then readBinary a b c
    else if a = "(" && c = ")" then readWhole files [b]
    else if a = "!" then (answerShort [b, c]).map not
    else readWhole files [a, b, c]
  | [a, b, c, d] =>
    if a = "(" && d = ")" then readWhole files [b, c]
    else if a = "!" then
      (if (binary? c).isSome then readBinary b c d
        else if b = "(" && d = ")" then readWhole files [c]
        else if b = "!" then (answerShort [c, d]).map not
        else readWhole files [b, c, d]).map not
    else readWhole files [a, b, c, d]
  | words => readWhole files words
where
  answerShort (words : List String) : Except String Bool := readWhole files words
  /-- Three words of which the second is a binary operator; the first is an operand. -/
  readBinary (a b c : String) : Except String Bool :=
    match binary? b with
    | some ask => (ask a c).mapError ("Illegal number: " ++ ·)
    | none => readWhole files [a, b, c]

/-! By the number of words -/

def quoted (word : String) : String := "'" ++ word ++ "'"

def strictBinary (first operator second : String) : Option (Except String Bool) :=
  let ask? := if operator = "==" then binary? "=" else binary? operator
  ask?.map fun ask => (ask first second).mapError fun word => "invalid integer " ++ quoted word

def strictTwo (files : Files) (first second : String) : Except String Bool :=
  if first = "!" then .ok (second = "")
  else if isUnary first then .ok (askOne files first second)
  else if first.startsWith "-" && first.length = 2 then
    .error (quoted first ++ ": unary operator expected")
  else .error ("missing argument after " ++ quoted second)

def strictThree (files : Files) (a b c : String) : Except String Bool :=
  match strictBinary a b c with
  | some answer => answer
  | none =>
    if a = "!" then (strictTwo files b c).map not
    else if a = "(" && c = ")" then .ok (b ≠ "")
    else if b = "-a" then .ok (a ≠ "" && c ≠ "")
    else if b = "-o" then .ok (a ≠ "" || c ≠ "")
    else .error (quoted b ++ ": binary operator expected")

def strictTerms (files : Files) : (fuel : Nat) → Level → List String → Except String Answer
  | 0, _, _ => .error "out of memory"
  | fuel + 1, .either, words => do
    let first ← strictTerms files fuel .both words
    match first.rest with
    | "-o" :: rest =>
      let second ← strictTerms files fuel .either rest
      return { second with value := first.value || second.value }
    | _ => return first
  | fuel + 1, .both, words => do
    let first ← strictTerms files fuel .primary words
    match first.rest with
    | "-a" :: rest =>
      let second ← strictTerms files fuel .both rest
      return { second with value := first.value && second.value }
    | _ => return first
  | fuel + 1, .negation, words => strictTerms files fuel .primary words
  | _ + 1, .primary, [] => .error "argument expected"
  | fuel + 1, .primary, "!" :: rest => do
    let answer ← strictTerms files fuel .primary rest
    return { answer with value := !answer.value }
  | fuel + 1, .primary, "(" :: next :: rest => do
    let answer ← strictTerms files fuel .either (next :: rest)
    match answer.rest with
    | ")" :: rest => return { answer with rest := rest }
    | found :: _ => .error ("')' expected, found " ++ found)
    | [] => .error "')' expected"
  | _ + 1, .primary, a :: b :: c :: rest =>
    match strictBinary a b c with
    | some answer => answer.map fun value => ⟨value, rest, c⟩
    | none =>
      if isUnary a then .ok ⟨askOne files a b, c :: rest, b⟩
      else .ok ⟨a ≠ "", b :: c :: rest, a⟩
  | _ + 1, .primary, [a, b] =>
    if isUnary a then .ok ⟨askOne files a b, [], b⟩ else .ok ⟨a ≠ "", [b], a⟩
  | _ + 1, .primary, [a] => .ok ⟨a ≠ "", [], a⟩

def strictAnswer (files : Files) : List String → Except String Bool
  | [] => .ok false
  | [a] => .ok (a ≠ "")
  | [a, b] => strictTwo files a b
  | [a, b, c] => strictThree files a b c
  | words =>
    match words with
    | ["!", b, c, d] => (strictThree files b c d).map not
    | ["(", b, c, ")"] => strictTwo files b c
    | words => do
      let answer ← strictTerms files (4 * words.length + 4) .either words
      match answer.rest with
      | [] => return answer.value
      | word :: _ => .error ("extra argument " ++ quoted word)

end Question

/-- Answer by the status: 0 is yes, 1 is no. In brackets the last argument closes. -/
def test (call : Call) (system : System) : ExitStatus × System :=
  let inBrackets := call.name = "[" || call.name.endsWith "/["
  if inBrackets && call.arguments.getLast? ≠ some "]" then
    (.code 2, call.complain "missing ']'" system)
  else
    let words := if inBrackets then call.arguments.dropLast else call.arguments
    match Question.strictAnswer (call.entryOf? system) words with
    | .ok answer => (.code (if answer then 0 else 1), system)
    | .error message => (.code 2, call.complain message system)

end Bindings.Workspace
