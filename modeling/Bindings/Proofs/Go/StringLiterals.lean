import Bindings.Proofs.Json.Reading
import Bindings.Proofs.Text.Unbroken
import Bindings.Text.Utf8

/-! What string literals denote.

A literal is made of parts in one way only, so its bytes are read off its parts. Digits may be out
of range, and then a literal denotes nothing. Quoted texts escape as JSON does. That has fewer
escapes, and each of them is one of a literal with the same meaning.
-/

set_option autoImplicit false

namespace Bindings.Go

open Text (Bytes encodeUtf8 escape hexDigit quote utf8)

inductive Form where
  | octal
  | byte
  | short
  | long
  deriving DecidableEq

namespace Form

def opening : Form → List Char
  | octal => ['\\']
  | byte => ['\\', 'x']
  | short => ['\\', 'u']
  | long => ['\\', 'U']

def base : Form → Nat
  | octal => 8
  | _ => 16

def count : Form → Nat
  | octal => 3
  | byte => 2
  | short => 4
  | long => 8

def isDigit (form : Form) (c : Char) : Bool := (Json.hexValue? c).any (· < form.base)

def value (form : Form) (digits : List Char) : Nat :=
  digits.foldl (fun value c => value * form.base + (Json.hexValue? c).getD 0) 0

/-- Three octal digits and two hexadecimal ones are a byte, more of them are a character. -/
def bytes? : Form → (value : Nat) → Option Bytes
  | octal, value | byte, value => if value < 256 then some [.ofNat value] else none
  | short, value | long, value =>
    if value.isValidChar then some (String.utf8EncodeChar (.ofNat value)) else none

end Form

def letters : List Char := ['a', 'b', 'f', 'n', 'r', 't', 'v', '\\', '"']

def letterByte? : Char → Option UInt8
  | 'a' => some 7
  | 'b' => some 8
  | 't' => some 9
  | 'n' => some 10
  | 'v' => some 11
  | 'f' => some 12
  | 'r' => some 13
  | '"' => some 34
  | '\\' => some 92
  | _ => none

inductive Part where
  | plain (c : Char)
  | letter (c : Char)
  | number (form : Form) (digits : List Char)
  deriving DecidableEq

namespace Part

def spelling : Part → List Char
  | plain c => [c]
  | letter c => ['\\', c]
  | number form digits => form.opening ++ digits

/-- What the grammar asks of a part. It leaves open whether a number is in range. -/
def WellFormed : Part → Prop
  | plain c => c ≠ '\n' ∧ c ≠ '"' ∧ c ≠ '\\'
  | letter c => c ∈ letters
  | number form digits => digits.length = form.count ∧ ∀ c ∈ digits, form.isDigit c

instance : DecidablePred WellFormed := fun part =>
  match part with
  | plain c => inferInstanceAs (Decidable (c ≠ '\n' ∧ c ≠ '"' ∧ c ≠ '\\'))
  | letter c => inferInstanceAs (Decidable (c ∈ letters))
  | number form digits =>
    inferInstanceAs (Decidable (digits.length = form.count ∧ ∀ c ∈ digits, form.isDigit c))

def bytes? : Part → Option Bytes
  | plain c => some (String.utf8EncodeChar c)
  | letter c => (letterByte? c).map ([·])
  | number form digits => form.bytes? (form.value digits)

def check (part : Part) : Option Part := if part.WellFormed then some part else none

def readNumber (form : Form) (text : List Char) : Option Part :=
  (number form (text.take form.count)).check

def read? : List Char → Option Part
  | [] => none
  | '\\' :: 'x' :: rest => readNumber .byte rest
  | '\\' :: 'u' :: rest => readNumber .short rest
  | '\\' :: 'U' :: rest => readNumber .long rest
  | '\\' :: c :: rest => if c ∈ letters then some (letter c) else readNumber .octal (c :: rest)
  | c :: _ => (plain c).check

theorem exists_spelling (part : Part) : ∃ c rest, part.spelling = c :: rest := by
  cases part with
  | number form digits => cases form <;> exact ⟨_, _, rfl⟩
  | _ => exact ⟨_, _, rfl⟩

theorem check_eq_some {part found : Part} :
    part.check = some found ↔ part.WellFormed ∧ part = found := by
  simp only [check, Option.ite_none_right_eq_some, Option.some.injEq]

theorem readNumber_sound (form : Form) {text : List Char} {part : Part}
    (h : readNumber form text = some part) :
    part.WellFormed ∧ part.spelling <+: form.opening ++ text := by
  obtain ⟨formed, rfl⟩ := check_eq_some.1 h
  exact ⟨formed, (List.prefix_append_right_inj _).2 (List.take_prefix _ _)⟩

theorem readNumber_append {form : Form} {digits : List Char}
    (formed : (number form digits).WellFormed) (rest : List Char) :
    readNumber form (digits ++ rest) = some (number form digits) := by
  rw [readNumber, List.take_left' formed.1]
  exact check_eq_some.2 ⟨formed, rfl⟩

/-- What is read is the beginning of the text. -/
theorem read?_sound {text : List Char} {part : Part} (h : read? text = some part) :
    part.WellFormed ∧ part.spelling <+: text := by
  revert h
  fun_cases read? text with
  | case1 => exact nofun
  | case2 rest => exact readNumber_sound .byte
  | case3 rest => exact readNumber_sound .short
  | case4 rest => exact readNumber_sound .long
  | case5 c rest _ _ _ member =>
    rintro ⟨⟩
    exact ⟨member, rest, rfl⟩
  | case6 c rest => exact readNumber_sound .octal
  | case7 c rest =>
    intro h
    obtain ⟨formed, rfl⟩ := check_eq_some.1 h
    exact ⟨formed, rest, rfl⟩

theorem read?_plain {c : Char} (unescaped : c ≠ '\\') (rest : List Char) :
    read? (c :: rest) = (plain c).check := by
  rw [read?]
  all_goals simp [unescaped]

theorem read?_escaped {c : Char} (unmarked : c ∉ ['x', 'u', 'U']) (rest : List Char) :
    read? ('\\' :: c :: rest) =
      if c ∈ letters then some (letter c) else readNumber .octal (c :: rest) := by
  simp only [List.mem_cons, List.not_mem_nil, or_false, not_or] at unmarked
  rw [read?]
  all_goals simp [unmarked]

/-- A part is read whole, whatever follows it. -/
theorem read?_append {part : Part} (formed : part.WellFormed) (rest : List Char) :
    read? (part.spelling ++ rest) = some part := by
  cases part with
  | plain c => exact (read?_plain formed.2.2 rest).trans (check_eq_some.2 ⟨formed, rfl⟩)
  | letter c =>
    have unmarked : ∀ c ∈ letters, c ∉ ['x', 'u', 'U'] := by decide
    exact (read?_escaped (unmarked c formed) rest).trans (if_pos formed)
  | number form digits =>
    cases form with
    | octal =>
      -- No octal digit is a letter that another escape begins with.
      have other : ∀ c ∈ ['x', 'u', 'U'] ++ letters, ¬ Form.octal.isDigit c := by decide
      obtain ⟨first, others, rfl⟩ := List.exists_cons_of_length_eq_add_one formed.1
      have digit : Form.octal.isDigit first := formed.2 first List.mem_cons_self
      have marked : first ∉ ['x', 'u', 'U'] := fun member =>
        other first (List.mem_append_left _ member) digit
      have lettered : first ∉ letters := fun member =>
        other first (List.mem_append_right _ member) digit
      exact ((read?_escaped marked _).trans (if_neg lettered)).trans (readNumber_append formed rest)
    | byte => exact readNumber_append formed rest
    | short => exact readNumber_append formed rest
    | long => exact readNumber_append formed rest

end Part

/-- The parts up to the closing quote, with which the text has to end. The first `skip` characters
belong to a part that has been read. -/
def partsFrom? : (skip : Nat) → (text : List Char) → Option (List Part)
  | _, [] => none
  | skip + 1, _ :: rest => partsFrom? skip rest
  | 0, c :: rest =>
    match Part.read? (c :: rest) with
    | some part => (partsFrom? part.spelling.tail.length rest).map (part :: ·)
    | none => if c = '"' ∧ rest = [] then some [] else none

def parts? (text : String) : Option (List Part) :=
  match text.toList with
  | '"' :: rest => partsFrom? 0 rest
  | _ => none

def bytesOf? : List Part → Option Bytes
  | [] => some []
  | part :: rest => do return (← part.bytes?) ++ (← bytesOf? rest)

/-- The bytes that a literal denotes. -/
def unquote? (text : String) : Option Bytes := (parts? text).bind bytesOf?

structure Spells (parts : List Part) (text : String) : Prop where
  formed : ∀ part ∈ parts, part.WellFormed
  spelled : text.toList = '"' :: (parts.flatMap Part.spelling ++ ['"'])

/-- A text is a string literal of the grammar. -/
def IsStringLiteral (text : String) : Prop := ∃ parts, Spells parts text

theorem partsFrom?_sound {skip : Nat} {text : List Char} {parts : List Part}
    (h : partsFrom? skip text = some parts) :
    (∀ part ∈ parts, part.WellFormed) ∧
      text.drop skip = parts.flatMap Part.spelling ++ ['"'] := by
  revert h
  fun_induction partsFrom? skip text generalizing parts with
  | case1 => exact nofun
  | case2 skip c rest ih => exact ih
  | case3 c rest part read ih =>
    intro h
    obtain ⟨others, later, rfl⟩ := Option.map_eq_some_iff.1 h
    obtain ⟨formed, after, spelled⟩ := Part.read?_sound read
    obtain ⟨sound, dropped⟩ := ih later
    -- What is skipped is the rest of the part, so the recursion goes on right behind it.
    obtain ⟨_, tail, begun⟩ := part.exists_spelling
    have left : rest = tail ++ after := by
      rw [begun] at spelled
      exact (List.cons.inj spelled).2.symm
    rw [begun, List.tail_cons, left, List.drop_left] at dropped
    refine ⟨List.forall_mem_cons.2 ⟨formed, sound⟩, ?_⟩
    rw [List.drop_zero, List.flatMap_cons, List.append_assoc, ← dropped, spelled]
  | case4 c rest _ closed =>
    rintro ⟨⟩
    obtain ⟨rfl, rfl⟩ := closed
    exact ⟨List.forall_mem_nil _, rfl⟩
  | case5 => exact nofun

theorem partsFrom?_append (skipped rest : List Char) :
    partsFrom? skipped.length (skipped ++ rest) = partsFrom? 0 rest := by
  induction skipped with
  | nil => rfl
  | cons c skipped ih => exact ih

theorem partsFrom?_spelling {part : Part} (formed : part.WellFormed) (rest : List Char) :
    partsFrom? 0 (part.spelling ++ rest) = (partsFrom? 0 rest).map (part :: ·) := by
  have read := Part.read?_append formed rest
  obtain ⟨c, tail, begun⟩ := part.exists_spelling
  rw [begun, List.cons_append] at read ⊢
  rw [partsFrom?, read]
  simp only [begun, List.tail_cons, partsFrom?_append]

theorem partsFrom?_complete {parts : List Part} (formed : ∀ part ∈ parts, part.WellFormed) :
    partsFrom? 0 (parts.flatMap Part.spelling ++ ['"']) = some parts := by
  induction parts with
  | nil => rfl
  | cons part rest ih =>
    obtain ⟨first, others⟩ := List.forall_mem_cons.1 formed
    rw [List.flatMap_cons, List.append_assoc, partsFrom?_spelling first, ih others, Option.map_some]

/-- A literal is made of its parts, and of no others. -/
theorem parts?_eq_some {text : String} {parts : List Part} :
    parts? text = some parts ↔ Spells parts text := by
  constructor
  · intro h
    rw [parts?] at h
    split at h
    · next rest opened =>
      obtain ⟨formed, spelled⟩ := partsFrom?_sound h
      exact ⟨formed, opened.trans (congrArg _ spelled)⟩
    · exact nomatch h
  · rintro ⟨formed, spelled⟩
    rw [parts?, spelled]
    exact partsFrom?_complete formed

example : unquote? "\"\\x41\\u65e5\\1017\\U0001F600\"" = some (utf8 "A日A7😀") := by decide +kernel

example : unquote? "\"\\uD800\"" = none := by decide +kernel

theorem hexDigits_control : ∀ n < 32,
    let part := Part.number .short ['0', '0', hexDigit (n / 16), hexDigit (n % 16)]
    part.WellFormed ∧ part.bytes? = some (String.utf8EncodeChar (.ofNat n)) := by
  decide

/-- The escape of a character is a part that denotes the character. -/
theorem exists_part_escape (c : Char) :
    ∃ part : Part, part.WellFormed ∧ part.spelling = escape c ∧
      part.bytes? = some (String.utf8EncodeChar c) := by
  fun_cases escape c with
  | case1 same =>
    subst same
    exact ⟨.letter '"', by decide, rfl, rfl⟩
  | case2 _ same =>
    subst same
    exact ⟨.letter '\\', by decide, rfl, rfl⟩
  | case3 _ _ same =>
    subst same
    exact ⟨.letter 'n', by decide, rfl, rfl⟩
  | case4 _ _ _ same =>
    subst same
    exact ⟨.letter 'r', by decide, rfl, rfl⟩
  | case5 _ _ _ _ same =>
    subst same
    exact ⟨.letter 't', by decide, rfl, rfl⟩
  | case6 _ _ _ _ _ same =>
    subst same
    exact ⟨.letter 'b', by decide, rfl, rfl⟩
  | case7 _ _ _ _ _ _ same =>
    subst same
    exact ⟨.letter 'f', by decide, rfl, rfl⟩
  | case8 _ _ _ _ _ _ _ control =>
    obtain ⟨formed, denoted⟩ := hexDigits_control c.toNat control
    rw [Char.ofNat_toNat] at denoted
    exact ⟨_, formed, rfl, denoted⟩
  | case9 quote slash newline => exact ⟨.plain c, ⟨newline, quote, slash⟩, rfl, rfl⟩

theorem exists_parts_escape (text : List Char) :
    ∃ parts : List Part, (∀ part ∈ parts, part.WellFormed) ∧
      parts.flatMap Part.spelling = text.flatMap escape ∧
      bytesOf? parts = some (encodeUtf8 text) := by
  induction text with
  | nil => exact ⟨[], List.forall_mem_nil _, rfl, rfl⟩
  | cons c text ih =>
    obtain ⟨part, formed, spelled, denoted⟩ := exists_part_escape c
    obtain ⟨parts, allFormed, allSpelled, allDenoted⟩ := ih
    refine ⟨part :: parts, List.forall_mem_cons.2 ⟨formed, allFormed⟩, ?_, ?_⟩
    · rw [List.flatMap_cons, List.flatMap_cons, spelled, allSpelled]
    · rw [bytesOf?, denoted, allDenoted]
      rfl

/-- The parts of a quoted text, one for each of its characters. -/
theorem exists_spells_quote (text : String) :
    ∃ parts, Spells parts (quote text) ∧ bytesOf? parts = some (utf8 text) := by
  obtain ⟨parts, formed, spelled, denoted⟩ := exists_parts_escape text.toList
  exact ⟨parts, ⟨formed, spelled ▸ Json.toList_quote text⟩, denoted⟩

theorem unquote?_quote (text : String) : unquote? (quote text) = some (utf8 text) := by
  obtain ⟨parts, spells, denoted⟩ := exists_spells_quote text
  rw [unquote?, parts?_eq_some.2 spells, Option.bind_some, denoted]

theorem quote_injective : Function.Injective quote := by
  intro first second same
  have denoted := congrArg unquote? same
  rw [unquote?_quote, unquote?_quote] at denoted
  exact Text.utf8_injective (Option.some.inj denoted)

/-- A quoted text is a string literal on one line that denotes the text and no other. -/
theorem quote_denotes :
    (∀ text, IsStringLiteral (quote text) ∧ unquote? (quote text) = some (utf8 text) ∧
      Unbroken (quote text)) ∧
    Function.Injective quote := by
  refine ⟨fun text => ⟨?_, unquote?_quote text, Text.unbroken_quote text⟩, quote_injective⟩
  obtain ⟨parts, spells, -⟩ := exists_spells_quote text
  exact ⟨parts, spells⟩

end Bindings.Go
