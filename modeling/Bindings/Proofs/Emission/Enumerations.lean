import Bindings.Proofs.Emission.Definitions
import Bindings.Proofs.Go.Execution

/-! What the methods of an enumeration do.

They are executed as emitted. Texts are written and read by the JSON package of the standard
library, which is a parameter here, with what the methods rely on.
-/

set_option autoImplicit false

namespace Bindings

namespace Emission

open Go (Body Caller Clause Decl Expr Function Library Memory Program Statement Value)
open Text (Bytes utf8)

/-- How texts are written as JSON and read from it. Reading is told what the variable holds, and
fails if there is no text. -/
structure JsonCodec where
  marshal : Bytes → Bytes
  unmarshal : (data old : Bytes) → Option Bytes

/-- A text that has been written is read again, and null leaves a variable as it is. -/
structure JsonCodec.Lawful (json : JsonCodec) : Prop where
  unmarshal_marshal : ∀ (text : String) (old : Bytes),
    json.unmarshal (json.marshal (utf8 text)) old = some (utf8 text)
  unmarshal_null : ∀ old : Bytes, json.unmarshal (utf8 "null") old = some old

/-- The functions of the standard library that an enumeration uses. Texts are of the predeclared
type: a named one could have its own way to be written and read. -/
def JsonCodec.library (json : JsonCodec) : Library := fun package function arguments memory =>
  if package = Imports.json ∧ function = "Marshal" then
    match arguments with
    | [.text "string" content] => some ([.bytes (json.marshal content), .nil], memory)
    | _ => none
  else if package = Imports.json ∧ function = "Unmarshal" then
    match arguments with
    | [.bytes data, .pointer address] =>
      match memory[address]? with
      | some (.text "string" old) =>
        match json.unmarshal data old with
        | some content => some ([.nil], memory.set address (.text "string" content))
        | none => some ([.error package function], memory)
      | _ => none
    | _ => none
  else if package = Imports.fmt ∧ function = "Errorf" then
    some ([.error package function], memory)
  else none

namespace JsonCodec
variable (json : JsonCodec) (memory : Memory)

@[simp] theorem library_marshal (content : Bytes) :
    json.library Imports.json "Marshal" [.text "string" content] memory =
      some ([.bytes (json.marshal content), .nil], memory) := by
  simp [library]

@[simp] theorem library_errorf (arguments : List Value) :
    json.library Imports.fmt "Errorf" arguments memory =
      some ([.error Imports.fmt "Errorf"], memory) := by
  simp [library, Imports.fmt, Imports.json, Imports.standard]

/-- A text that can be read takes the place of the one in the variable. -/
theorem library_unmarshal {data old : Bytes} {address : Nat}
    (found : memory[address]? = some (.text "string" old)) :
    json.library Imports.json "Unmarshal" [.bytes data, .pointer address] memory =
      match json.unmarshal data old with
      | some content => some ([.nil], memory.set address (.text "string" content))
      | none => some ([.error Imports.json "Unmarshal"], memory) := by
  simp [library, found]

end JsonCodec

/-- No text is written as null: reading would not give it back. -/
theorem JsonCodec.Lawful.marshal_ne_null {json : JsonCodec} (lawful : json.Lawful)
    (text : String) : json.marshal (utf8 text) ≠ utf8 "null" := by
  intro null
  -- Reading that text would then leave every variable as it is.
  have kept (old : Bytes) : old = utf8 text := by
    have read := lawful.unmarshal_marshal text old
    rw [null, lawful.unmarshal_null] at read
    exact Option.some.inj read
  have both : utf8 "" = utf8 "null" := (kept (utf8 "")).trans (kept (utf8 "null")).symm
  exact absurd both (by decide)

def valid? (program : Program) (depth : Nat) (ident : String) (content : Bytes) : Option Bool := do
  let method ← program.method? ident "Valid"
  match ← program.call depth method [.text ident content] [] with
  | ([.bool answer], _) => some answer
  | _ => none

def encode? (program : Program) (depth : Nat) (ident : String) (content : Bytes) :
    Option Bytes := do
  let method ← program.method? ident "MarshalJSON"
  match ← program.call depth method [.text ident content] [] with
  | ([.bytes data, .nil], _) => some data
  | _ => none

/-- What `UnmarshalJSON` returns, and what a variable that held `old` holds afterwards. -/
def decode? (program : Program) (depth : Nat) (ident : String) (data old : Bytes) :
    Option (Value × Value) := do
  let method ← program.method? ident "UnmarshalJSON"
  match ← program.call depth method [.pointer 0, .bytes data] [.text ident old] with
  | ([result], held :: _) => some (result, held)
  | _ => none

/-- A program that declares an enumeration, and nothing else under the names its methods use. -/
structure DeclaresEnum (program : Program) (ident : String) (literals : List String) : Prop where
  type : ∃ doc, program.declaring? ident = some (.type doc ident (.named "string"))
  constants : ∃ doc, program.declaring? (ident ++ "NotSet") =
    some (.constants doc (some (.named ident)) (enumConstants ident literals))
  methods : program.methodsOf ident =
    (enumDecls [] ident literals).filterMap (·.methodOf? ident)
  predeclared : ∀ name ∈ ["string", "nil", "true", "false"], program.declaring? name = none
  apart : ident ≠ "e" ∧ ident ≠ "data" ∧ ident ≠ "s"

section Execution
variable {program : Program}

theorem evalAll_texts {call : Caller} {scope : Go.Scope} {memory : Memory} (literals : List String) :
    Expr.evalAll program call scope (literals.map .text) memory =
      some (literals.map fun literal => .text "string" (utf8 literal), memory) := by
  induction literals with
  | nil => rfl
  | cons literal literals ih => simp [Expr.evalAll, Expr.eval, ih]

/-- Decoding runs the statements of `UnmarshalJSON`. -/
theorem decode?_of_method {ident : String} {f : Function} {self : Go.TypeExpr}
    {body : List Statement} (found : program.method? ident "UnmarshalJSON" = some f)
    (inputs : f.inputs = [⟨some "e", self⟩, dataParam]) (block : f.body = .block body)
    (depth : Nat) (data old : Bytes) :
    decode? program (depth + 1) ident data old =
      (Statement.execAll program (program.call depth) [("e", 1), ("data", 2)] body
        [.text ident old, .pointer 0, .bytes data]).bind fun
          | (.leave [result], held :: _) => some (result, held)
          | _ => none := by
  simp only [decode?, found, Option.bind_eq_bind, Option.bind_some, Program.call_succ,
    Function.exec, inputs, block]
  cases ran : Statement.execAll program (program.call depth) [("e", 1), ("data", 2)] body
      [.text ident old, .pointer 0, .bytes data] with
  | none => simp [ran, dataParam]
  | some outcome =>
    obtain ⟨_ | values, held⟩ := outcome
    · simp [ran, dataParam]
    · rcases values with _ | ⟨_, _ | _⟩ <;> cases held <;> simp [ran, dataParam]

end Execution

namespace DeclaresEnum
variable {program : Program} {ident : String} {literals : List String}
  (h : DeclaresEnum program ident literals)
include h

/-- The methods of the enumeration are found by their names. -/
theorem method?_name {f : Function} (member : .function f ∈ enumDecls [] ident literals) :
    program.method? ident f.name = some f := by
  rw [Program.method?, h.methods]
  simp only [enumDecls, enumValid, enumString, enumMarshal, enumUnmarshal, method, List.mem_cons,
    List.not_mem_nil, or_false, reduceCtorEq, false_or, Decl.function.injEq] at member ⊢
  rcases member with rfl | rfl | rfl | rfl <;> simp [Function.owner?]

theorem value?_true : program.value? "true" = some (.bool true) := by
  simp [Program.value?, h.predeclared "true" (by simp), Go.predeclaredValue?]

theorem value?_false : program.value? "false" = some (.bool false) := by
  simp [Program.value?, h.predeclared "false" (by simp), Go.predeclaredValue?]

theorem value?_nil : program.value? "nil" = some .nil := by
  simp [Program.value?, h.predeclared "nil" (by simp), Go.predeclaredValue?]

theorem value?_unset : program.value? (ident ++ "NotSet") = some (.text ident []) := by
  obtain ⟨doc, found⟩ := h.constants
  have empty : utf8 "" = [] := rfl
  simp [Program.value?, found, enumConstants, empty]

theorem isText_string : program.isText "string" = true := by
  simp [Program.isText, h.predeclared "string" (by simp)]

theorem isText_ident : program.isText ident = true := by
  obtain ⟨doc, found⟩ := h.type
  simp [Program.isText, found, h.predeclared "string" (by simp)]

/-- The literals are valid, and nothing else. -/
theorem call_valid (depth : Nat) (content : Bytes) (memory : Memory) :
    ∃ f, program.method? ident "Valid" = some f ∧ f.isByValue = true ∧
      program.call (depth + 1) f [.text ident content] memory =
        some ([.bool (decide (content ∈ literals.map utf8))], memory ++ [.text ident content]) := by
  refine ⟨_, h.method?_name (.tail _ (.tail _ (.head _))), rfl, ?_⟩
  rw [Program.call_succ]
  -- The switch compares with the value on the left, a membership has it on the right.
  by_cases member : ∃ literal ∈ literals, utf8 literal = content
  · have equal : ∃ literal ∈ literals, content = utf8 literal := by
      simpa only [eq_comm] using member
    simp [evalAll_texts, h.value?_true, member, equal]
  · have other : ¬ ∃ literal ∈ literals, content = utf8 literal := by
      simpa only [eq_comm] using member
    simp [evalAll_texts, h.value?_false, member, other]

omit h in
theorem unset_ne {name : String} (short : name.length < 6) : ident ++ "NotSet" ≠ name := by
  rintro rfl
  have length : "NotSet".length = 6 := rfl
  rw [String.length_append] at short
  omega

theorem convert?_string (content : Bytes) :
    program.convert? "string" (.text ident content) = some (.text "string" content) ∧
      program.convert? "string" (.bytes content) = some (.text "string" content) := by
  simp [Program.convert?, h.isText_string]

theorem convert?_ident (content : Bytes) :
    program.convert? ident (.text "string" content) = some (.text ident content) := by
  simp [Program.convert?, h.isText_ident]

theorem valid?_eq (depth : Nat) (content : Bytes) :
    valid? program (depth + 1) ident content = some (decide (content ∈ literals.map utf8)) := by
  obtain ⟨f, found, -, called⟩ := h.call_valid depth content []
  simp [valid?, found, called]

section Decoding
variable {call : Caller} {rest : List Statement} {data old content : Bytes}

/-- Null leaves `UnmarshalJSON` at once, with the unset value in place. -/
theorem execAll_null :
    Statement.execAll program call [("e", 1), ("data", 2)]
        (.when dataIsNull [.set (.unary "*" (.ident "e")) (.ident (ident ++ "NotSet")),
          .leave [.ident "nil"]] :: rest)
        [.text ident old, .pointer 0, .bytes (utf8 "null")] =
      some (.leave [.nil], [.text ident [], .pointer 0, .bytes (utf8 "null")]) := by
  have e : ident ++ "NotSet" ≠ "e" := unset_ne (by decide)
  have data : ident ++ "NotSet" ≠ "data" := unset_ne (by decide)
  simp [dataIsNull, nullLiteral, h.value?_nil, h.value?_unset, e, data, h.convert?_string]

/-- Data other than null passes the guard of `UnmarshalJSON`, and an empty text is declared. -/
theorem execAll_unlessNull (other : data ≠ utf8 "null") (body : List Statement) :
    Statement.execAll program call [("e", 1), ("data", 2)]
        (.when dataIsNull body :: .declare "s" (.named "string") :: rest)
        [.text ident old, .pointer 0, .bytes data] =
      Statement.execAll program call [("s", 3), ("e", 1), ("data", 2)] rest
        [.text ident old, .pointer 0, .bytes data, .text "string" []] := by
  have zero : program.zero? (.named "string") = some (.text "string" []) := by
    simp [Program.zero?, h.isText_string]
  simp [dataIsNull, nullLiteral, h.convert?_string, other, zero]

/-- The text of the data is read, unless there is none. -/
theorem execAll_read {json : JsonCodec} (linked : program.library = json.library) :
    Statement.execAll program call [("s", 3), ("e", 1), ("data", 2)]
        (.cond (some (unmarshalInto "s")) (.isNotNil (.ident "err")) [.leave [.ident "err"]] [] ::
          rest)
        [.text ident old, .pointer 0, .bytes data, .text "string" []] =
      match json.unmarshal data [] with
      | none => some (.leave [.error Imports.json "Unmarshal"], [.text ident old, .pointer 0,
          .bytes data, .text "string" [], .error Imports.json "Unmarshal"])
      | some content => Statement.execAll program call [("s", 3), ("e", 1), ("data", 2)] rest
          [.text ident old, .pointer 0, .bytes data, .text "string" content, .nil] := by
  cases read : json.unmarshal data [] <;>
    simp [unmarshalInto, h.value?_nil, linked, JsonCodec.library_unmarshal, read]

/-- A text that has been read is accepted if it is a literal. The memory then ends with the value,
for the variable and for `Valid`. -/
theorem execAll_judge {json : JsonCodec} (linked : program.library = json.library) (depth : Nat)
    (complaint : String) :
    Statement.execAll program (program.call (depth + 1)) [("s", 3), ("e", 1), ("data", 2)]
        (.define "v" (.call (.ident ident) [.ident "s"]) ::
          .when (.unary "!" (.invoke (.ident "v") "Valid" []))
            [.leave [.call (.imported Imports.fmt "Errorf") [.literal complaint, .ident "s"]]] ::
          rest)
        [.text ident old, .pointer 0, .bytes data, .text "string" content, .nil] =
      let memory := [.text ident old, .pointer 0, .bytes data, .text "string" content, .nil,
        .text ident content, .text ident content]
      if content ∈ literals.map utf8 then
        Statement.execAll program (program.call (depth + 1))
          [("v", 5), ("s", 3), ("e", 1), ("data", 2)] rest memory
      else some (.leave [.error Imports.fmt "Errorf"], memory) := by
  obtain ⟨valid, known, byValue, judged⟩ := h.call_valid depth content
    [.text ident old, .pointer 0, .bytes data, .text "string" content, .nil, .text ident content]
  by_cases member : content ∈ literals.map utf8 <;>
    simp [h.apart, h.convert?_ident, known, byValue, judged, member, linked]

end Decoding

/-- Null is decoded to the unset value. -/
theorem decode?_null (depth : Nat) (old : Bytes) :
    decode? program (depth + 1) ident (utf8 "null") old = some (.nil, .text ident []) := by
  have found := h.method?_name (.tail _ (.tail _ (.tail _ (.tail _ (.tail _ (.head _))))))
  rw [decode?_of_method found rfl rfl, h.execAll_null]
  rfl

variable {json : JsonCodec} (linked : program.library = json.library)
include linked

/-- The unset value is encoded as null, every other one as a text. -/
theorem encode?_eq (depth : Nat) (content : Bytes) :
    encode? program (depth + 1) ident content =
      some (if content = [] then utf8 "null" else json.marshal content) := by
  have found := h.method?_name (.tail _ (.tail _ (.tail _ (.tail _ (.head _)))))
  have e : ident ++ "NotSet" ≠ "e" := unset_ne (by decide)
  by_cases empty : content = []
  · simp [encode?, found, Program.call_succ, empty, h.value?_nil, h.value?_unset, e, returnNull,
      nullLiteral, Go.TypeExpr.bytes]
  · simp [encode?, found, Program.call_succ, empty, h.value?_unset, e, h.convert?_string, linked]

/-- Data other than null is decoded to the literal that can be read from it; where there is none,
the variable stays as it is. -/
theorem decode?_eq (depth : Nat) {data : Bytes} (other : data ≠ utf8 "null") (old : Bytes) :
    decode? program (depth + 2) ident data old = some (
      match json.unmarshal data [] with
      | none => (.error Imports.json "Unmarshal", .text ident old)
      | some content =>
        if content ∈ literals.map utf8 then (.nil, .text ident content)
        else (.error Imports.fmt "Errorf", .text ident old)) := by
  have found := h.method?_name (.tail _ (.tail _ (.tail _ (.tail _ (.tail _ (.head _))))))
  -- Statement by statement: past the guard, then the text is read and judged.
  rw [decode?_of_method found rfl rfl, h.execAll_unlessNull other, h.execAll_read linked]
  cases json.unmarshal data [] with
  | none => rfl
  | some content =>
    dsimp only
    rw [h.execAll_judge linked]
    by_cases member : content ∈ literals.map utf8
    · simp [member, h.value?_nil]
    · simp [member]

end DeclaresEnum

/-- An enumeration that encodes its literals and nothing else, whatever else its package declares.
Calls need not be nested deeper than `UnmarshalJSON` calls `Valid`. -/
structure EncodesEnum (program : Program) (json : JsonCodec) (ident : String)
    (literals : List String) : Prop where
  constants : ∃ doc entries, program.declaring? (ident ++ "NotSet") =
      some (.constants doc (some (.named ident)) entries) ∧
    entries = ⟨ident ++ "NotSet", ""⟩ ::
      literals.map (fun value => ⟨ident ++ Name.literal value, value⟩) ∧
    (entries.map (·.name)).Nodup ∧ (entries.map (·.value)).Nodup
  filled : "" ∉ literals
  cases : ∃ f values, program.method? ident "Valid" = some f ∧
    f.body = .block [.switch (.ident "e")
      [.mk values [.leave [.ident "true"]], .default [.leave [.ident "false"]]]] ∧
    values.map (fun value => Go.Piece.join (value.print 1)) = literals.map Text.quote
  valid : ∀ depth content, valid? program (depth + 1) ident content =
    some (decide (∃ literal ∈ literals, content = utf8 literal))
  unset_invalid : ∀ depth, valid? program (depth + 1) ident (utf8 "") = some false
  /-- What is encoded is decoded again. -/
  restores : ∀ depth old, ∀ value ∈ "" :: literals, ∃ data,
    encode? program (depth + 2) ident (utf8 value) = some data ∧
      decode? program (depth + 2) ident data old = some (.nil, .text ident (utf8 value))
  null : ∀ depth old, decode? program (depth + 2) ident (utf8 "null") old =
    some (.nil, .text ident (utf8 ""))
  /-- Data that is neither null nor read as a literal is an error, and changes nothing. -/
  rejects : ∀ depth old data, data ≠ utf8 "null" →
    (∀ literal ∈ literals, json.unmarshal data [] ≠ some (utf8 literal)) →
      ∃ package function, decode? program (depth + 2) ident data old =
        some (.error package function, .text ident old)
  rejects_text : ∀ depth old text, text ∉ literals →
    ∃ package function, decode? program (depth + 2) ident (json.marshal (utf8 text)) old =
      some (.error package function, .text ident old)

namespace DeclaresEnum
variable {program : Program} {ident : String} {literals : List String}
  (h : DeclaresEnum program ident literals) {json : JsonCodec}
  (linked : program.library = json.library)
include h linked

theorem decode?_rejected (depth : Nat) (old : Bytes) {data : Bytes} (other : data ≠ utf8 "null")
    (unread : ∀ literal ∈ literals, json.unmarshal data [] ≠ some (utf8 literal)) :
    ∃ package function, decode? program (depth + 2) ident data old =
      some (.error package function, .text ident old) := by
  rw [h.decode?_eq linked depth other]
  cases read : json.unmarshal data [] with
  | none => exact ⟨_, _, rfl⟩
  | some content =>
    have unknown : content ∉ literals.map utf8 := by
      intro member
      obtain ⟨literal, inside, rfl⟩ := List.mem_map.1 member
      exact unread literal inside read
    exact ⟨_, _, congrArg some (if_neg unknown)⟩

theorem decode?_encode? (lawful : json.Lawful) (filled : "" ∉ literals) (depth : Nat) (old : Bytes)
    {value : String} (member : value ∈ "" :: literals) : ∃ data,
      encode? program (depth + 2) ident (utf8 value) = some data ∧
        decode? program (depth + 2) ident data old = some (.nil, .text ident (utf8 value)) := by
  refine ⟨_, h.encode?_eq linked (depth + 1) (utf8 value), ?_⟩
  rcases List.mem_cons.1 member with rfl | literal
  · exact h.decode?_null (depth + 1) old
  · have given : utf8 value ≠ [] := by
      intro empty
      have same : value = "" := Text.utf8_injective (empty : utf8 value = utf8 "")
      exact filled (same ▸ literal)
    rw [if_neg given, h.decode?_eq linked depth (lawful.marshal_ne_null value),
      lawful.unmarshal_marshal]
    simp [List.mem_map_of_mem literal]

theorem encodes (lawful : json.Lawful) (filled : "" ∉ literals)
    (distinct : ((enumConstants ident literals).map (·.name)).Nodup) :
    EncodesEnum program json ident literals where
  constants := by
    obtain ⟨doc, found⟩ := h.constants
    -- Values are not compared by anything; equal ones would have given equal names.
    have values : (literals.map fun value => ident ++ Name.literal value).Nodup := by
      rw [enumConstants, List.map_cons, List.map_map] at distinct
      exact (List.nodup_cons.1 distinct).2
    refine ⟨doc, _, found, rfl, distinct, ?_⟩
    rw [enumConstants, List.map_cons, List.map_map, List.nodup_cons]
    exact ⟨by simpa using filled, by simpa [Function.comp_def] using values.of_map⟩
  filled := filled
  cases := by
    refine ⟨_, _, h.method?_name (.tail _ (.tail _ (.head _))), rfl, ?_⟩
    rw [List.map_map]
    refine List.map_congr_left fun literal _ => ?_
    simp [Expr.print, Go.Piece.join, Go.Piece.text]
  valid depth content := by
    rw [h.valid?_eq]
    simp [eq_comm]
  unset_invalid depth := by
    rw [h.valid?_eq]
    simpa [List.mem_map_of_injective Text.utf8_injective] using filled
  restores depth old _ member := h.decode?_encode? linked lawful filled depth old member
  null depth := h.decode?_null (depth + 1)
  rejects depth old _ := h.decode?_rejected linked depth old
  rejects_text depth old text unknown := by
    refine h.decode?_rejected linked depth old (lawful.marshal_ne_null text) ?_
    intro literal member read
    rw [lawful.unmarshal_marshal] at read
    exact unknown (Text.utf8_injective (Option.some.inj read) ▸ member)

end DeclaresEnum

end Emission

end Bindings
