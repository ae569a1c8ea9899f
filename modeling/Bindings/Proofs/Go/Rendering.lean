import Bindings.Proofs.Go.Foreign

/-! The text of a source file whose declarations are printed from their parts.

Every printed declaration begins with a visible character and ends its line. Nothing is cut off or
added when such declarations are put below the heading of a file.
-/

set_option autoImplicit false

namespace Bindings.Go

open Unicode (isBlank)

def chars (pieces : List Piece) : List Char := pieces.flatMap (·.text.toList)

theorem toList_join (pieces : List Piece) : (Piece.join pieces).toList = chars pieces := by
  rw [Piece.join, String.toList_join, List.flatMap_map, chars]

@[simp] theorem chars_nil : chars [] = [] := rfl

@[simp] theorem chars_append (first second : List Piece) :
    chars (first ++ second) = chars first ++ chars second := List.flatMap_append

@[simp] theorem chars_code (text : String) (rest : List Piece) :
    chars (.code text :: rest) = text.toList ++ chars rest := rfl

def commentLine (indent : Nat) (text : String) : List Char :=
  (tabs indent ++ if text.isEmpty then "//" else "// " ++ text).toList

@[simp] theorem chars_comment (indent : Nat) (text : String) (rest : List Piece) :
    chars (.comment indent text :: rest) = commentLine indent text ++ ['\n'] ++ chars rest := by
  simp [chars, Piece.text, commentLine, String.append_assoc]

/-- A text of whole lines of which the first one begins with a visible character. -/
def Framed (text : List Char) : Prop :=
  ∃ first middle, isBlank first = false ∧ text = first :: middle ++ ['\n']

namespace Framed

theorem of_head (start : List Char) (first : Char) (visible : isBlank first = false)
    (begun : start.head? = some first) (rest : List Char) : Framed (start ++ rest ++ ['\n']) := by
  obtain ⟨tail, rfl⟩ := List.head?_eq_some_iff.1 begun
  exact ⟨first, tail ++ rest, visible, by simp⟩

theorem append {first second : List Char} (h : Framed first) (rest : Framed second) :
    Framed (first ++ second) := by
  obtain ⟨c, middle, visible, rfl⟩ := h
  obtain ⟨d, more, -, rfl⟩ := rest
  exact ⟨c, middle ++ '\n' :: d :: more, visible, by simp⟩

theorem newline {text : List Char} (h : Framed text) : Framed (text ++ ['\n']) := by
  obtain ⟨c, middle, visible, rfl⟩ := h
  exact ⟨c, middle ++ ['\n'], visible, by simp⟩

theorem printDoc {text : List Char} (h : Framed text) (doc : List String) :
    Framed (chars (Go.printDoc 0 doc) ++ text) := by
  induction doc with
  | nil => exact h
  | cons line rest ih =>
    have slash : (commentLine 0 line).head? = some '/' := by
      rw [commentLine]
      split
      · rfl
      · rw [String.toList_append, String.toList_append]
        rfl
    have first : Framed (commentLine 0 line ++ ['\n']) := by
      simpa using of_head _ '/' (by decide) slash []
    rw [Go.printDoc, List.map_cons, chars_comment, List.append_assoc]
    exact first.append ih

end Framed

/-- The body of a function ends its line. -/
theorem Body.exists_line (body : Body) : ∃ text, chars body.print = text ++ ['\n'] := by
  cases body with
  | block statements =>
    refine ⟨" \x7b\n".toList ++ (chars (Statement.printAll 1 statements) ++ ['\x7d']), ?_⟩
    simp [Body.print]
  | brief value =>
    refine ⟨" \x7b return ".toList ++ (chars (value.print 0) ++ [' ', '\x7d']), ?_⟩
    simp [Body.print]

def Function.opening (receiver : Option Param) (name : String) : List Piece :=
  .code "func " :: (receiver.elim [] (fun receiver => printParams [receiver] ++ [.code " "]) ++
    [.code name, .code "("])

theorem Function.exists_line (receiver : Option Param) (name : String) (results : List Param)
    (body : Body) : ∃ closing, ∀ doc params,
      chars (Function.print ⟨doc, receiver, name, ⟨params, results⟩, body⟩) =
        chars (printDoc 0 doc) ++ (chars (Function.opening receiver name) ++
          chars (separate ", " (params.map Param.print)) ++ closing ++ ['\n']) := by
  obtain ⟨text, ended⟩ := body.exists_line
  refine ⟨")".toList ++ chars (printResults results) ++ text, fun doc params => ?_⟩
  cases receiver <;>
    simp [Function.print, Signature.print, printParams, ended, Function.opening, List.append_assoc]

theorem Decl.framed_print {decl : Decl} (printed : decl.isFixed = false) :
    Framed (chars decl.print) := by
  cases decl with
  | type doc name type =>
    have line := Framed.of_head (("type " ++ name ++ " ").toList) 't' (by decide)
      (by simp [String.append_assoc]) (chars type.print)
    simpa [Decl.print, List.append_assoc] using line.printDoc doc
  | synonym doc name target =>
    have line := Framed.of_head (("type " ++ name ++ " = ").toList) 't' (by decide)
      (by simp [String.append_assoc]) (chars target.print)
    simpa [Decl.print, List.append_assoc] using line.printDoc doc
  | interface doc name spaced members =>
    have line := Framed.of_head (("type " ++ name ++ " interface \x7b\n").toList) 't'
      (by decide) (by simp [String.append_assoc])
      (chars (separate (if spaced then "\n" else "") (members.map Member.print)) ++ ['\x7d'])
    simpa [Decl.print, List.append_assoc] using line.printDoc doc
  | function f =>
    obtain ⟨doc, receiver, name, ⟨params, results⟩, body⟩ := f
    obtain ⟨closing, printed⟩ := Function.exists_line receiver name results body
    have line := Framed.of_head (chars (Function.opening receiver name)) 'f' (by decide)
      (by simp [Function.opening])
      (chars (separate ", " (params.map Param.print)) ++ closing)
    rw [Decl.print, printed]
    simpa [List.append_assoc] using line.printDoc doc
  | constants doc type entries =>
    have line := Framed.of_head "const (\n".toList 'c' (by decide) (by decide)
      (chars (entries.flatMap (Constant.print type)) ++ [')'])
    simpa [Decl.print, List.append_assoc] using line.printDoc doc
  | verbatim names text => cases printed

theorem Item.framed_print {item : Item} (printed : item.decl.isFixed = false) :
    Framed (chars item.print) := by
  obtain ⟨decl, spaced⟩ := item
  cases spaced with
  | true => simpa [Item.print] using (Decl.framed_print printed).newline
  | false => simpa [Item.print] using Decl.framed_print printed

namespace SourceFile

variable {file : SourceFile}

theorem toList_body (file : SourceFile) :
    file.body.toList = file.items.flatMap fun item => chars item.print := by
  rw [body, toList_join, chars, List.flatMap_assoc]
  rfl

theorem framed_body (declares : file.items ≠ [])
    (printed : ∀ item ∈ file.items, item.decl.isFixed = false) : Framed file.body.toList := by
  rw [toList_body]
  generalize file.items = items at declares printed
  induction items with
  | nil => exact absurd rfl declares
  | cons item rest ih =>
    obtain ⟨first, others⟩ := List.forall_mem_cons.1 printed
    rw [List.flatMap_cons]
    by_cases last : rest = []
    · simpa [last] using Item.framed_print first
    · exact (Item.framed_print first).append (ih last others)

theorem isEmpty_of_items (nothing : file.items = []) : file.isEmpty = true := by
  rw [isEmpty, body, nothing]
  rfl

theorem isEmpty_of_framed (framed : Framed file.body.toList) : file.isEmpty = false := by
  obtain ⟨first, middle, visible, spelled⟩ := framed
  simp [isEmpty, spelled, visible]

/-- Nothing is cut off from the body of a file, and nothing is added to it. -/
theorem render_of_framed (framed : Framed file.body.toList) :
    file.render = file.heading ++ "\n" ++ file.body := by
  have written := isEmpty_of_framed framed
  obtain ⟨first, middle, visible, spelled⟩ := framed
  have begun : (first == '\n') = false := beq_false_of_ne fun same => by
    rw [same] at visible
    exact absurd visible (by decide)
  have whole : String.ofList (file.body.toList.dropWhile (· == '\n')) = file.body := by
    rw [spelled, List.cons_append, List.dropWhile_cons, begun, ← List.cons_append, ← spelled]
    exact String.ofList_toList
  have ends : (file.heading ++ "\n" ++ file.body).endsWith "\n" = true := by
    rw [String.endsWith_eq_endsWith_toSlice, String.Slice.endsWith_string_iff]
    exact ⟨(file.heading ++ "\n").toList ++ first :: middle, by simp [spelled]⟩
  rw [render, written, if_neg Bool.false_ne_true, whole]
  exact if_pos ends

end SourceFile

end Bindings.Go
