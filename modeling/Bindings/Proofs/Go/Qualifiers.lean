import Bindings.Proofs.Go.Plain

/-! The qualified identifiers in the text of a source file.

Every part of a plain tree leads a reader from one known state to another. So the text of the whole
holds the identifiers that the tree takes from other packages, members that are selected from
variables, and no other qualified identifiers.
-/

set_option autoImplicit false

namespace Bindings.Go

open Reader

/-- A qualified identifier as a reader finds it. -/
def QualifiedIdent.pair (used : QualifiedIdent) : String × String :=
  (used.package.name, used.ident)

section Printing

variable {P : String × String → Prop}

theorem leads_separate {separator : String} (between : separates separator.toList = true)
    {parts : List (List Piece)} (each : ∀ part ∈ parts, Leads (Ready P) (Settled P) (chars part)) :
    Leads (Ready P) (Settled P) (chars (separate separator parts)) := by
  fun_induction separate separator parts with
  | case1 => exact fun _ => Ready.settled
  | case2 only => exact each only List.mem_cons_self
  | case3 first rest nonempty ih =>
    obtain ⟨now, later⟩ := List.forall_mem_cons.1 each
    rw [chars_append, chars_code]
    exact now.append ((leads_separator between).append (ih later))

/-- Parts that end their words, with nothing but signs between them. -/
theorem leads_sections {separator : String} (between : ∀ c ∈ separator.toList, isBreak c = true)
    {parts : List (List Piece)} (each : ∀ part ∈ parts, Leads (Ready P) (Ready P) (chars part)) :
    Leads (Ready P) (Ready P) (chars (separate separator parts)) := by
  fun_induction separate separator parts with
  | case1 => exact .nil
  | case2 only => exact each only List.mem_cons_self
  | case3 first rest nonempty ih =>
    obtain ⟨now, later⟩ := List.forall_mem_cons.1 each
    rw [chars_append, chars_code]
    exact now.append ((leads_breaks between).append (ih later))

theorem leads_flatMap {α : Type} {items : List α} {print : α → List Piece}
    (each : ∀ item ∈ items, Leads (Ready P) (Ready P) (chars (print item))) :
    Leads (Ready P) (Ready P) (chars (items.flatMap print)) := by
  induction items with
  | nil => exact .nil
  | cons item items ih =>
    obtain ⟨now, later⟩ := List.forall_mem_cons.1 each
    rw [List.flatMap_cons, chars_append]
    exact now.append (ih later)

theorem leads_tag {tag : Option String} (unmarked : Unmarked (tag.getD "")) :
    Leads (Settled P) (Settled P) (tagText tag).toList := by
  cases tag with
  | none => exact .nil
  | some tag =>
    have raw : Leads (Ready P) (Sealed P)
        ('\x60' :: (("json:\"" ++ tag ++ "\"").toList ++ ['\x60'])) := by
      refine leads_raw ?_
      simp only [String.toList_append, List.forall_mem_append]
      exact ⟨⟨by decide, unmarked⟩, by decide⟩
    have spelled : (tagText (some tag)).toList =
        ' ' :: '\x60' :: (("json:\"" ++ tag ++ "\"").toList ++ ['\x60']) := by
      simp [tagText, List.append_assoc]
    rw [spelled]
    exact .cons (leads_break (by decide)) (raw.imp fun _ => Sealed.toSettled)

-- One case for each form of the syntax, in the shape that it is printed in.
mutual
theorem TypeExpr.leads_print : ∀ (type : TypeExpr), type.Plain →
    (∀ used ∈ type.foreign, P used.pair) → Leads (Ready P) (Settled P) (chars type.print)
  | .named ident, plain, _ => by
    rw [TypeExpr.print, chars_code, chars_nil, List.append_nil]
    exact leads_words plain
  | .imported package ident, plain, uses => by
    have spelled : chars (TypeExpr.imported package ident).print =
        package.name.toList ++ '.' :: ident.toList := by simp [TypeExpr.print]
    rw [spelled]
    exact (leads_qualified plain.1 plain.2 (uses _ (List.mem_singleton_self _))).imp
      fun _ => Sealed.toSettled
  | .pointer target, plain, uses => by
    rw [TypeExpr.print, chars_code]
    exact (leads_opens (by decide)).append (target.leads_print plain uses)
  | .slice element, plain, uses => by
    rw [TypeExpr.print, chars_code]
    exact (leads_opens (by decide)).append (element.leads_print plain uses)
  | .struct fields, plain, uses => by
    rw [TypeExpr.print, chars_code, chars_append]
    exact (leads_opens (by decide)).append ((Field.leads_printAll fields plain uses).append
      (leads_words (by decide)))
  | .single field type, plain, uses => by
    obtain ⟨named, typed⟩ := plain
    have inner := type.leads_print typed uses
    have closing : Leads (Settled P) (Settled P) (chars [.code " \x7d"]) :=
      (leads_separator (by decide)).imp fun _ => Ready.settled
    cases field with
    | none =>
      rw [TypeExpr.print, chars_code, chars_append]
      exact (leads_opens (by decide)).append (inner.append closing)
    | some field =>
      rw [TypeExpr.print, chars_code, chars_append, String.toList_append, String.toList_append]
      exact (((leads_opens (by decide)).append (leads_words named)).append
        (leads_separator (by decide))).append (inner.append closing)

theorem Field.leads_printAll : ∀ (fields : List Field), Field.AllPlain fields →
    (∀ used ∈ Field.listForeign fields, P used.pair) →
      Leads (Ready P) (Ready P) (chars (Field.printAll fields))
  | [], _, _ => .nil
  | .mk doc name type tag :: fields, plain, uses => by
    obtain ⟨unbroken, named, typed, unmarked, others⟩ := plain
    obtain ⟨here, later⟩ := List.forall_mem_append.1 uses
    rw [chars_printAll_cons, String.toList_append, String.toList_append]
    have opening : Leads (Ready P) (Ready P) ("\t".toList ++ name.toList ++ " ".toList) :=
      ((leads_opens (by decide)).append (leads_words named)).append (leads_separator (by decide))
    exact (leads_doc unbroken).append ((((opening.append (type.leads_print typed here)).append
      (leads_tag unmarked)).append (leads_break (by decide))).append
        (Field.leads_printAll fields others later))
end

/-- What is known of a reader behind an expression. -/
structure Expr.Behind (P : String × String → Prop) (value : Expr) (s : State) : Prop
    extends Settled P s where
  last : value.isSealed = true → s.flush.last = .other

theorem Expr.Behind.of_sealed {value : Expr} {s : State} (h : Sealed P s) : value.Behind P s :=
  ⟨h.toSettled, fun _ => h.last⟩

theorem Expr.Behind.of_settled {value : Expr} (unsealed : value.isSealed = false) {s : State}
    (h : Settled P s) : value.Behind P s :=
  ⟨h, fun sealed => absurd (unsealed ▸ sealed) Bool.false_ne_true⟩

theorem Expr.Behind.settled {value : Expr} {before : State → Prop} {text : List Char}
    (h : Leads before (value.Behind P) text) : Leads before (Settled P) text :=
  h.imp fun _ behind => behind.toSettled

theorem leads_operator {operator : String} (plain : Go.Plain operator ∨ operator = "/") :
    Leads (Settled P) (Ready P) (" " ++ operator ++ " ").toList := by
  rw [String.toList_append, String.toList_append]
  rcases plain with plain | rfl
  · exact ((leads_separator (by decide)).append (leads_words plain)).append
      (leads_separator (by decide))
  · exact .cons (leads_break (by decide)) leads_slash

theorem leads_tabs (depth : Nat) : Leads (Ready P) (Ready P) (tabs depth).toList :=
  leads_breaks isBreak_tabs

theorem leads_lines (depth : Nat) {parts : List (List Piece)}
    (each : ∀ part ∈ parts, Leads (Ready P) (Settled P) (chars part)) :
    Leads (Ready P) (Ready P)
      (chars (parts.flatMap fun part => .code (tabs depth) :: (part ++ [.code ",\n"]))) := by
  induction parts with
  | nil => exact .nil
  | cons part parts ih =>
    obtain ⟨now, later⟩ := List.forall_mem_cons.1 each
    rw [List.flatMap_cons, chars_append, chars_code, chars_append]
    exact ((leads_tabs depth).append (now.append (leads_separator (by decide)))).append (ih later)

mutual
theorem Expr.leads_print : ∀ (value : Expr) (depth : Nat), value.Plain →
    (∀ used ∈ value.foreign, P used.pair) → (∀ pair ∈ value.selections, P pair) →
      Leads (Ready P) (value.Behind P) (chars (value.print depth))
  | .ident name, _, plain, _, _ => by
    rw [Expr.print, chars_code, chars_nil, List.append_nil]
    exact (leads_words plain).imp fun _ => .of_settled rfl
  | .number digits, _, plain, _, _ => by
    rw [Expr.print, chars_code, chars_nil, List.append_nil]
    exact (leads_words plain).imp fun _ => .of_settled rfl
  | .imported package ident, _, plain, uses, _ => by
    have spelled (depth : Nat) : chars ((Expr.imported package ident).print depth) =
        package.name.toList ++ '.' :: ident.toList := by simp [Expr.print]
    rw [spelled]
    exact (leads_qualified plain.1 plain.2 (uses _ (List.mem_singleton_self _))).imp
      fun _ => .of_sealed
  | .text value, _, _, _, _ => by
    rw [Expr.print, chars_code, chars_nil, List.append_nil]
    exact (leads_quote value).imp fun _ => .of_sealed
  | .literal inner, _, plain, _, _ => by
    have spelled (depth : Nat) : chars ((Expr.literal inner).print depth) =
        '"' :: (inner.toList ++ ['"']) := by simp [Expr.print]
    rw [spelled]
    exact (leads_literal plain).imp fun _ => .of_sealed
  | .rawText inner, _, plain, _, _ => by
    have spelled (depth : Nat) : chars ((Expr.rawText inner).print depth) =
        '\x60' :: (inner.toList ++ ['\x60']) := by simp [Expr.print]
    rw [spelled]
    exact (leads_raw plain).imp fun _ => .of_sealed
  | .select target name, depth, plain, uses, selects => by
    obtain ⟨inner, selectable, word⟩ := plain
    obtain ⟨selected, below⟩ := List.forall_mem_append.1 selects
    have spelled : chars ((Expr.select target name).print depth) =
        chars (target.print depth) ++ '.' :: name.toList := by simp [Expr.print]
    rw [spelled]
    have read := Expr.leads_print target depth inner uses below
    -- Behind a variable the name is found with it, behind a bracket or a mark it is not found.
    cases target with
    | ident variable_ =>
      rw [Expr.print, chars_code, chars_nil, List.append_nil]
      exact (leads_qualified selectable word (selected _ (List.mem_singleton_self _))).imp
        fun _ => .of_sealed
    | number | spread | unary | binary => exact absurd selectable Bool.false_ne_true
    | _ =>
      exact (read.imp fun s behind => ⟨behind.toSettled, behind.last rfl⟩).append
        ((leads_selection word).imp fun _ => .of_sealed)
  | .call function arguments, depth, plain, uses, selects => by
    obtain ⟨here, later⟩ := List.forall_mem_append.1 uses
    obtain ⟨here', later'⟩ := List.forall_mem_append.1 selects
    rw [Expr.print, chars_append, chars_code, chars_append]
    exact (Expr.Behind.settled (Expr.leads_print function depth plain.1 here here')).append
      ((leads_separator (by decide)).append ((leads_separate (by decide)
        (Expr.leads_printAll arguments depth plain.2 later later')).append
          ((leads_close (by decide)).imp fun _ => .of_sealed)))
  | .convert type value, depth, plain, uses, selects => by
    obtain ⟨here, later⟩ := List.forall_mem_append.1 uses
    rw [Expr.print, chars_append, chars_code, chars_append]
    exact (type.leads_print plain.1 here).append ((leads_separator (by decide)).append
      ((Expr.Behind.settled (Expr.leads_print value depth plain.2 later selects)).append
        ((leads_close (by decide)).imp fun _ => .of_sealed)))
  | .spread value, depth, plain, uses, selects => by
    rw [Expr.print, chars_append]
    exact (Expr.Behind.settled (Expr.leads_print value depth plain uses selects)).append
      (leads_spread.imp fun _ ready => .of_settled rfl ready.settled)
  | .unary operator value, depth, plain, uses, selects => by
    rw [Expr.print, chars_code]
    exact (leads_breaks plain.1).append ((Expr.leads_print value depth plain.2 uses selects).imp
      fun _ behind => .of_settled rfl behind.toSettled)
  | .binary left operator right, depth, plain, uses, selects => by
    obtain ⟨here, later⟩ := List.forall_mem_append.1 uses
    obtain ⟨here', later'⟩ := List.forall_mem_append.1 selects
    rw [Expr.print, chars_append, chars_code]
    exact (Expr.Behind.settled (Expr.leads_print left depth plain.1 here here')).append
      ((leads_operator plain.2.1).append
        ((Expr.leads_print right depth plain.2.2 later later').imp
          fun _ behind => .of_settled rfl behind.toSettled))
  | .paren value, depth, plain, uses, selects => by
    rw [Expr.print, chars_code, chars_append]
    exact (leads_opens (by decide)).append
      ((Expr.Behind.settled (Expr.leads_print value depth plain uses selects)).append
        ((leads_close (by decide)).imp fun _ => .of_sealed))
  | .range target low high, depth, plain, uses, selects => by
    obtain ⟨⟨here, next⟩, later⟩ :=
      (List.forall_mem_append.1 uses).imp_left List.forall_mem_append.1
    obtain ⟨⟨here', next'⟩, later'⟩ :=
      (List.forall_mem_append.1 selects).imp_left List.forall_mem_append.1
    rw [Expr.print, chars_append, chars_append, chars_code, chars_code, chars_append]
    exact (((Expr.Behind.settled (Expr.leads_print target depth plain.1 here here')).append
      ((leads_separator (by decide)).append
        (Expr.Behind.settled (Expr.leads_print low depth plain.2.1 next next')))).append
      ((leads_separator (by decide)).append
        ((Expr.Behind.settled (Expr.leads_print high depth plain.2.2 later later')).append
          ((leads_close (by decide)).imp fun _ => .of_sealed))))
  | .composite tall type elements, depth, plain, uses, selects => by
    obtain ⟨here, later⟩ := List.forall_mem_append.1 uses
    have typed := type.leads_print plain.1 here
    have closing : Leads (Settled P) ((Expr.composite tall type elements).Behind P) ['\x7d'] :=
      (leads_close (by decide)).imp fun _ => .of_sealed
    cases tall with
    | false =>
      rw [Expr.print, chars_append, chars_code, chars_append]
      exact typed.append ((leads_separator (by decide)).append ((leads_separate (by decide)
        (Element.leads_printAll elements depth plain.2 later selects)).append closing))
    | true =>
      have lines := leads_lines (depth + 1)
        (Element.leads_printAll elements (depth + 1) plain.2 later selects)
      have last : chars [.code (tabs depth ++ "\x7d")] = (tabs depth).toList ++ ['\x7d'] := by
        simp
      rw [Expr.print, chars_append, chars_code, chars_append, last]
      exact typed.append ((leads_separator (by decide)).append (lines.append
        ((leads_tabs depth).append (.of_imp (fun _ => Ready.settled) closing))))

theorem Expr.leads_printAll : ∀ (values : List Expr) (depth : Nat), Expr.AllPlain values →
    (∀ used ∈ Expr.listForeign values, P used.pair) →
      (∀ pair ∈ Expr.listSelections values, P pair) →
      ∀ part ∈ Expr.printAll depth values, Leads (Ready P) (Settled P) (chars part)
  | [], _, _, _, _ => nofun
  | value :: values, depth, plain, uses, selects => by
    obtain ⟨here, later⟩ := List.forall_mem_append.1 uses
    obtain ⟨here', later'⟩ := List.forall_mem_append.1 selects
    refine List.forall_mem_cons.2 ⟨?_, Expr.leads_printAll values depth plain.2 later later'⟩
    exact Expr.Behind.settled (Expr.leads_print value depth plain.1 here here')

theorem Element.leads_printAll : ∀ (elements : List Element) (depth : Nat),
    Element.AllPlain elements → (∀ used ∈ Element.listForeign elements, P used.pair) →
      (∀ pair ∈ Element.listSelections elements, P pair) →
      ∀ part ∈ Element.printAll depth elements, Leads (Ready P) (Settled P) (chars part)
  | [], _, _, _, _ => nofun
  | .mk key value :: elements, depth, plain, uses, selects => by
    obtain ⟨named, inner, others⟩ := plain
    obtain ⟨here, later⟩ := List.forall_mem_append.1 uses
    obtain ⟨here', later'⟩ := List.forall_mem_append.1 selects
    refine List.forall_mem_cons.2 ⟨?_, Element.leads_printAll elements depth others later later'⟩
    rw [chars_code, String.toList_append]
    exact ((leads_words named).append (leads_separator (by decide))).append
      (Expr.Behind.settled (Expr.leads_print value depth inner here here'))
end

theorem Expr.leads (value : Expr) (depth : Nat) (plain : value.Plain)
    (uses : ∀ used ∈ value.foreign, P used.pair) (selects : ∀ pair ∈ value.selections, P pair) :
    Leads (Ready P) (Settled P) (chars (value.print depth)) :=
  Expr.Behind.settled (Expr.leads_print value depth plain uses selects)

theorem Expr.leads_list (values : List Expr) (depth : Nat) (plain : Expr.AllPlain values)
    (uses : ∀ used ∈ Expr.listForeign values, P used.pair)
    (selects : ∀ pair ∈ Expr.listSelections values, P pair) :
    Leads (Ready P) (Settled P) (chars (separate ", " (Expr.printAll depth values))) :=
  leads_separate (by decide) (Expr.leads_printAll values depth plain uses selects)

theorem Assignment.leads_print (assignment : Assignment) (depth : Nat) (plain : assignment.Plain)
    (uses : ∀ used ∈ assignment.foreign, P used.pair)
    (selects : ∀ pair ∈ assignment.selections, P pair) :
    Leads (Ready P) (Settled P) (chars (assignment.print depth)) := by
  obtain ⟨here, later⟩ := List.forall_mem_append.1 uses
  obtain ⟨here', later'⟩ := List.forall_mem_append.1 selects
  have sign : separates (if assignment.defines then " := " else " = ").toList = true := by
    cases assignment.defines <;> decide
  rw [Assignment.print, chars_append, chars_code]
  exact (Expr.leads_list _ depth plain.1 here here').append ((leads_separator sign).append
    (Expr.leads_list _ depth plain.2 later later'))

mutual
theorem Statement.leads_print : ∀ (statement : Statement) (depth : Nat), statement.Plain →
    (∀ used ∈ statement.foreign, P used.pair) → (∀ pair ∈ statement.selections, P pair) →
      Leads (Ready P) (Ready P) (chars (statement.print depth))
  | .assign assignment, depth, plain, uses, selects => by
    rw [Statement.print, chars_code, chars_append]
    exact (leads_tabs depth).append
      ((assignment.leads_print depth plain uses selects).append (leads_separator (by decide)))
  | .eval value, depth, plain, uses, selects => by
    rw [Statement.print, chars_code, chars_append]
    exact (leads_tabs depth).append
      ((value.leads depth plain uses selects).append (leads_separator (by decide)))
  | .declare name type, depth, plain, uses, _ => by
    rw [Statement.print, chars_code, chars_append, String.toList_append, String.toList_append,
      String.toList_append]
    exact ((((leads_tabs depth).append (leads_opens (by decide))).append
      (leads_words plain.1)).append (leads_separator (by decide))).append
        ((type.leads_print plain.2 uses).append (leads_separator (by decide)))
  | .defer value, depth, plain, uses, selects => by
    rw [Statement.print, chars_code, chars_append, String.toList_append]
    exact ((leads_tabs depth).append (leads_opens (by decide))).append
      ((value.leads depth plain uses selects).append (leads_separator (by decide)))
  | .leave [], depth, _, _, _ => by
    rw [Statement.print, chars_code, chars_nil, List.append_nil, String.toList_append]
    exact (leads_tabs depth).append (leads_opens (by decide))
  | .leave (value :: values), depth, plain, uses, selects => by
    rw [Statement.print.eq_def]
    dsimp only
    rw [chars_code, chars_append, String.toList_append]
    exact ((leads_tabs depth).append (leads_opens (by decide))).append
      ((Expr.leads_list _ depth plain uses selects).append (leads_separator (by decide)))
  | .cond none test body orElse, depth, plain, uses, selects => by
    obtain ⟨tested, inner, others⟩ := plain
    obtain ⟨⟨here, next⟩, last⟩ :=
      (List.forall_mem_append.1 uses).imp_left List.forall_mem_append.1
    obtain ⟨⟨here', next'⟩, last'⟩ :=
      (List.forall_mem_append.1 selects).imp_left List.forall_mem_append.1
    rw [Statement.print, chars_code, chars_append, chars_append, chars_code, chars_append,
      String.toList_append]
    exact ((leads_tabs depth).append (leads_opens (by decide))).append
      ((Leads.nil.append (test.leads depth tested here here')).append
        ((leads_separator (by decide)).append
          ((Statement.leads_printAll body (depth + 1) inner next next').append
            (Statement.leads_printElse orElse depth others last last'))))
  | .cond (some init) test body orElse, depth, plain, uses, selects => by
    obtain ⟨begun, tested, inner, others⟩ := plain
    obtain ⟨first, last⟩ := List.forall_mem_append.1 uses
    obtain ⟨⟨here, then_⟩, next⟩ :=
      (List.forall_mem_append.1 first).imp_left List.forall_mem_append.1
    obtain ⟨first', last'⟩ := List.forall_mem_append.1 selects
    obtain ⟨⟨here', then'⟩, next'⟩ :=
      (List.forall_mem_append.1 first').imp_left List.forall_mem_append.1
    rw [Statement.print, chars_code, chars_append, chars_append, chars_append, chars_code,
      chars_code, chars_append, String.toList_append]
    exact ((leads_tabs depth).append (leads_opens (by decide))).append
      ((((init.leads_print depth begun here here').append (leads_separator (by decide))).append
        (test.leads depth tested then_ then')).append
          ((leads_separator (by decide)).append
            ((Statement.leads_printAll body (depth + 1) inner next next').append
              (Statement.leads_printElse orElse depth others last last'))))
  | .switch subject clauses, depth, plain, uses, selects => by
    obtain ⟨here, later⟩ := List.forall_mem_append.1 uses
    obtain ⟨here', later'⟩ := List.forall_mem_append.1 selects
    have last : chars [.code (tabs depth ++ "\x7d\n")] =
        (tabs depth).toList ++ ['\x7d', '\n'] := by simp
    rw [Statement.print, chars_code, chars_append, chars_code, chars_append, String.toList_append,
      last]
    exact ((leads_tabs depth).append (leads_opens (by decide))).append
      ((subject.leads depth plain.1 here here').append ((leads_separator (by decide)).append
        ((Clause.leads_printAll clauses depth plain.2 later later').append
          ((leads_tabs depth).append (leads_opens (by decide))))))
  | .gap, _, _, _, _ => by
    rw [Statement.print, chars_code, chars_nil, List.append_nil]
    exact leads_opens (by decide)

theorem Statement.leads_printElse : ∀ (statements : List Statement) (depth : Nat),
    Statement.AllPlain statements → (∀ used ∈ Statement.listForeign statements, P used.pair) →
      (∀ pair ∈ Statement.listSelections statements, P pair) →
      Leads (Ready P) (Ready P) (chars (Statement.printElse depth statements))
  | [], depth, _, _, _ => by
    rw [Statement.printElse, chars_code, chars_nil, List.append_nil, String.toList_append]
    exact (leads_tabs depth).append (leads_opens (by decide))
  | first :: rest, depth, plain, uses, selects => by
    obtain ⟨here, later⟩ := List.forall_mem_append.1 uses
    obtain ⟨here', later'⟩ := List.forall_mem_append.1 selects
    have last : chars [.code (tabs depth ++ "\x7d\n")] =
        (tabs depth).toList ++ ['\x7d', '\n'] := by simp
    rw [Statement.printElse, chars_code, chars_append, chars_append, String.toList_append, last]
    exact ((leads_tabs depth).append (leads_opens (by decide))).append
      ((Statement.leads_print first (depth + 1) plain.1 here here').append
        ((Statement.leads_printAll rest (depth + 1) plain.2 later later').append
          ((leads_tabs depth).append (leads_opens (by decide)))))

theorem Statement.leads_printAll : ∀ (statements : List Statement) (depth : Nat),
    Statement.AllPlain statements → (∀ used ∈ Statement.listForeign statements, P used.pair) →
      (∀ pair ∈ Statement.listSelections statements, P pair) →
      Leads (Ready P) (Ready P) (chars (Statement.printAll depth statements))
  | [], _, _, _, _ => .nil
  | first :: rest, depth, plain, uses, selects => by
    obtain ⟨here, later⟩ := List.forall_mem_append.1 uses
    obtain ⟨here', later'⟩ := List.forall_mem_append.1 selects
    rw [Statement.printAll, chars_append]
    exact (Statement.leads_print first depth plain.1 here here').append
      (Statement.leads_printAll rest depth plain.2 later later')

theorem Clause.leads_printAll : ∀ (clauses : List Clause) (depth : Nat),
    Clause.AllPlain clauses → (∀ used ∈ Clause.listForeign clauses, P used.pair) →
      (∀ pair ∈ Clause.listSelections clauses, P pair) →
      Leads (Ready P) (Ready P) (chars (Clause.printAll depth clauses))
  | [], _, _, _, _ => .nil
  | .mk values body :: rest, depth, plain, uses, selects => by
    obtain ⟨listed, inner, others⟩ := plain
    obtain ⟨⟨here, next⟩, last⟩ :=
      (List.forall_mem_append.1 uses).imp_left List.forall_mem_append.1
    obtain ⟨⟨here', next'⟩, last'⟩ :=
      (List.forall_mem_append.1 selects).imp_left List.forall_mem_append.1
    rw [Clause.printAll, chars_code, chars_append, chars_code, chars_append, String.toList_append]
    exact ((leads_tabs depth).append (leads_opens (by decide))).append
      ((Expr.leads_list values depth listed here here').append
        ((leads_separator (by decide)).append
          ((Statement.leads_printAll body (depth + 1) inner next next').append
            (Clause.leads_printAll rest depth others last last'))))
  | .default body :: rest, depth, plain, uses, selects => by
    obtain ⟨here, later⟩ := List.forall_mem_append.1 uses
    obtain ⟨here', later'⟩ := List.forall_mem_append.1 selects
    rw [Clause.printAll, chars_code, chars_append, String.toList_append]
    exact ((leads_tabs depth).append (leads_opens (by decide))).append
      ((Statement.leads_printAll body (depth + 1) plain.1 here here').append
        (Clause.leads_printAll rest depth plain.2 later later'))
end

theorem Param.leads_print (param : Param) (plain : param.Plain)
    (uses : ∀ used ∈ param.type.foreign, P used.pair) :
    Leads (Ready P) (Settled P) (chars param.print) := by
  obtain ⟨name, type⟩ := param
  obtain ⟨named, typed⟩ := plain
  cases name with
  | none => exact type.leads_print typed uses
  | some name =>
    rw [Param.print, chars_code, String.toList_append]
    exact ((leads_words named).append (leads_separator (by decide))).append
      (type.leads_print typed uses)

theorem leads_printParams {params : List Param} (plain : ∀ param ∈ params, param.Plain)
    (uses : ∀ used ∈ Param.listForeign params, P used.pair) :
    Leads (Settled P) (Settled P) (chars (printParams params)) := by
  have each : ∀ part ∈ params.map Param.print, Leads (Ready P) (Settled P) (chars part) := by
    intro part member
    obtain ⟨param, found, rfl⟩ := List.mem_map.1 member
    exact param.leads_print (plain param found) fun used inside =>
      uses used (List.mem_flatMap.2 ⟨param, found, inside⟩)
  rw [printParams, chars_code, chars_append]
  exact (leads_separator (by decide)).append ((leads_separate (by decide) each).append
    ((leads_separator (by decide)).imp fun _ => Ready.settled))

theorem leads_printResults {results : List Param} (plain : ∀ param ∈ results, param.Plain)
    (uses : ∀ used ∈ Param.listForeign results, P used.pair) :
    Leads (Settled P) (Settled P) (chars (printResults results)) := by
  rw [printResults.eq_def]
  split
  · exact .nil
  · next type =>
    rw [chars_code]
    exact (leads_separator (by decide)).append (type.leads_print
      (plain _ (List.mem_singleton_self _)).2 fun used inside => uses used (by simpa using inside))
  · rw [chars_code]
    exact (leads_separator (by decide)).append
      (.of_imp (fun _ => Ready.settled) (leads_printParams plain uses))

theorem Signature.leads_print {signature : Signature} (plain : signature.Plain)
    (uses : ∀ used ∈ signature.foreign, P used.pair) :
    Leads (Settled P) (Settled P) (chars signature.print) := by
  obtain ⟨here, later⟩ := List.forall_mem_append.1 uses
  rw [Signature.print, chars_append]
  exact (leads_printParams plain.params here).append (leads_printResults plain.results later)

theorem Body.leads_print {body : Body} (plain : body.Plain)
    (uses : ∀ used ∈ body.foreign, P used.pair) (selects : ∀ pair ∈ body.selections, P pair) :
    Leads (Settled P) (Ready P) (chars body.print) := by
  cases body with
  | block statements =>
    rw [Body.print, chars_code, chars_append]
    exact (leads_separator (by decide)).append
      ((Statement.leads_printAll statements 1 plain uses selects).append (leads_opens (by decide)))
  | brief value =>
    rw [Body.print, chars_code, chars_append]
    exact (leads_separator (by decide)).append
      ((value.leads 0 plain uses selects).append (leads_separator (by decide)))

theorem leads_receiver {receiver : Option Param} (plain : ∀ param ∈ receiver, param.Plain)
    (uses : ∀ used ∈ Param.listForeign receiver.toList, P used.pair) :
    Leads (Ready P) (Ready P)
      (chars (receiver.elim [] fun param => printParams [param] ++ [.code " "])) := by
  cases receiver with
  | none => exact .nil
  | some receiver =>
    rw [Option.elim_some, chars_append]
    exact .of_imp (fun _ => Ready.settled)
      ((leads_printParams (List.forall_mem_singleton.2 (plain receiver rfl)) uses).append
        (leads_separator (by decide)))

theorem Function.leads_print {f : Function} (plain : f.Plain)
    (uses : ∀ used ∈ f.foreign, P used.pair) (selects : ∀ pair ∈ f.body.selections, P pair) :
    Leads (Ready P) (Ready P) (chars f.print) := by
  obtain ⟨first, last⟩ := List.forall_mem_append.1 uses
  obtain ⟨here, next⟩ := List.forall_mem_append.1 first
  have spelled : chars f.print = chars (printDoc 0 f.doc) ++ ("func ".toList ++
      (chars (f.receiver.elim [] fun param => printParams [param] ++ [.code " "]) ++
        (f.name.toList ++ (chars f.signature.print ++ chars f.body.print)))) := by
    obtain ⟨doc, receiver, name, signature, body⟩ := f
    cases receiver <;> simp [Function.print]
  rw [spelled]
  exact (leads_doc plain.doc).append ((leads_opens (by decide)).append
    ((leads_receiver plain.receiver here).append ((leads_words plain.name).append
      ((Signature.leads_print plain.signature next).append
        (Body.leads_print plain.body last selects)))))

theorem Member.leads_print {member : Member} (plain : member.Plain)
    (uses : ∀ used ∈ member.foreign, P used.pair) :
    Leads (Ready P) (Ready P) (chars member.print) := by
  cases member with
  | method doc name signature =>
    obtain ⟨unbroken, named, signed⟩ := plain
    rw [Member.print, chars_append, chars_code, chars_append, String.toList_append]
    exact (leads_doc unbroken).append (((leads_opens (by decide)).append (leads_words named)).append
      ((Signature.leads_print signed uses).append (leads_separator (by decide))))
  | embedded target =>
    rw [Member.print, chars_code, chars_append]
    exact (leads_opens (by decide)).append
      ((target.leads_print plain uses).append (leads_separator (by decide)))

theorem Constant.leads_print {constant : Constant} {type : Option TypeExpr}
    (named : Go.Plain constant.name) (typed : ∀ expr ∈ type, expr.Plain)
    (uses : ∀ used ∈ type.toList.flatMap TypeExpr.foreign, P used.pair) :
    Leads (Ready P) (Ready P) (chars (constant.print type)) := by
  have spelled : chars (constant.print type) = "\t".toList ++ constant.name.toList ++
      (chars (type.elim [] fun type => .code " " :: type.print) ++
        (" = ".toList ++ ((Text.quote constant.value).toList ++ ['\n']))) := by
    cases type <;> simp [Constant.print]
  have between : Leads (Settled P) (Settled P)
      (chars (type.elim [] fun type => .code " " :: type.print)) := by
    cases type with
    | none => exact .nil
    | some type =>
      rw [Option.elim_some, chars_code]
      exact (leads_separator (by decide)).append
        (type.leads_print (typed type rfl) (by simpa using uses))
  rw [spelled]
  exact ((leads_opens (by decide)).append (leads_words named)).append (between.append
    ((leads_separator (by decide)).append
      (((leads_quote constant.value).imp fun _ => Sealed.toSettled).append
        (leads_break (by decide)))))

theorem Decl.leads_print {decl : Decl} (plain : decl.Plain)
    (uses : ∀ used ∈ decl.foreign, P used.pair) (selects : ∀ pair ∈ decl.selections, P pair) :
    Leads (Ready P) (Ready P) (chars decl.print) := by
  cases decl with
  | type doc name target =>
    obtain ⟨unbroken, named, typed⟩ := plain
    rw [Decl.print, chars_append, chars_code, chars_append, String.toList_append,
      String.toList_append]
    exact (leads_doc unbroken).append ((((leads_opens (by decide)).append
      (leads_words named)).append (leads_separator (by decide))).append
        ((target.leads_print typed uses).append (leads_separator (by decide))))
  | synonym doc name target =>
    obtain ⟨unbroken, named, typed⟩ := plain
    rw [Decl.print, chars_append, chars_code, chars_append, String.toList_append,
      String.toList_append]
    exact (leads_doc unbroken).append ((((leads_opens (by decide)).append
      (leads_words named)).append (leads_separator (by decide))).append
        ((target.leads_print typed uses).append (leads_separator (by decide))))
  | interface doc name spaced members =>
    obtain ⟨unbroken, named, each⟩ := plain
    have inner : Leads (Ready P) (Ready P)
        (chars (separate (if spaced then "\n" else "") (members.map Member.print))) := by
      refine leads_sections (by cases spaced <;> decide) fun part member => ?_
      obtain ⟨method, found, rfl⟩ := List.mem_map.1 member
      exact Member.leads_print (each method found) fun used inside =>
        uses used (List.mem_flatMap.2 ⟨method, found, inside⟩)
    rw [Decl.print, chars_append, chars_code, chars_append, String.toList_append,
      String.toList_append]
    exact (leads_doc unbroken).append ((((leads_opens (by decide)).append
      (leads_words named)).append (leads_separator (by decide))).append
        (inner.append (leads_opens (by decide))))
  | function f => exact Function.leads_print plain uses selects
  | constants doc target entries =>
    obtain ⟨unbroken, typed, named⟩ := plain
    have inner : Leads (Ready P) (Ready P) (chars (entries.flatMap (Constant.print target))) :=
      leads_flatMap fun entry found => Constant.leads_print (named entry found) typed
        fun used inside => uses used (List.mem_flatMap.2 ⟨entry, found, inside⟩)
    rw [Decl.print, chars_append, chars_code, chars_append]
    exact (leads_doc unbroken).append ((leads_opens (by decide)).append
      (inner.append (leads_opens (by decide))))
  | verbatim => exact plain.elim

theorem Item.leads_print {item : Item} (plain : item.decl.Plain)
    (uses : ∀ used ∈ item.decl.foreign, P used.pair)
    (selects : ∀ pair ∈ item.decl.selections, P pair) :
    Leads (Ready P) (Ready P) (chars item.print) := by
  have spacing : Leads (Ready P) (Ready P) (chars (if item.spaced then [.code "\n"] else [])) := by
    cases item.spaced with
    | false => exact .nil
    | true => exact leads_opens (by decide)
  rw [Item.print, chars_append]
  exact (Decl.leads_print plain uses selects).append spacing

theorem Decl.Plain.not_isFixed {decl : Decl} (plain : decl.Plain) :
    decl.isFixed = false := by
  cases decl with
  | verbatim => exact plain.elim
  | _ => rfl

namespace SourceFile

theorem leads_importLines {paths : List String} (unquoted : ∀ path ∈ paths, Unquoted path) :
    Leads (Ready P) (Ready P) (importLines paths).toList := by
  induction paths with
  | nil => exact .nil
  | cons path paths ih =>
    obtain ⟨first, others⟩ := List.forall_mem_cons.1 unquoted
    have spelled : (importLines (path :: paths)).toList =
        ['\t'] ++ (('"' :: (path.toList ++ ['"'])) ++ (['\n'] ++ (importLines paths).toList)) := by
      simp [importLines, String.toList_join]
    rw [spelled]
    exact (leads_opens (by decide)).append
      (((leads_literal first).imp fun _ => Sealed.toSettled).append
        ((leads_break (by decide)).append (ih others)))

theorem leads_importBlock {imports : List String} (unquoted : ∀ path ∈ imports, Unquoted path) :
    Leads (Ready P) (Ready P) (importBlock imports).toList := by
  have lines (keeps : String → Bool) :
      Leads (Ready P) (Ready P) (importLines (imports.filter keeps)).toList :=
    leads_importLines fun path member => unquoted path (List.mem_of_mem_filter member)
  rw [importBlock.eq_def]
  split
  · exact .nil
  · simp only [String.toList_append]
    refine .append (.append (.append (.append (leads_opens (by decide)) (lines _)) ?_) (lines _))
      (leads_opens (by decide))
    split
    · exact .nil
    · exact leads_opens (by decide)

theorem leads_heading {file : SourceFile} (plain : file.Plain) :
    Leads (Ready P) (Ready P) file.heading.toList := by
  have header : (generatedHeader ++ "\n").toList =
      commentLine 0 "Code generated by cdpgen. DO NOT EDIT." ++ ['\n'] := by decide
  have clause : Leads (Ready P) (Ready P)
      ("package ".toList ++ file.package.toList ++ "\n".toList) :=
    ((leads_opens (by decide)).append (leads_words plain.package)).append
      (leads_separator (by decide))
  rw [toList_heading, header, String.toList_append, String.toList_append, String.toList_append]
  exact (((leads_commentLine (by decide)).append (leads_opens (by decide))).append
    (leads_doc plain.doc)).append (clause.append (leads_importBlock plain.imports))

theorem leads_body {file : SourceFile} (plain : file.Plain)
    (uses : ∀ used ∈ file.foreign, P used.pair) (selects : ∀ pair ∈ file.selections, P pair) :
    Leads (Ready P) (Ready P) file.body.toList := by
  rw [body, toList_join]
  exact leads_flatMap fun item found => Item.leads_print (plain.items item found)
    (fun used inside => uses used (List.mem_flatMap.2 ⟨item, found, inside⟩))
    fun pair inside => selects pair (List.mem_flatMap.2 ⟨item, found, inside⟩)

theorem leads_render {file : SourceFile} (plain : file.Plain)
    (uses : ∀ used ∈ file.foreign, P used.pair) (selects : ∀ pair ∈ file.selections, P pair) :
    Leads (Ready P) (Ready P) file.render.toList := by
  -- A file without declarations is its heading; any other one has a body that is kept as it is.
  by_cases declares : file.items = []
  · rw [render, if_pos (isEmpty_of_items declares)]
    exact leads_heading plain
  · have framed := framed_body declares fun item found =>
      Decl.Plain.not_isFixed (plain.items item found)
    rw [render_of_framed framed, String.toList_append, String.toList_append]
    exact ((leads_heading plain).append (leads_opens (by decide))).append
      (leads_body plain uses selects)

/-- The text of a file holds no other qualified identifiers than its declarations do, apart from
members that are selected from variables. -/
theorem qualified_render {file : SourceFile} (plain : file.Plain) {pair : String × String}
    (member : pair ∈ qualified file.render) :
    (∃ used ∈ file.foreign, used.pair = pair) ∨ pair ∈ file.selections := by
  -- The reader keeps to what is claimed, from the start of the text to its end.
  have start : Ready (fun pair => (∃ used ∈ file.foreign, used.pair = pair) ∨
      pair ∈ file.selections) ({} : State) := ⟨rfl, nofun, nofun⟩
  have read := leads_render plain (fun used found => .inl ⟨used, found, rfl⟩)
    (fun _ => .inr) _ start
  exact read.settled.flush.found pair member

end SourceFile

end Printing

end Bindings.Go
