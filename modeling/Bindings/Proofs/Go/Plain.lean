import Bindings.Proofs.Go.Reader

/-! Trees that are printed as they are meant.

Their names are made of letters and digits, their literals do not end before the closing marks, and
their comments stay on their lines. Nothing in the printed text can be taken for something else.
-/

set_option autoImplicit false

namespace Bindings.Go

open Reader

/-- A text that neither begins a literal or a comment nor holds a point. -/
def Plain (text : String) : Prop := ∀ c ∈ text.toList, isPlain c = true

instance : DecidablePred Plain := fun text =>
  inferInstanceAs (Decidable (∀ c ∈ text.toList, isPlain c = true))

instance : DecidablePred IsWord := fun text =>
  inferInstanceAs (Decidable (text ≠ "" ∧ ∀ c ∈ text.toList, isWordChar c = true))

/-- A text that may stand between quotation marks as it is. -/
def Unquoted (text : String) : Prop := ∀ c ∈ text.toList, c ≠ '"' ∧ c ≠ '\\'

def Unmarked (text : String) : Prop := ∀ c ∈ text.toList, c ≠ '\x60'

instance : DecidablePred Unquoted := fun text =>
  inferInstanceAs (Decidable (∀ c ∈ text.toList, c ≠ '"' ∧ c ≠ '\\'))

instance : DecidablePred Unmarked := fun text =>
  inferInstanceAs (Decidable (∀ c ∈ text.toList, c ≠ '\x60'))

section Texts

variable {first second word : String}

theorem plain_append : Plain (first ++ second) ↔ Plain first ∧ Plain second := by
  rw [Plain, String.toList_append, List.forall_mem_append]
  rfl

theorem unquoted_append : Unquoted (first ++ second) ↔ Unquoted first ∧ Unquoted second := by
  rw [Unquoted, String.toList_append, List.forall_mem_append]
  rfl

theorem unmarked_append : Unmarked (first ++ second) ↔ Unmarked first ∧ Unmarked second := by
  rw [Unmarked, String.toList_append, List.forall_mem_append]
  rfl

namespace Reader.IsWord

variable (h : IsWord word)
include h

theorem plain : Plain word := fun c member => by
  rw [isPlain, h.2 c member, Bool.true_or]

theorem ne {c sign : Char} (member : c ∈ word.toList) (other : isWordChar sign = false) :
    c ≠ sign := by
  rintro rfl
  exact Bool.false_ne_true (other.symm.trans (h.2 c member))

theorem unquoted : Unquoted word :=
  fun _ member => ⟨h.ne member (by decide), h.ne member (by decide)⟩

theorem unmarked : Unmarked word := fun _ member => h.ne member (by decide)

theorem unbroken : Unbroken word := fun member => h.ne member (by decide) rfl

end Reader.IsWord

theorem Reader.IsWord.append (left : IsWord first) (right : IsWord second) :
    IsWord (first ++ second) := by
  refine ⟨fun nothing => left.1 (String.append_eq_empty_iff.1 nothing).1, ?_⟩
  rw [String.toList_append]
  exact List.forall_mem_append.2 ⟨left.2, right.2⟩

end Texts

def Expr.name? : Expr → Option String
  | .ident name => some name
  | _ => none

mutual
/-- The members that are selected from variables, each of them with its variable. -/
def Expr.selections : Expr → List (String × String)
  | .ident _ | .imported _ _ | .number _ | .text _ | .literal _ | .rawText _ => []
  | .select target name =>
    target.name?.toList.map (fun variable_ => (variable_, name)) ++ target.selections
  | .call function arguments => function.selections ++ Expr.listSelections arguments
  | .convert _ value | .spread value | .unary _ value | .paren value => value.selections
  | .binary left _ right => left.selections ++ right.selections
  | .range target low high => target.selections ++ low.selections ++ high.selections
  | .composite _ _ elements => Element.listSelections elements

def Expr.listSelections : List Expr → List (String × String)
  | [] => []
  | value :: values => value.selections ++ Expr.listSelections values

def Element.listSelections : List Element → List (String × String)
  | [] => []
  | .mk _ value :: elements => value.selections ++ Element.listSelections elements
end

def Assignment.selections (assignment : Assignment) : List (String × String) :=
  Expr.listSelections assignment.targets ++ Expr.listSelections assignment.values

mutual
def Statement.selections : Statement → List (String × String)
  | .assign assignment => assignment.selections
  | .eval value | .defer value => value.selections
  | .declare _ _ | .gap => []
  | .leave values => Expr.listSelections values
  | .cond none test body orElse =>
    test.selections ++ Statement.listSelections body ++ Statement.listSelections orElse
  | .cond (some init) test body orElse =>
    init.selections ++ test.selections ++ Statement.listSelections body ++
      Statement.listSelections orElse
  | .switch subject clauses => subject.selections ++ Clause.listSelections clauses

def Statement.listSelections : List Statement → List (String × String)
  | [] => []
  | statement :: statements => statement.selections ++ Statement.listSelections statements

def Clause.listSelections : List Clause → List (String × String)
  | [] => []
  | .mk values body :: clauses =>
    Expr.listSelections values ++ Statement.listSelections body ++ Clause.listSelections clauses
  | .default body :: clauses => Statement.listSelections body ++ Clause.listSelections clauses
end

def Body.selections : Body → List (String × String)
  | .block statements => Statement.listSelections statements
  | .brief value => value.selections

def Decl.selections : Decl → List (String × String)
  | .function f => f.body.selections
  | .type _ _ _ | .synonym _ _ _ | .interface _ _ _ _ | .constants _ _ _ | .verbatim _ _ => []

def SourceFile.selections (file : SourceFile) : List (String × String) :=
  file.items.flatMap (·.decl.selections)

mutual
def TypeExpr.Plain : TypeExpr → Prop
  | .named ident => Go.Plain ident
  | .imported package ident => IsWord package.name ∧ IsWord ident
  | .pointer target => target.Plain
  | .slice element => element.Plain
  | .struct fields => Field.AllPlain fields
  | .single field type => Go.Plain (field.getD "") ∧ type.Plain

def Field.AllPlain : List Field → Prop
  | [] => True
  | .mk doc name type tag :: fields =>
    AllUnbroken doc ∧ Go.Plain name ∧ type.Plain ∧ Unmarked (tag.getD "") ∧ Field.AllPlain fields
end

/-- Expressions whose text ends with a bracket, a mark or a selected name, so that a point behind it
belongs to the whole. -/
def Expr.isSealed : Expr → Bool
  | .ident _ | .number _ | .spread _ | .unary _ _ | .binary _ _ _ => false
  | .imported _ _ | .text _ | .literal _ | .rawText _ | .select _ _ | .call _ _ | .convert _ _
  | .paren _ | .range _ _ _ | .composite _ _ _ => true

/-- Members are selected from variables and from expressions that end with a sign. -/
def Expr.Selectable : Expr → Prop
  | .ident name => IsWord name
  | value => value.isSealed = true

mutual
def Expr.Plain : Expr → Prop
  | .ident name => Go.Plain name
  | .imported package ident => IsWord package.name ∧ IsWord ident
  | .number digits => Go.Plain digits
  | .text _ => True
  | .literal inner => Unquoted inner
  | .rawText inner => Unmarked inner
  | .select target name => target.Plain ∧ target.Selectable ∧ IsWord name
  | .call function arguments => function.Plain ∧ Expr.AllPlain arguments
  | .convert type value => type.Plain ∧ value.Plain
  | .spread value => value.Plain
  | .unary operator value => (∀ c ∈ operator.toList, isBreak c = true) ∧ value.Plain
  | .binary left operator right =>
    left.Plain ∧ (Go.Plain operator ∨ operator = "/") ∧ right.Plain
  | .paren value => value.Plain
  | .range target low high => target.Plain ∧ low.Plain ∧ high.Plain
  | .composite _ type elements => type.Plain ∧ Element.AllPlain elements

def Expr.AllPlain : List Expr → Prop
  | [] => True
  | value :: values => value.Plain ∧ Expr.AllPlain values

def Element.AllPlain : List Element → Prop
  | [] => True
  | .mk key value :: elements => Go.Plain key ∧ value.Plain ∧ Element.AllPlain elements
end

def Assignment.Plain (assignment : Assignment) : Prop :=
  Expr.AllPlain assignment.targets ∧ Expr.AllPlain assignment.values

mutual
def Statement.Plain : Statement → Prop
  | .assign assignment => assignment.Plain
  | .eval value => value.Plain
  | .declare name type => Go.Plain name ∧ type.Plain
  | .defer value => value.Plain
  | .leave values => Expr.AllPlain values
  | .cond none test body orElse =>
    test.Plain ∧ Statement.AllPlain body ∧ Statement.AllPlain orElse
  | .cond (some init) test body orElse =>
    init.Plain ∧ test.Plain ∧ Statement.AllPlain body ∧
      Statement.AllPlain orElse
  | .switch subject clauses => subject.Plain ∧ Clause.AllPlain clauses
  | .gap => True

def Statement.AllPlain : List Statement → Prop
  | [] => True
  | statement :: statements => statement.Plain ∧ Statement.AllPlain statements

def Clause.AllPlain : List Clause → Prop
  | [] => True
  | .mk values body :: clauses =>
    Expr.AllPlain values ∧ Statement.AllPlain body ∧ Clause.AllPlain clauses
  | .default body :: clauses => Statement.AllPlain body ∧ Clause.AllPlain clauses
end

def Param.Plain (param : Param) : Prop := Go.Plain (param.name.getD "") ∧ param.type.Plain

structure Signature.Plain (signature : Signature) : Prop where
  params : ∀ param ∈ signature.params, param.Plain
  results : ∀ param ∈ signature.results, param.Plain

def Body.Plain : Body → Prop
  | .block statements => Statement.AllPlain statements
  | .brief value => value.Plain

structure Function.Plain (f : Function) : Prop where
  doc : AllUnbroken f.doc
  receiver : ∀ receiver ∈ f.receiver, receiver.Plain
  name : Go.Plain f.name
  signature : f.signature.Plain
  body : f.body.Plain

def Member.Plain : Member → Prop
  | .method doc name signature => AllUnbroken doc ∧ Go.Plain name ∧ signature.Plain
  | .embedded type => type.Plain

/-- Fixed source text is not looked into. -/
def Decl.Plain : Decl → Prop
  | .type doc name target => AllUnbroken doc ∧ Go.Plain name ∧ target.Plain
  | .synonym doc name target => AllUnbroken doc ∧ Go.Plain name ∧ target.Plain
  | .interface doc name _ members =>
    AllUnbroken doc ∧ Go.Plain name ∧ ∀ member ∈ members, member.Plain
  | .function f => f.Plain
  | .constants doc target entries =>
    AllUnbroken doc ∧ (∀ expr ∈ target, expr.Plain) ∧ ∀ entry ∈ entries, Go.Plain entry.name
  | .verbatim _ _ => False

structure SourceFile.Plain (file : SourceFile) : Prop where
  doc : AllUnbroken file.doc
  package : Go.Plain file.package
  imports : ∀ path ∈ file.imports, Unquoted path
  items : ∀ item ∈ file.items, item.decl.Plain

attribute [simp] TypeExpr.Plain Field.AllPlain Expr.Plain Expr.AllPlain Element.AllPlain
  Statement.Plain Statement.AllPlain Clause.AllPlain Body.Plain

@[simp] theorem TypeExpr.plain_bytes : TypeExpr.bytes.Plain := show Go.Plain "byte" by decide

@[simp] theorem Expr.plain_invoke {target : Expr} {method : String} {arguments : List Expr} :
    (target.invoke method arguments).Plain ↔
      (target.Plain ∧ target.Selectable ∧ IsWord method) ∧
        Expr.AllPlain arguments := by
  simp [Expr.invoke]

@[simp] theorem Expr.selectable_ident {name : String} :
    (Expr.ident name).Selectable ↔ IsWord name := Iff.rfl

@[simp] theorem Expr.selectable_invoke {target : Expr} {method : String} {arguments : List Expr} :
    (target.invoke method arguments).Selectable := rfl

@[simp] theorem Expr.plain_isNotNil {value : Expr} :
    value.isNotNil.Plain ↔ value.Plain := by
  simp +decide [Expr.isNotNil]

@[simp] theorem Expr.plain_address {value : Expr} :
    value.address.Plain ↔ value.Plain := by
  simp +decide [Expr.address]

@[simp] theorem Assignment.plain_mk {targets values : List Expr} {defines : Bool} :
    (⟨targets, defines, values⟩ : Assignment).Plain ↔
      Expr.AllPlain targets ∧ Expr.AllPlain values := Iff.rfl

@[simp] theorem Statement.plain_define {name : String} {value : Expr} :
    (Statement.define name value).Plain ↔ Go.Plain name ∧ value.Plain := by
  simp [Statement.define]

@[simp] theorem Statement.plain_set {target value : Expr} :
    (Statement.set target value).Plain ↔ target.Plain ∧ value.Plain := by
  simp [Statement.set]

@[simp] theorem Statement.plain_when {test : Expr} {body : List Statement} :
    (Statement.when test body).Plain ↔
      test.Plain ∧ Statement.AllPlain body := by
  simp [Statement.when]

@[simp] theorem Param.plain_mk {name : String} {type : TypeExpr} :
    (⟨some name, type⟩ : Param).Plain ↔ Go.Plain name ∧ type.Plain := Iff.rfl

@[simp] theorem Param.plain_unnamed {type : TypeExpr} :
    (Param.unnamed type).Plain ↔ type.Plain :=
  and_iff_right (show Go.Plain "" by decide)

theorem Expr.allPlain_iff {values : List Expr} :
    Expr.AllPlain values ↔ ∀ value ∈ values, value.Plain := by
  induction values with
  | nil => simp
  | cons value values ih => rw [Expr.AllPlain, ih, List.forall_mem_cons]

theorem Statement.allPlain_iff {statements : List Statement} :
    Statement.AllPlain statements ↔ ∀ statement ∈ statements, statement.Plain := by
  induction statements with
  | nil => simp
  | cons statement statements ih => rw [Statement.AllPlain, ih, List.forall_mem_cons]

@[simp] theorem Statement.allPlain_append {first second : List Statement} :
    Statement.AllPlain (first ++ second) ↔
      Statement.AllPlain first ∧ Statement.AllPlain second := by
  rw [allPlain_iff, allPlain_iff, allPlain_iff, List.forall_mem_append]

theorem Decl.plain_type {doc : List String} {name : String} {target : TypeExpr} :
    (Decl.type doc name target).Plain ↔
      AllUnbroken doc ∧ Go.Plain name ∧ target.Plain := Iff.rfl

theorem Decl.plain_constants {doc : List String} {target : TypeExpr} {entries : List Constant} :
    (Decl.constants doc (some target) entries).Plain ↔
      AllUnbroken doc ∧ target.Plain ∧ ∀ entry ∈ entries, Go.Plain entry.name := by
  simp [Decl.Plain]

theorem Decl.plain_function {f : Function} : (Decl.function f).Plain ↔
    (AllUnbroken f.doc ∧ ∀ receiver ∈ f.receiver, receiver.Plain) ∧ Go.Plain f.name ∧
      ((∀ param ∈ f.signature.params, param.Plain) ∧
        ∀ param ∈ f.signature.results, param.Plain) ∧ f.body.Plain :=
  ⟨fun ⟨doc, receiver, name, ⟨params, results⟩, body⟩ =>
      ⟨⟨doc, receiver⟩, name, ⟨params, results⟩, body⟩,
    fun ⟨⟨doc, receiver⟩, name, ⟨params, results⟩, body⟩ =>
      ⟨doc, receiver, name, ⟨params, results⟩, body⟩⟩

end Bindings.Go
