import Bindings.Proofs.Go.Structs

/-! The identifiers of other packages that a source file uses.

They are read off the declarations, where each of them carries its package. In the printed text each
stands in the code, after the name of its package, and in no comment.
-/

set_option autoImplicit false

namespace Bindings.Go

structure QualifiedIdent where
  package : Package
  ident : String
  deriving DecidableEq

def QualifiedIdent.path (used : QualifiedIdent) : String := used.package.path

def QualifiedIdent.piece (used : QualifiedIdent) : Piece :=
  .code (used.package.name ++ "." ++ used.ident)

mutual
def TypeExpr.foreign : TypeExpr → List QualifiedIdent
  | .named _ => []
  | .imported package ident => [⟨package, ident⟩]
  | .pointer target => target.foreign
  | .slice element => element.foreign
  | .struct fields => Field.listForeign fields
  | .single _ type => type.foreign

def Field.listForeign : List Field → List QualifiedIdent
  | [] => []
  | .mk _ _ type _ :: fields => type.foreign ++ Field.listForeign fields
end

mutual
def Expr.foreign : Expr → List QualifiedIdent
  | .ident _ => []
  | .imported package ident => [⟨package, ident⟩]
  | .number _ => []
  | .text _ => []
  | .literal _ => []
  | .rawText _ => []
  | .select target _ => target.foreign
  | .call function arguments => function.foreign ++ Expr.listForeign arguments
  | .convert type value => type.foreign ++ value.foreign
  | .spread value => value.foreign
  | .unary _ value => value.foreign
  | .binary left _ right => left.foreign ++ right.foreign
  | .paren value => value.foreign
  | .range target low high => target.foreign ++ low.foreign ++ high.foreign
  | .composite _ type elements => type.foreign ++ Element.listForeign elements

def Expr.listForeign : List Expr → List QualifiedIdent
  | [] => []
  | value :: values => value.foreign ++ Expr.listForeign values

def Element.listForeign : List Element → List QualifiedIdent
  | [] => []
  | .mk _ value :: elements => value.foreign ++ Element.listForeign elements
end

def Assignment.foreign (assignment : Assignment) : List QualifiedIdent :=
  Expr.listForeign assignment.targets ++ Expr.listForeign assignment.values

mutual
def Statement.foreign : Statement → List QualifiedIdent
  | .assign assignment => assignment.foreign
  | .eval value => value.foreign
  | .declare _ type => type.foreign
  | .defer value => value.foreign
  | .leave values => Expr.listForeign values
  | .cond none test body orElse =>
    test.foreign ++ Statement.listForeign body ++ Statement.listForeign orElse
  | .cond (some init) test body orElse =>
    init.foreign ++ test.foreign ++ Statement.listForeign body ++ Statement.listForeign orElse
  | .switch subject clauses => subject.foreign ++ Clause.listForeign clauses
  | .gap => []

def Statement.listForeign : List Statement → List QualifiedIdent
  | [] => []
  | statement :: statements => statement.foreign ++ Statement.listForeign statements

def Clause.listForeign : List Clause → List QualifiedIdent
  | [] => []
  | .mk values body :: clauses =>
    Expr.listForeign values ++ Statement.listForeign body ++ Clause.listForeign clauses
  | .default body :: clauses => Statement.listForeign body ++ Clause.listForeign clauses
end

def Param.listForeign (params : List Param) : List QualifiedIdent :=
  params.flatMap (·.type.foreign)

def Signature.foreign (signature : Signature) : List QualifiedIdent :=
  Param.listForeign signature.params ++ Param.listForeign signature.results

def Body.foreign : Body → List QualifiedIdent
  | .block statements => Statement.listForeign statements
  | .brief value => value.foreign

def Function.foreign (f : Function) : List QualifiedIdent :=
  Param.listForeign f.receiver.toList ++ f.signature.foreign ++ f.body.foreign

def Member.foreign : Member → List QualifiedIdent
  | .method _ _ signature => signature.foreign
  | .embedded type => type.foreign

def Decl.isFixed : Decl → Bool
  | .verbatim _ _ => true
  | _ => false

/-- Fixed text is not read: it does not say which package a name stands for. -/
def Decl.foreign : Decl → List QualifiedIdent
  | .type _ _ target => target.foreign
  | .synonym _ _ target => target.foreign
  | .interface _ _ _ members => members.flatMap Member.foreign
  | .function f => f.foreign
  | .constants _ target entries => entries.flatMap fun _ => target.toList.flatMap TypeExpr.foreign
  | .verbatim _ _ => []

def SourceFile.foreign (file : SourceFile) : List QualifiedIdent :=
  file.items.flatMap (·.decl.foreign)

attribute [simp] TypeExpr.foreign Field.listForeign Expr.foreign Expr.listForeign
  Element.listForeign Assignment.foreign Statement.foreign Statement.listForeign Clause.listForeign
  Param.listForeign

@[simp] theorem TypeExpr.foreign_bytes : TypeExpr.bytes.foreign = [] := rfl

@[simp] theorem Expr.foreign_invoke (target : Expr) (method : String) (arguments : List Expr) :
    (target.invoke method arguments).foreign = target.foreign ++ Expr.listForeign arguments := by
  simp [Expr.invoke]

@[simp] theorem Expr.foreign_isNotNil (value : Expr) : value.isNotNil.foreign = value.foreign := by
  simp [Expr.isNotNil]

@[simp] theorem Expr.foreign_address (value : Expr) : value.address.foreign = value.foreign := by
  simp [Expr.address]

@[simp] theorem Statement.foreign_define (name : String) (value : Expr) :
    (Statement.define name value).foreign = value.foreign := by
  simp [Statement.define]

@[simp] theorem Statement.foreign_set (target value : Expr) :
    (Statement.set target value).foreign = target.foreign ++ value.foreign := by
  simp [Statement.set]

@[simp] theorem Statement.foreign_when (test : Expr) (body : List Statement) :
    (Statement.when test body).foreign = test.foreign ++ Statement.listForeign body := by
  simp [Statement.when]

@[simp] theorem Decl.foreign_function (f : Function) :
    (Decl.function f).foreign = f.foreign := rfl

@[simp] theorem Decl.foreign_type (doc : List String) (name : String) (type : TypeExpr) :
    (Decl.type doc name type).foreign = type.foreign := rfl

@[simp] theorem Decl.foreign_constants (doc : List String) (type : TypeExpr)
    (entries : List Constant) :
    (Decl.constants doc (some type) entries).foreign = entries.flatMap fun _ => type.foreign := by
  simp [Decl.foreign]

theorem Expr.listForeign_eq_flatMap (values : List Expr) :
    Expr.listForeign values = values.flatMap Expr.foreign := by
  induction values with
  | nil => rfl
  | cons value values ih => rw [Expr.listForeign, ih, List.flatMap_cons]

theorem Element.listForeign_eq_flatMap (elements : List Element) :
    Element.listForeign elements = elements.flatMap (·.value.foreign) := by
  induction elements with
  | nil => rfl
  | cons element elements ih =>
    cases element
    rw [Element.listForeign, ih, List.flatMap_cons]
    rfl

theorem Statement.listForeign_eq_flatMap (statements : List Statement) :
    Statement.listForeign statements = statements.flatMap Statement.foreign := by
  induction statements with
  | nil => rfl
  | cons statement statements ih => rw [Statement.listForeign, ih, List.flatMap_cons]

@[simp] theorem Statement.listForeign_append (first second : List Statement) :
    Statement.listForeign (first ++ second) =
      Statement.listForeign first ++ Statement.listForeign second := by
  simp only [Statement.listForeign_eq_flatMap, List.flatMap_append]

theorem Field.listForeign_eq_flatMap (fields : List Field) :
    Field.listForeign fields = fields.flatMap fun field => field.type.foreign := by
  induction fields with
  | nil => rfl
  | cons field fields ih =>
    cases field
    rw [Field.listForeign, ih, List.flatMap_cons]
    rfl

section Printing

variable {used : QualifiedIdent}

theorem mem_separate (separator : String) {piece : Piece} {pieces : List Piece}
    {parts : List (List Piece)} (inside : piece ∈ pieces) (part : pieces ∈ parts) :
    piece ∈ separate separator parts := by
  -- No separator follows the last part, which is a case of its own.
  fun_induction separate separator parts with
  | case1 => cases part
  | case2 only => rwa [← List.mem_singleton.1 part]
  | case3 first rest nonempty ih =>
    rw [List.mem_append, List.mem_cons]
    rcases List.mem_cons.1 part with rfl | part
    · exact .inl inside
    · exact .inr (.inr (ih part))

-- From here on there is one case for each form of the syntax, in the shape that it is printed in.
mutual
theorem TypeExpr.piece_mem_print : ∀ (type : TypeExpr), used ∈ type.foreign →
    used.piece ∈ type.print
  | .named _, member => by cases member
  | .imported package ident, member => by
    rw [List.mem_singleton.1 member]
    exact List.mem_singleton_self _
  | .pointer target, member => List.mem_cons_of_mem _ (target.piece_mem_print member)
  | .slice element, member => List.mem_cons_of_mem _ (element.piece_mem_print member)
  | .struct fields, member => by
    have inner := Field.piece_mem_printAll fields member
    simp [TypeExpr.print, inner]
  | .single (some _) type, member => by
    have inner := type.piece_mem_print member
    simp [TypeExpr.print, inner]
  | .single none type, member => by
    have inner := type.piece_mem_print member
    simp [TypeExpr.print, inner]

theorem Field.piece_mem_printAll : ∀ (fields : List Field), used ∈ Field.listForeign fields →
    used.piece ∈ Field.printAll fields
  | [], member => by cases member
  | .mk doc name type tag :: fields, member => by
    rcases List.mem_append.1 member with member | member
    · have inner := type.piece_mem_print member
      simp [Field.printAll, inner]
    · have inner := Field.piece_mem_printAll fields member
      simp [Field.printAll, inner]
end

mutual
theorem Expr.piece_mem_print : ∀ (value : Expr) (depth : Nat), used ∈ value.foreign →
    used.piece ∈ value.print depth
  | .ident _, _, member | .number _, _, member | .text _, _, member | .literal _, _, member
  | .rawText _, _, member => by cases member
  | .imported package ident, _, member => by
    rw [List.mem_singleton.1 member]
    exact List.mem_singleton_self _
  | .select target _, depth, member =>
    List.mem_append_left _ (target.piece_mem_print depth member)
  | .call function arguments, depth, member => by
    rcases List.mem_append.1 member with member | member
    · exact List.mem_append_left _ (function.piece_mem_print depth member)
    · obtain ⟨pieces, part, inside⟩ := Expr.exists_mem_printAll arguments depth member
      have inner := mem_separate ", " inside part
      simp [Expr.print, inner]
  | .convert type value, depth, member => by
    rcases List.mem_append.1 member with member | member
    · exact List.mem_append_left _ (type.piece_mem_print member)
    · have inner := value.piece_mem_print depth member
      simp [Expr.print, inner]
  | .spread value, depth, member => List.mem_append_left _ (value.piece_mem_print depth member)
  | .unary _ value, depth, member => List.mem_cons_of_mem _ (value.piece_mem_print depth member)
  | .binary left _ right, depth, member => by
    rcases List.mem_append.1 member with member | member
    · exact List.mem_append_left _ (left.piece_mem_print depth member)
    · have inner := right.piece_mem_print depth member
      simp [Expr.print, inner]
  | .paren value, depth, member => by
    have inner := value.piece_mem_print depth member
    simp [Expr.print, inner]
  | .range target low high, depth, member => by
    rcases List.mem_append.1 member with member | member
    · rcases List.mem_append.1 member with member | member
      · have inner := target.piece_mem_print depth member
        simp [Expr.print, inner]
      · have inner := low.piece_mem_print depth member
        simp [Expr.print, inner]
    · have inner := high.piece_mem_print depth member
      simp [Expr.print, inner]
  | .composite tall type elements, depth, member => by
    rcases List.mem_append.1 member with typed | held
    · have inner := type.piece_mem_print typed
      cases tall <;> simp [Expr.print, inner]
    -- A tall literal has each element on a line of its own, one step further in.
    · cases tall with
      | false =>
        obtain ⟨pieces, part, inside⟩ := Element.exists_mem_printAll elements depth held
        have inner := mem_separate ", " inside part
        simp [Expr.print, inner]
      | true =>
        obtain ⟨pieces, part, inside⟩ := Element.exists_mem_printAll elements (depth + 1) held
        have inner : used.piece ∈ (Element.printAll (depth + 1) elements).flatMap fun element =>
            .code (tabs (depth + 1)) :: (element ++ [.code ",\n"]) :=
          List.mem_flatMap.2
            ⟨pieces, part, List.mem_cons_of_mem _ (List.mem_append_left _ inside)⟩
        simp only [Expr.print, List.mem_append, List.mem_cons, inner, true_or, or_true]

theorem Expr.exists_mem_printAll : ∀ (values : List Expr) (depth : Nat),
    used ∈ Expr.listForeign values → ∃ pieces ∈ Expr.printAll depth values, used.piece ∈ pieces
  | [], _, member => by cases member
  | value :: values, depth, member => by
    rcases List.mem_append.1 member with member | member
    · exact ⟨_, List.mem_cons_self, value.piece_mem_print depth member⟩
    · obtain ⟨pieces, part, inside⟩ := Expr.exists_mem_printAll values depth member
      exact ⟨pieces, List.mem_cons_of_mem _ part, inside⟩

theorem Element.exists_mem_printAll : ∀ (elements : List Element) (depth : Nat),
    used ∈ Element.listForeign elements →
      ∃ pieces ∈ Element.printAll depth elements, used.piece ∈ pieces
  | [], _, member => by cases member
  | .mk _ value :: elements, depth, member => by
    rcases List.mem_append.1 member with member | member
    · exact ⟨_, List.mem_cons_self,
        List.mem_cons_of_mem _ (value.piece_mem_print depth member)⟩
    · obtain ⟨pieces, part, inside⟩ := Element.exists_mem_printAll elements depth member
      exact ⟨pieces, List.mem_cons_of_mem _ part, inside⟩
end

theorem Expr.piece_mem_separate (depth : Nat) (values : List Expr)
    (member : used ∈ Expr.listForeign values) :
    used.piece ∈ separate ", " (Expr.printAll depth values) := by
  obtain ⟨pieces, part, inside⟩ := Expr.exists_mem_printAll values depth member
  exact mem_separate ", " inside part

theorem Assignment.piece_mem_print (assignment : Assignment) (depth : Nat)
    (member : used ∈ assignment.foreign) : used.piece ∈ assignment.print depth := by
  rcases List.mem_append.1 member with member | member
  · exact List.mem_append_left _ (Expr.piece_mem_separate depth _ member)
  · exact List.mem_append_right _ (List.mem_cons_of_mem _ (Expr.piece_mem_separate depth _ member))

mutual
theorem Statement.piece_mem_print : ∀ (statement : Statement) (depth : Nat),
    used ∈ statement.foreign → used.piece ∈ statement.print depth
  | .assign assignment, depth, member => by
    have inner := assignment.piece_mem_print depth member
    simp [Statement.print, inner]
  | .eval value, depth, member => by
    have inner := value.piece_mem_print depth member
    simp [Statement.print, inner]
  | .declare _ type, _, member => by
    have inner := type.piece_mem_print member
    simp [Statement.print, inner]
  | .defer value, depth, member => by
    have inner := value.piece_mem_print depth member
    simp [Statement.print, inner]
  | .leave [], _, member => by cases member
  | .leave (first :: rest), depth, member => by
    have inner := Expr.piece_mem_separate depth (first :: rest) member
    simp [Statement.print, inner]
  | .cond none test body orElse, depth, member => by
    rcases List.mem_append.1 member with member | member
    · rcases List.mem_append.1 member with member | member
      · have inner := test.piece_mem_print depth member
        simp [Statement.print, inner]
      · have inner := Statement.piece_mem_printAll body (depth + 1) member
        simp [Statement.print, inner]
    · have inner := Statement.piece_mem_printElse orElse depth member
      simp [Statement.print, inner]
  | .cond (some init) test body orElse, depth, member => by
    rcases List.mem_append.1 member with member | member
    · rcases List.mem_append.1 member with member | member
      · rcases List.mem_append.1 member with member | member
        · have inner := init.piece_mem_print depth member
          simp [Statement.print, inner]
        · have inner := test.piece_mem_print depth member
          simp [Statement.print, inner]
      · have inner := Statement.piece_mem_printAll body (depth + 1) member
        simp [Statement.print, inner]
    · have inner := Statement.piece_mem_printElse orElse depth member
      simp [Statement.print, inner]
  | .switch subject clauses, depth, member => by
    rcases List.mem_append.1 member with member | member
    · have inner := subject.piece_mem_print depth member
      simp [Statement.print, inner]
    · have inner := Clause.piece_mem_printAll clauses depth member
      simp [Statement.print, inner]
  | .gap, _, member => by cases member

theorem Statement.piece_mem_printAll : ∀ (statements : List Statement) (depth : Nat),
    used ∈ Statement.listForeign statements → used.piece ∈ Statement.printAll depth statements
  | [], _, member => by cases member
  | first :: rest, depth, member => by
    rcases List.mem_append.1 member with member | member
    · exact List.mem_append_left _ (first.piece_mem_print depth member)
    · exact List.mem_append_right _ (Statement.piece_mem_printAll rest depth member)

theorem Statement.piece_mem_printElse : ∀ (statements : List Statement) (depth : Nat),
    used ∈ Statement.listForeign statements → used.piece ∈ Statement.printElse depth statements
  | [], _, member => by cases member
  | first :: rest, depth, member => by
    rcases List.mem_append.1 member with member | member
    · have inner := first.piece_mem_print (depth + 1) member
      simp [Statement.printElse, inner]
    · have inner := Statement.piece_mem_printAll rest (depth + 1) member
      simp [Statement.printElse, inner]

theorem Clause.piece_mem_printAll : ∀ (clauses : List Clause) (depth : Nat),
    used ∈ Clause.listForeign clauses → used.piece ∈ Clause.printAll depth clauses
  | [], _, member => by cases member
  | .mk values body :: rest, depth, member => by
    rcases List.mem_append.1 member with member | member
    · rcases List.mem_append.1 member with member | member
      · have inner := Expr.piece_mem_separate depth values member
        simp [Clause.printAll, inner]
      · have inner := Statement.piece_mem_printAll body (depth + 1) member
        simp [Clause.printAll, inner]
    · have inner := Clause.piece_mem_printAll rest depth member
      simp [Clause.printAll, inner]
  | .default body :: rest, depth, member => by
    rcases List.mem_append.1 member with member | member
    · have inner := Statement.piece_mem_printAll body (depth + 1) member
      simp [Clause.printAll, inner]
    · have inner := Clause.piece_mem_printAll rest depth member
      simp [Clause.printAll, inner]
end

theorem Param.piece_mem_print (param : Param) (member : used ∈ param.type.foreign) :
    used.piece ∈ param.print := by
  have inner := param.type.piece_mem_print member
  rw [Param.print]
  split
  · exact List.mem_cons_of_mem _ inner
  · exact inner

theorem piece_mem_printParams {params : List Param} (member : used ∈ Param.listForeign params) :
    used.piece ∈ printParams params := by
  obtain ⟨param, found, inside⟩ := List.mem_flatMap.1 member
  have inner := mem_separate ", " (param.piece_mem_print inside)
    (List.mem_map_of_mem found)
  exact List.mem_cons_of_mem _ (List.mem_append_left _ inner)

theorem piece_mem_printResults {results : List Param} (member : used ∈ Param.listForeign results) :
    used.piece ∈ printResults results := by
  -- A single result without a name stands without parentheses.
  rw [printResults.eq_def]
  split
  · cases member
  · next type =>
    have only : used ∈ type.foreign := by simpa using member
    exact List.mem_cons_of_mem _ (type.piece_mem_print only)
  · exact List.mem_cons_of_mem _ (piece_mem_printParams member)

theorem Signature.piece_mem_print (signature : Signature) (member : used ∈ signature.foreign) :
    used.piece ∈ signature.print := by
  rcases List.mem_append.1 member with member | member
  · exact List.mem_append_left _ (piece_mem_printParams member)
  · exact List.mem_append_right _ (piece_mem_printResults member)

theorem Body.piece_mem_print (body : Body) (member : used ∈ body.foreign) :
    used.piece ∈ body.print := by
  cases body with
  | block statements =>
    have inner := Statement.piece_mem_printAll statements 1 member
    simp [Body.print, inner]
  | brief value =>
    have inner := value.piece_mem_print 0 member
    simp [Body.print, inner]

theorem Function.piece_mem_print (f : Function) (member : used ∈ f.foreign) :
    used.piece ∈ f.print := by
  rcases List.mem_append.1 member with member | member
  · rcases List.mem_append.1 member with member | member
    · cases receiver : f.receiver with
      | none =>
        rw [receiver] at member
        cases member
      | some param =>
        rw [receiver] at member
        have inner := piece_mem_printParams member
        simp only [Option.toList_some] at inner
        simp [Function.print, receiver, inner]
    · have inner := f.signature.piece_mem_print member
      simp [Function.print, inner]
  · have inner := f.body.piece_mem_print member
    simp [Function.print, inner]

theorem Member.piece_mem_print (member : Member) (uses : used ∈ member.foreign) :
    used.piece ∈ member.print := by
  cases member with
  | method doc name signature =>
    have inner := signature.piece_mem_print uses
    simp [Member.print, inner]
  | embedded target =>
    have inner := target.piece_mem_print uses
    simp [Member.print, inner]

theorem Decl.piece_mem_print (decl : Decl) (member : used ∈ decl.foreign) :
    used.piece ∈ decl.print := by
  cases decl with
  | type doc name target =>
    have inner := target.piece_mem_print member
    simp [Decl.print, inner]
  | synonym doc name target =>
    have inner := target.piece_mem_print member
    simp [Decl.print, inner]
  | interface doc name spaced members =>
    obtain ⟨method, found, inside⟩ := List.mem_flatMap.1 member
    have inner := mem_separate (if spaced then "\n" else "")
      (method.piece_mem_print inside) (List.mem_map_of_mem found)
    simp [Decl.print, inner]
  | function f => exact f.piece_mem_print member
  | constants doc target entries =>
    obtain ⟨entry, found, inside⟩ := List.mem_flatMap.1 member
    have inner : used.piece ∈ entry.print target := by
      obtain ⟨target, rfl, uses⟩ : ∃ found, target = some found ∧ used ∈ found.foreign := by
        simpa using inside
      have inner := target.piece_mem_print uses
      simp [Constant.print, inner]
    have listed := List.mem_flatMap.2 ⟨entry, found, inner⟩
    simp only [Decl.print, List.mem_append, List.mem_cons, listed, true_or, or_true]
  | verbatim names text => cases member

/-- What a file uses of other packages stands in its code, each time after the name of the package;
and code is no comment. -/
theorem SourceFile.piece_mem_print (file : SourceFile) (member : used ∈ file.foreign) :
    used.piece ∈ file.items.flatMap Item.print := by
  obtain ⟨item, found, inside⟩ := List.mem_flatMap.1 member
  exact List.mem_flatMap.2
    ⟨item, found, List.mem_append_left _ (item.decl.piece_mem_print inside)⟩

end Printing

/-- A file whose imports are exact: a path is among them just when an identifier of its package is
used in the code. No declaration is fixed text, so none is left out. -/
structure SourceFile.Exact (file : SourceFile) : Prop where
  imports : ∀ path, path ∈ file.imports ↔
    ∃ used ∈ file.foreign, used.path = path ∧ used.piece ∈ file.items.flatMap Item.print
  explicit : ∀ item ∈ file.items, item.decl.isFixed = false

end Bindings.Go
