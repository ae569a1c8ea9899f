import Bindings.Go.NameScope
import Bindings.Go.SourceFile
import Bindings.Text.Split
import Bindings.Proofs.Threading
import Mathlib.Data.List.Nodup

/-! What a source file declares, and what it means that a scope has accepted it.

A scope that accepts a list of identifiers is the same as one that accepts them in
parts, so the identifiers of a whole package can be accounted for step by step.
-/

set_option autoImplicit false

namespace Bindings.Go

/-- What a line of source text declares in its package. The line of a method begins with the
receiver, and inner lines are indented. -/
def identOfLine? (line : List Char) : Option String :=
  match Text.after? "type ".toList line, Text.after? "func ".toList line with
  | some rest, _ => some (.ofList (rest.takeWhile (· != ' ')))
  | none, some ('(' :: _) => none
  | none, some rest => some (.ofList (rest.takeWhile (· != '(')))
  | none, none => none

def namesOfText (text : String) : List String :=
  (Text.splitWhere (· == '\n') text.toList).filterMap identOfLine?

/-- The identifiers that a declaration adds to its package. A method belongs to its receiver. -/
def Decl.names : Decl → List String
  | .type _ name _ | .synonym _ name _ | .interface _ name _ _ => [name]
  | .function f => if f.receiver.isSome then [] else [f.name]
  | .constants _ _ entries => entries.map (·.name)
  | .verbatim _ text => namesOfText text

@[simp] theorem Decl.names_type (doc : List String) (name : String) (type : TypeExpr) :
    (Decl.type doc name type).names = [name] := rfl

@[simp] theorem Decl.names_constants (doc : List String) (type : Option TypeExpr)
    (entries : List Constant) :
    (Decl.constants doc type entries).names = entries.map (·.name) := rfl

@[simp] theorem Decl.names_function (f : Function) :
    (Decl.function f).names = if f.receiver.isSome then [] else [f.name] := rfl

def Decl.typeName? : Decl → Option String
  | .type _ name _ | .synonym _ name _ | .interface _ name _ _ => some name
  | _ => none

def Function.owner? (f : Function) : Option String :=
  match f.receiver with
  | some ⟨_, .named ident⟩ | some ⟨_, .pointer (.named ident)⟩ => some ident
  | _ => none

def Decl.methodOf? (owner : String) : Decl → Option Function
  | .function f => if f.owner? = some owner then some f else none
  | _ => none

@[simp] theorem Decl.methodOf?_type (owner : String) (doc : List String) (name : String)
    (type : TypeExpr) : (Decl.type doc name type).methodOf? owner = none := rfl

@[simp] theorem Decl.methodOf?_function (owner : String) (f : Function) :
    (Decl.function f).methodOf? owner = if f.owner? = some owner then some f else none := rfl

@[simp] theorem Decl.methodOf?_constants (owner : String) (doc : List String)
    (type : Option TypeExpr) (entries : List Constant) :
    (Decl.constants doc type entries).methodOf? owner = none := rfl

def itemNames (items : List Item) : List String := items.flatMap (·.decl.names)

@[simp] theorem itemNames_nil : itemNames [] = [] := rfl

@[simp] theorem itemNames_cons (item : Item) (items : List Item) :
    itemNames (item :: items) = item.decl.names ++ itemNames items := rfl

@[simp] theorem itemNames_append (first second : List Item) :
    itemNames (first ++ second) = itemNames first ++ itemNames second := by
  simp [itemNames]

namespace SourceFile

def names (file : SourceFile) : List String := itemNames file.items

def typeNames (file : SourceFile) : List String := file.items.filterMap (·.decl.typeName?)

def declaring (file : SourceFile) (ident : String) : List Decl :=
  (file.items.map (·.decl)).filter fun decl => decl.names.contains ident

def methodsOf (file : SourceFile) (owner : String) : List Function :=
  file.items.filterMap (·.decl.methodOf? owner)

theorem mem_typeNames {file : SourceFile} {item : Item} {ident : String}
    (member : item ∈ file.items) (declares : item.decl.typeName? = some ident) :
    ident ∈ file.typeNames :=
  List.mem_filterMap.2 ⟨item, member, declares⟩

end SourceFile

private theorem filter_declaring_none {decls : List Decl} {ident : String}
    (absent : ident ∉ decls.flatMap Decl.names) :
    (decls.filter fun decl => decl.names.contains ident) = [] := by
  rw [List.filter_eq_nil_iff]
  intro decl member found
  exact absent (List.mem_flatMap.2 ⟨decl, member, by simpa using found⟩)

/-- Where no identifier is declared twice, one declaration of it is all of them. -/
theorem SourceFile.declaring_eq_singleton {file : SourceFile} {item : Item} {ident : String}
    (nodup : file.names.Nodup) (member : item ∈ file.items) (declares : ident ∈ item.decl.names) :
    file.declaring ident = [item.decl] := by
  obtain ⟨before, after, split⟩ := List.append_of_mem member
  have flat : (file.items.map (·.decl)).flatMap Decl.names =
      (before.map (·.decl)).flatMap Decl.names ++
        (item.decl.names ++ (after.map (·.decl)).flatMap Decl.names) := by
    simp [split]
  have distinct : ((file.items.map (·.decl)).flatMap Decl.names).Nodup := by
    simpa [SourceFile.names, itemNames, List.flatMap_map] using nodup
  rw [flat, List.nodup_append, List.nodup_append] at distinct
  obtain ⟨-, ⟨-, -, afterwards⟩, beforehand⟩ := distinct
  have notBefore : ident ∉ (before.map (·.decl)).flatMap Decl.names := fun found =>
    beforehand ident found ident (List.mem_append_left _ declares) rfl
  have notAfter : ident ∉ (after.map (·.decl)).flatMap Decl.names := fun found =>
    afterwards ident declares ident found rfl
  have kept : item.decl.names.contains ident = true := by simpa using declares
  rw [declaring, split, List.map_append, List.map_cons, List.filter_append, List.filter_cons]
  rw [filter_declaring_none notBefore, filter_declaring_none notAfter, if_pos kept]
  rfl

namespace NameScope

theorem declareAll_cons_eq_ok {scope last : NameScope} {ident : String} {idents : List String} :
    scope.declareAll (ident :: idents) = .ok last ↔
      ∃ next, scope.declare ident = .ok next ∧ next.declareAll idents = .ok last := by
  rw [declareAll, List.foldlM_cons, bind_eq_ok]
  rfl

theorem declareAll_singleton {scope last : NameScope} {ident : String} :
    scope.declareAll [ident] = .ok last ↔ scope.declare ident = .ok last := by
  rw [declareAll, List.foldlM_cons]
  cases scope.declare ident <;> rfl

/-- A list of identifiers is accepted exactly when its parts are, one after the other. -/
theorem declareAll_append_eq_ok {scope last : NameScope} {first second : List String} :
    scope.declareAll (first ++ second) = .ok last ↔
      ∃ next, scope.declareAll first = .ok next ∧ next.declareAll second = .ok last := by
  rw [declareAll, List.foldlM_append, bind_eq_ok]
  rfl

theorem declareAll_append {scope next last : NameScope} {first second : List String}
    (before : scope.declareAll first = .ok next) (after : next.declareAll second = .ok last) :
    scope.declareAll (first ++ second) = .ok last :=
  declareAll_append_eq_ok.2 ⟨next, before, after⟩

theorem idents_of_declareAll {scope last : NameScope} {idents : List String}
    (h : scope.declareAll idents = .ok last) : last.idents = idents.reverse ++ scope.idents := by
  induction idents generalizing scope with
  | nil => cases h; rfl
  | cons ident idents ih =>
    obtain ⟨next, declared, rest⟩ := declareAll_cons_eq_ok.1 h
    obtain ⟨-, rfl⟩ := declare_eq_ok.1 declared
    rw [ih rest, List.reverse_cons, List.append_assoc]
    rfl

theorem nodup_of_declareAll {scope last : NameScope} {idents : List String}
    (nodup : scope.idents.Nodup) (h : scope.declareAll idents = .ok last) : last.idents.Nodup := by
  induction idents generalizing scope with
  | nil => cases h; exact nodup
  | cons ident idents ih =>
    obtain ⟨next, declared, rest⟩ := declareAll_cons_eq_ok.1 h
    exact ih (nodup_of_declare nodup declared) rest

/-- What an empty scope accepts is free of repetition. -/
theorem nodup_of_declareAll_nil {scope last : NameScope} {idents : List String}
    (empty : scope.idents = []) (h : scope.declareAll idents = .ok last) : idents.Nodup := by
  have nodup := nodup_of_declareAll (by simp [empty]) h
  rw [idents_of_declareAll h, empty, List.append_nil] at nodup
  exact List.nodup_reverse.1 nodup

/-- Steps that each declare one identifier, in a scope that is part of the state, declare those of
all elements. -/
theorem declareAll_thread {σ α β : Type} {step : σ → α → Except Error (σ × β)}
    {name : α → String} (scope : σ → NameScope)
    (declares : ∀ {s x t y}, step s x = .ok (t, y) → (scope s).declare (name x) = .ok (scope t))
    {first last : σ} {xs : List α} {ys : List β} (h : thread step first xs = .ok (last, ys)) :
    (scope first).declareAll (xs.map name) = .ok (scope last) := by
  induction xs generalizing first ys with
  | nil =>
    obtain ⟨rfl, rfl⟩ := thread_nil h
    rfl
  | cons x xs ih =>
    obtain ⟨next, y, rest, hx, hrest, rfl⟩ := thread_cons h
    rw [List.map_cons]
    exact declareAll_cons_eq_ok.2 ⟨scope next, declares hx, ih hrest⟩

end NameScope

end Bindings.Go
