import Bindings.Proofs.Go.Declarations
import Bindings.Proofs.Go.Structs

/-! What a type holds by value.

A struct holds the types of its fields, and a defined type the one on its right. A pointer or a slice
has a size of its own, so nothing is held through it.
-/

set_option autoImplicit false

namespace Bindings.Go

/-- A defined type, by the path of its package and its identifier there. -/
structure TypeName where
  path : String
  ident : String
  deriving DecidableEq

mutual
/-- The types that a type in the package of a path holds by value. -/
def TypeExpr.held (path : String) : TypeExpr → List TypeName
  | .named ident => [⟨path, ident⟩]
  | .imported package ident => [⟨package.path, ident⟩]
  | .pointer _ => []
  | .slice _ => []
  | .struct fields => Field.listHeld path fields
  | .single _ type => type.held path

def Field.listHeld (path : String) : List Field → List TypeName
  | [] => []
  | .mk _ _ type _ :: fields => type.held path ++ Field.listHeld path fields
end

section Held
variable {path ident : String} {target : TypeName}

@[simp] theorem TypeExpr.held_pointer (type : TypeExpr) : (TypeExpr.pointer type).held path = [] := by
  rw [held]

@[simp] theorem TypeExpr.held_slice (type : TypeExpr) : (TypeExpr.slice type).held path = [] := by
  rw [held]

@[simp] theorem TypeExpr.held_bytes : TypeExpr.bytes.held path = [] := by
  rw [bytes, held_slice]

theorem TypeExpr.mem_held_named : target ∈ (TypeExpr.named ident).held path ↔
    target = ⟨path, ident⟩ := by
  rw [held, List.mem_singleton]

theorem TypeExpr.mem_held_imported {package : Package} :
    target ∈ (TypeExpr.imported package ident).held path ↔ target = ⟨package.path, ident⟩ := by
  rw [held, List.mem_singleton]

theorem TypeExpr.mem_held_struct {fields : List Field} :
    target ∈ (TypeExpr.struct fields).held path ↔
      ∃ field ∈ fields, target ∈ field.type.held path := by
  rw [held]
  induction fields with
  | nil => simp [Field.listHeld]
  | cons field fields ih =>
    cases field
    rw [Field.listHeld, List.mem_append, ih, List.exists_mem_cons_iff, Field.type]

end Held

def typeOfWord (word : List Char) : TypeExpr :=
  match word with
  | '*' :: target => .pointer (.named (.ofList target))
  | _ =>
    match Text.splitOnce? '.' word with
    | some (package, ident) => .imported ⟨.ofList package, .ofList package⟩ (.ofList ident)
    | none => .named (.ofList word)

/-- The field in a line of source text; an embedded one has a type only. The keyword of a channel is
taken for its type. -/
def fieldOfLine? (line : List Char) : Option Field :=
  let given := line.dropWhile (· == '\t')
  let name := given.takeWhile (· != ' ')
  let type := ((given.drop name.length).dropWhile (· == ' ')).takeWhile (· != ' ')
  if name.isEmpty then none
  else some (.mk [] (.ofList name) (typeOfWord (if type.isEmpty then name else type)) none)

def definitionsOfLines : List (List Char) → List (String × TypeExpr)
  | [] => []
  | line :: lines =>
    match Text.after? "type ".toList line with
    | some rest =>
      let name := rest.takeWhile (· != ' ')
      let right := (rest.drop name.length).drop 1
      let type : TypeExpr :=
        if right = "struct \x7b".toList then
          .struct ((lines.takeWhile (· != ['\x7d'])).filterMap fieldOfLine?)
        else typeOfWord right
      (.ofList name, type) :: definitionsOfLines lines
    | none => definitionsOfLines lines

/-- The types that a declaration defines, each with its right side. An interface holds nothing by
value. -/
def Decl.definitions : Decl → List (String × TypeExpr)
  | .type _ name expr | .synonym _ name expr => [(name, expr)]
  | .interface _ _ _ _ | .function _ | .constants _ _ _ => []
  | .verbatim _ text => definitionsOfLines (Text.splitWhere (· == '\n') text.toList)

@[simp] theorem Decl.definitions_type (doc : List String) (name : String) (type : TypeExpr) :
    (Decl.type doc name type).definitions = [(name, type)] := rfl

@[simp] theorem Decl.definitions_function (f : Function) :
    (Decl.function f).definitions = [] := rfl

@[simp] theorem Decl.definitions_constants (doc : List String) (type : Option TypeExpr)
    (entries : List Constant) : (Decl.constants doc type entries).definitions = [] := rfl

def SourceFile.definitions (file : SourceFile) : List (String × TypeExpr) :=
  file.items.flatMap (·.decl.definitions)

theorem definitionsOfLines_names {lines : List (List Char)} {ident : String} {type : TypeExpr}
    (defined : (ident, type) ∈ definitionsOfLines lines) :
    ident ∈ lines.filterMap identOfLine? := by
  induction lines with
  | nil => cases defined
  | cons line lines ih =>
    rw [definitionsOfLines] at defined
    rw [List.filterMap_cons, identOfLine?]
    cases found : Text.after? "type ".toList line with
    | none =>
      rw [found] at defined
      have later := ih defined
      split <;> simp_all
    | some rest =>
      rw [found] at defined
      rcases List.mem_cons.1 defined with same | later
      · cases same
        exact List.mem_cons_self
      · exact List.mem_cons_of_mem _ (ih later)

theorem Decl.mem_names_of_definition {decl : Decl} {ident : String} {type : TypeExpr}
    (defined : (ident, type) ∈ decl.definitions) : ident ∈ decl.names := by
  cases decl with
  | type | synonym =>
    cases List.mem_singleton.1 defined
    exact List.mem_cons_self
  | interface | function | constants => cases defined
  | verbatim names text => exact definitionsOfLines_names defined

theorem SourceFile.mem_names_of_definition {file : SourceFile} {ident : String} {type : TypeExpr}
    (defined : (ident, type) ∈ file.definitions) : ident ∈ file.names := by
  obtain ⟨item, member, defines⟩ := List.mem_flatMap.1 defined
  exact List.mem_flatMap.2 ⟨item, member, Decl.mem_names_of_definition defines⟩

/-- The only declaration of an identifier also has its only definition. -/
theorem SourceFile.definition_of_declaring {file : SourceFile} {decl : Decl} {ident : String}
    {type : TypeExpr} (declared : file.declaring ident = [decl])
    (defined : (ident, type) ∈ file.definitions) : (ident, type) ∈ decl.definitions := by
  obtain ⟨item, member, defines⟩ := List.mem_flatMap.1 defined
  have found : item.decl ∈ file.declaring ident :=
    List.mem_filter.2 ⟨List.mem_map_of_mem member,
      List.contains_iff_mem.2 (Decl.mem_names_of_definition defines)⟩
  rw [declared, List.mem_singleton] at found
  rw [← found]
  exact defines

end Bindings.Go
