import Bindings.Proofs.Go.Declarations
import Bindings.Text.Utf8

/-! What functions of a package do when they are called.

Execution covers the forms that the methods of an enumeration consist of; whatever else has no
outcome. Types have been checked before, so a value carries its type only where a method is chosen
by it. Variables live in a memory that grows, so that functions can be given their addresses.
-/

set_option autoImplicit false

namespace Bindings.Go

open Text (Bytes utf8)

/-- A value. A text is a row of bytes, which need not be valid UTF-8. -/
inductive Value where
  | nil
  | bool (value : Bool)
  /-- A text of a named type. -/
  | text (type : String) (content : Bytes)
  | bytes (content : Bytes)
  | pointer (address : Nat)
  /-- An error, by the function that has made it. -/
  | error (package : Package) (function : String)
  deriving DecidableEq

abbrev Memory := List Value

abbrev Library := Package → String → List Value → Memory → Option (List Value × Memory)

abbrev Caller := Function → List Value → Memory → Option (List Value × Memory)

/-- The declarations of a package and what it is linked with. -/
structure Program where
  decls : List Decl
  library : Library

def Program.ofFiles (files : List SourceFile) (library : Library) : Program :=
  ⟨files.flatMap fun file => file.items.map (·.decl), library⟩

/-- The variables in scope with their addresses, innermost first. -/
abbrev Scope := List (String × Nat)

@[simp] theorem Scope.lookup_ne {name other : String} {address : Nat} {rest : Scope}
    (apart : name ≠ other) :
    List.lookup name ((other, address) :: rest) = List.lookup name rest := by
  rw [List.lookup_cons, beq_eq_false_iff_ne.2 apart]

def predeclaredValue? : String → Option Value
  | "nil" => some .nil
  | "true" => some (.bool true)
  | "false" => some (.bool false)
  | _ => none

@[simp] def Value.equals? : Value → Value → Option Bool
  | .text _ first, .text _ second => some (first == second)
  | .nil, .nil => some true
  | .nil, .error _ _ | .error _ _, .nil => some false
  | _, _ => none

@[simp] def Value.typeName? : Value → Option String
  | .text type _ => some type
  | _ => none

namespace Program

def declaring? (program : Program) (name : String) : Option Decl :=
  program.decls.find? fun decl => decl.names.contains name

/-- What a name outside all functions stands for: the language is asked last. -/
def value? (program : Program) (name : String) : Option Value :=
  match program.declaring? name with
  | some (.constants _ (some (.named type)) entries) =>
    (entries.find? (·.name == name)).map fun entry => .text type (utf8 entry.value)
  | some _ => none
  | none => predeclaredValue? name

def isText (program : Program) (name : String) : Bool :=
  match program.declaring? name with
  | some (.type _ _ (.named under)) => under == "string" && (program.declaring? under).isNone
  | some _ => false
  | none => name == "string"

def convert? (program : Program) (type : String) : Value → Option Value
  | .text _ content | .bytes content =>
    if program.isText type then some (.text type content) else none
  | _ => none

def zero? (program : Program) : TypeExpr → Option Value
  | .named type => if program.isText type then some (.text type []) else none
  | _ => none

def methodsOf (program : Program) (owner : String) : List Function :=
  program.decls.filterMap (·.methodOf? owner)

def method? (program : Program) (owner name : String) : Option Function :=
  (program.methodsOf owner).find? (·.name == name)

/-- Where no identifier is declared twice, a declaration is found by each of its names. -/
theorem declaring?_eq_some {program : Program} {decl : Decl} {name : String}
    (nodup : (program.decls.flatMap Decl.names).Nodup) (member : decl ∈ program.decls)
    (named : name ∈ decl.names) : program.declaring? name = some decl := by
  rw [declaring?, List.find?_eq_some_iff_append]
  refine ⟨by simpa using named, ?_⟩
  obtain ⟨before, after, split⟩ := List.append_of_mem member
  refine ⟨before, after, split, fun other earlier => ?_⟩
  rw [split, List.flatMap_append, List.nodup_append] at nodup
  have apart : name ∉ other.names := fun again =>
    nodup.2.2 name (List.mem_flatMap.2 ⟨other, earlier, again⟩) name
      (List.mem_flatMap.2 ⟨decl, List.mem_cons_self, named⟩) rfl
  simpa using apart

theorem declaring?_eq_none {program : Program} {name : String} :
    program.declaring? name = none ↔ name ∉ program.decls.flatMap Decl.names := by
  simp [declaring?, List.find?_eq_none]

theorem names_ofFiles (files : List SourceFile) (library : Library) :
    (ofFiles files library).decls.flatMap Decl.names = files.flatMap (·.names) := by
  simp [ofFiles, SourceFile.names, itemNames, List.flatMap_assoc, List.flatMap_map]

theorem methodsOf_ofFiles (files : List SourceFile) (library : Library) (owner : String) :
    (ofFiles files library).methodsOf owner = files.flatMap (·.methodsOf owner) := by
  simp [ofFiles, methodsOf, SourceFile.methodsOf, List.filterMap_flatMap, List.filterMap_map]

theorem mem_ofFiles {files : List SourceFile} {library : Library} {file : SourceFile}
    (listed : file ∈ files) {item : Item} (inside : item ∈ file.items) :
    item.decl ∈ (ofFiles files library).decls :=
  List.mem_flatMap.2 ⟨file, listed, List.mem_map_of_mem inside⟩

end Program

def Function.isByValue (f : Function) : Bool :=
  match f.receiver with
  | some ⟨_, .named _⟩ => true
  | _ => false

@[simp] def Scope.address? (scope : Scope) : Expr → Option Nat
  | .ident name => scope.lookup name
  | _ => none

@[simp] def applyUnary (operator : String) (value : Value) (memory : Memory) : Option Value :=
  match operator, value with
  | "*", .pointer address => memory[address]?
  | "!", .bool value => some (.bool !value)
  | _, _ => none

@[simp] def applyBinary (operator : String) (first second : Value) : Option Value :=
  match operator with
  | "==" => (first.equals? second).map .bool
  | "!=" => (first.equals? second).map fun same => .bool !same
  | _ => none

section Statements
variable (program : Program) (call : Caller)

mutual
/-- The values of an expression: a call may have none or several. -/
@[simp] def Expr.eval (scope : Scope) : Expr → Memory → Option (List Value × Memory)
  | .ident name, memory =>
    match scope.lookup name with
    | some address => do return ([← memory[address]?], memory)
    | none => do return ([← program.value? name], memory)
  | .text value, memory => some ([.text "string" (utf8 value)], memory)
  | .literal inner, memory => some ([.text "string" (utf8 inner)], memory)
  | .convert (.slice (.named "byte")) value, memory => do
    let ([.text _ content], memory) ← Expr.eval scope value memory | none
    return ([.bytes content], memory)
  | .unary operator value, memory =>
    if operator = "&" then do return ([.pointer (← scope.address? value)], memory)
    else do
      let ([value], memory) ← Expr.eval scope value memory | none
      return ([← applyUnary operator value memory], memory)
  | .binary left operator right, memory => do
    let ([first], memory) ← Expr.eval scope left memory | none
    let ([second], memory) ← Expr.eval scope right memory | none
    return ([← applyBinary operator first second], memory)
  | .call (.ident type) arguments, memory => do
    -- What is called by a plain name is a type that converts, unless a variable hides it.
    let ([value], memory) ← Expr.evalAll scope arguments memory | none
    if (scope.lookup type).isSome then none
    else return ([← program.convert? type value], memory)
  | .call (.imported package function) arguments, memory => do
    let (values, memory) ← Expr.evalAll scope arguments memory
    program.library package function values memory
  | .call (.select target name) arguments, memory => do
    let ([value], memory) ← Expr.eval scope target memory | none
    let (values, memory) ← Expr.evalAll scope arguments memory
    let method ← program.method? (← value.typeName?) name
    if method.isByValue then call method (value :: values) memory else none
  | _, _ => none

@[simp] def Expr.evalAll (scope : Scope) : List Expr → Memory → Option (List Value × Memory)
  | [], memory => some ([], memory)
  | value :: values, memory => do
    let (first, memory) ← Expr.eval scope value memory
    let (others, memory) ← Expr.evalAll scope values memory
    return (first ++ others, memory)
end

/-- A target of an assignment is a variable or what a pointer leads to. -/
@[simp] def Expr.store (scope : Scope) (value : Value) : Expr → Memory → Option Memory
  | .ident name, memory => do return memory.set (← scope.lookup name) value
  | .unary "*" target, memory => do
    let ([.pointer address], memory) ← target.eval program call scope memory | none
    return memory.set address value
  | _, _ => none

@[simp] def Assignment.exec (scope : Scope) (a : Assignment) (memory : Memory) :
    Option (Scope × Memory) := do
  let ([value], memory) ← Expr.evalAll program call scope a.values memory | none
  match a.targets, a.defines with
  | [.ident name], true => return ((name, memory.length) :: scope, memory ++ [value])
  | [target], false => return (scope, ← target.store program call scope value memory)
  | _, _ => none

/-- How a statement ends: the next one follows in a scope, or the function is left. -/
inductive Outcome where
  | next (scope : Scope)
  | leave (values : List Value)

@[simp] def Outcome.within (scope : Scope) : Outcome → Outcome
  | .next _ => .next scope
  | .leave values => .leave values

mutual
@[simp] def Statement.exec (scope : Scope) : Statement → Memory → Option (Outcome × Memory)
  | .assign a, memory => do
    let (scope, memory) ← a.exec program call scope memory
    return (.next scope, memory)
  | .eval value, memory => do
    let (_, memory) ← value.eval program call scope memory
    return (.next scope, memory)
  | .declare name type, memory => do
    return (.next ((name, memory.length) :: scope), memory ++ [← program.zero? type])
  | .leave values, memory => do
    let (values, memory) ← Expr.evalAll program call scope values memory
    return (.leave values, memory)
  | .cond init test body orElse, memory => do
    let (inner, memory) ← match init with
      | some a => a.exec program call scope memory
      | none => some (scope, memory)
    let ([.bool holds], memory) ← test.eval program call inner memory | none
    let (outcome, memory) ←
      if holds then Statement.execAll inner body memory
      else Statement.execAll inner orElse memory
    return (outcome.within scope, memory)
  | .switch subject clauses, memory => do
    let ([value], memory) ← subject.eval program call scope memory | none
    let (outcome, memory) ←
      Clause.exec scope value clauses (fun memory => some (.next scope, memory)) memory
    return (outcome.within scope, memory)
  | .gap, memory => some (.next scope, memory)
  | .defer _, _ => none

@[simp] def Statement.execAll (scope : Scope) : List Statement → Memory → Option (Outcome × Memory)
  | [], memory => some (.next scope, memory)
  | statement :: rest, memory => do
    match ← Statement.exec scope statement memory with
    | (.next scope, memory) => Statement.execAll scope rest memory
    | (.leave values, memory) => return (.leave values, memory)

/-- The clauses of a switch on `subject`: the first one with an equal value is taken, and
`otherwise` if there is none, wherever a default stands. -/
@[simp] def Clause.exec (scope : Scope) (subject : Value) :
    List Clause → (otherwise : Memory → Option (Outcome × Memory)) → Memory →
      Option (Outcome × Memory)
  | [], otherwise, memory => otherwise memory
  | .mk values body :: rest, otherwise, memory => do
    let (values, memory) ← Expr.evalAll program call scope values memory
    if values.any (subject.equals? · == some true) then Statement.execAll scope body memory
    else Clause.exec scope subject rest otherwise memory
  | .default body :: rest, _, memory =>
    Clause.exec scope subject rest (fun memory => Statement.execAll scope body memory) memory
end

@[simp] theorem Expr.eval_invoke {scope : Scope} (target : Expr) (method : String)
    (arguments : List Expr) : Expr.eval program call scope (target.invoke method arguments) =
      Expr.eval program call scope (.call (.select target method) arguments) := rfl

@[simp] theorem Expr.eval_isNotNil {scope : Scope} (value : Expr) :
    Expr.eval program call scope value.isNotNil =
      Expr.eval program call scope (.binary value "!=" (.ident "nil")) := rfl

@[simp] theorem Expr.eval_address {scope : Scope} (value : Expr) :
    Expr.eval program call scope value.address =
      Expr.eval program call scope (.unary "&" value) := rfl

@[simp] theorem Statement.exec_define {scope : Scope} (name : String) (value : Expr) :
    Statement.exec program call scope (.define name value) =
      Statement.exec program call scope (.assign ⟨[.ident name], true, [value]⟩) := rfl

@[simp] theorem Statement.exec_set {scope : Scope} (target value : Expr) :
    Statement.exec program call scope (.set target value) =
      Statement.exec program call scope (.assign ⟨[target], false, [value]⟩) := rfl

@[simp] theorem Statement.exec_when {scope : Scope} (test : Expr) (body : List Statement) :
    Statement.exec program call scope (.when test body) =
      Statement.exec program call scope (.cond none test body []) := rfl

@[simp] def Function.inputs (f : Function) : List Param := f.receiver.toList ++ f.signature.params

@[simp] def Scope.ofInputs (inputs : List Param) (start : Nat) : Scope :=
  (inputs.zipIdx start).filterMap fun (param, address) => param.name.map (·, address)

@[simp] def Function.exec (f : Function) (arguments : List Value) (memory : Memory) :
    Option (List Value × Memory) :=
  if arguments.length ≠ f.inputs.length then none
  else
    let scope := Scope.ofInputs f.inputs memory.length
    match f.body with
    | .brief value => value.eval program call scope (memory ++ arguments)
    | .block statements => do
      match ← Statement.execAll program call scope statements (memory ++ arguments) with
      | (.leave values, memory) => return (values, memory)
      | (.next _, memory) => return ([], memory)

end Statements

/-- Calls of functions, nested up to `depth` deep. -/
def Program.call (program : Program) : (depth : Nat) → Caller
  | 0, _, _, _ => none
  | depth + 1, f, arguments, memory => f.exec program (program.call depth) arguments memory

theorem Program.call_succ {program : Program} {depth : Nat} {f : Function}
    {arguments : List Value} {memory : Memory} : program.call (depth + 1) f arguments memory =
      f.exec program (program.call depth) arguments memory := rfl

end Bindings.Go
