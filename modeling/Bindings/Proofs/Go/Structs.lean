import Bindings.Go.SourceFile
import Bindings.Text.Split

/-! The struct types that a source file holds, each as the list of its field names.

Structs are found wherever a type may stand: in declared types, signatures, the bodies
of functions and fixed source text, and inside each other.
-/

set_option autoImplicit false

namespace Bindings.Go

def Field.name : Field → String
  | .mk _ name _ _ => name

def Field.type : Field → TypeExpr
  | .mk _ _ type _ => type

def Element.value : Element → Expr
  | .mk _ value => value

mutual
/-- The structs of a type, outermost first. An embedded type names its own field. -/
def TypeExpr.structs : TypeExpr → List (List String)
  | .named _ => []
  | .imported _ _ => []
  | .pointer target => target.structs
  | .slice element => element.structs
  | .struct fields => fields.map Field.name :: Field.structs fields
  | .single (some field) type => [field] :: type.structs
  | .single none type => [type.text] :: type.structs

def Field.structs : List Field → List (List String)
  | [] => []
  | .mk _ _ type _ :: fields => type.structs ++ Field.structs fields
end

mutual
def Expr.structs : Expr → List (List String)
  | .ident _ => []
  | .imported _ _ => []
  | .number _ => []
  | .text _ => []
  | .literal _ => []
  | .rawText _ => []
  | .select target _ => target.structs
  | .call function arguments => function.structs ++ Expr.listStructs arguments
  | .convert type value => type.structs ++ value.structs
  | .spread value => value.structs
  | .unary _ value => value.structs
  | .binary left _ right => left.structs ++ right.structs
  | .paren value => value.structs
  | .range target low high => target.structs ++ low.structs ++ high.structs
  | .composite _ type elements => type.structs ++ Element.listStructs elements

def Expr.listStructs : List Expr → List (List String)
  | [] => []
  | value :: values => value.structs ++ Expr.listStructs values

def Element.listStructs : List Element → List (List String)
  | [] => []
  | .mk _ value :: elements => value.structs ++ Element.listStructs elements
end

def Assignment.structs (assignment : Assignment) : List (List String) :=
  Expr.listStructs assignment.targets ++ Expr.listStructs assignment.values

mutual
def Statement.structs : Statement → List (List String)
  | .assign assignment => assignment.structs
  | .eval value => value.structs
  | .declare _ type => type.structs
  | .defer value => value.structs
  | .leave values => Expr.listStructs values
  | .cond none test body orElse =>
    test.structs ++ Statement.listStructs body ++ Statement.listStructs orElse
  | .cond (some init) test body orElse =>
    init.structs ++ test.structs ++ Statement.listStructs body ++ Statement.listStructs orElse
  | .switch subject clauses => subject.structs ++ Clause.listStructs clauses
  | .gap => []

def Statement.listStructs : List Statement → List (List String)
  | [] => []
  | statement :: statements => statement.structs ++ Statement.listStructs statements

def Clause.listStructs : List Clause → List (List String)
  | [] => []
  | .mk values body :: clauses =>
    Expr.listStructs values ++ Statement.listStructs body ++ Clause.listStructs clauses
  | .default body :: clauses => Statement.listStructs body ++ Clause.listStructs clauses
end

def Param.structs (params : List Param) : List (List String) := params.flatMap (·.type.structs)

def Signature.structs (signature : Signature) : List (List String) :=
  Param.structs signature.params ++ Param.structs signature.results

def Body.structs : Body → List (List String)
  | .block statements => Statement.listStructs statements
  | .brief value => value.structs

def Member.structs : Member → List (List String)
  | .method _ _ signature => signature.structs
  | .embedded type => type.structs

def fieldNamesUntilClose : List (List Char) → List String
  | [] => []
  | line :: lines =>
    if line = ['\x7d'] then []
    else
      let name := (line.dropWhile (· == '\t')).takeWhile (· != ' ')
      if name.isEmpty then fieldNamesUntilClose lines
      else .ofList name :: fieldNamesUntilClose lines

/-- The structs in source text: each opens at the end of a line and has a line for every field. -/
def structsOfLines : List (List Char) → List (List String)
  | [] => []
  | line :: lines =>
    if (Text.before? "struct \x7b".toList line).isSome then
      fieldNamesUntilClose lines :: structsOfLines lines
    else structsOfLines lines

def structsOfText (text : String) : List (List String) :=
  structsOfLines (Text.splitWhere (· == '\n') text.toList)

def Decl.structs : Decl → List (List String)
  | .type _ _ target => target.structs
  | .synonym _ _ target => target.structs
  | .interface _ _ _ members => members.flatMap Member.structs
  | .function f =>
    (f.receiver.toList.flatMap (·.type.structs)) ++ f.signature.structs ++ f.body.structs
  | .constants _ target _ => target.toList.flatMap TypeExpr.structs
  | .verbatim _ text => structsOfText text

attribute [simp] TypeExpr.structs Field.structs Expr.structs Expr.listStructs Element.listStructs
  Assignment.structs Statement.structs Statement.listStructs Clause.listStructs Param.structs

@[simp] theorem TypeExpr.structs_bytes : TypeExpr.bytes.structs = [] := rfl

@[simp] theorem Param.type_unnamed (type : TypeExpr) : (Param.unnamed type).type = type := rfl

@[simp] theorem Expr.structs_invoke (target : Expr) (method : String) (arguments : List Expr) :
    (target.invoke method arguments).structs = target.structs ++ Expr.listStructs arguments := by
  simp [Expr.invoke]

@[simp] theorem Expr.structs_isNotNil (value : Expr) : value.isNotNil.structs = value.structs := by
  simp [Expr.isNotNil]

@[simp] theorem Expr.structs_address (value : Expr) : value.address.structs = value.structs := by
  simp [Expr.address]

@[simp] theorem Statement.structs_define (name : String) (value : Expr) :
    (Statement.define name value).structs = value.structs := by
  simp [Statement.define]

@[simp] theorem Statement.structs_set (target value : Expr) :
    (Statement.set target value).structs = target.structs ++ value.structs := by
  simp [Statement.set]

@[simp] theorem Statement.structs_when (test : Expr) (body : List Statement) :
    (Statement.when test body).structs = test.structs ++ Statement.listStructs body := by
  simp [Statement.when]

@[simp] theorem Decl.structs_type (doc : List String) (name : String) (type : TypeExpr) :
    (Decl.type doc name type).structs = type.structs := rfl

@[simp] theorem Decl.structs_constants (doc : List String) (type : TypeExpr)
    (entries : List Constant) : (Decl.constants doc (some type) entries).structs = type.structs :=
  List.append_nil _

theorem Decl.structs_function (f : Function) :
    (Decl.function f).structs =
      f.receiver.toList.flatMap (·.type.structs) ++ f.signature.structs ++ f.body.structs := rfl

theorem Field.structs_eq_flatMap (fields : List Field) :
    Field.structs fields = fields.flatMap (·.type.structs) := by
  induction fields with
  | nil => rfl
  | cons field fields ih =>
    cases field
    rw [Field.structs, ih, List.flatMap_cons]
    rfl

theorem Element.listStructs_eq_flatMap (elements : List Element) :
    Element.listStructs elements = elements.flatMap (·.value.structs) := by
  induction elements with
  | nil => rfl
  | cons element elements ih =>
    cases element
    rw [Element.listStructs, ih, List.flatMap_cons]
    rfl

theorem Expr.listStructs_eq_flatMap (values : List Expr) :
    Expr.listStructs values = values.flatMap Expr.structs := by
  induction values with
  | nil => rfl
  | cons value values ih => rw [Expr.listStructs, ih, List.flatMap_cons]

theorem Statement.listStructs_eq_flatMap (statements : List Statement) :
    Statement.listStructs statements = statements.flatMap Statement.structs := by
  induction statements with
  | nil => rfl
  | cons statement statements ih => rw [Statement.listStructs, ih, List.flatMap_cons]

@[simp] theorem Statement.listStructs_append (first second : List Statement) :
    Statement.listStructs (first ++ second) =
      Statement.listStructs first ++ Statement.listStructs second := by
  simp only [Statement.listStructs_eq_flatMap, List.flatMap_append]

def SourceFile.structs (file : SourceFile) : List (List String) :=
  file.items.flatMap (·.decl.structs)

end Bindings.Go
