import Bindings.Go.Tree
import Bindings.Text.Quoted

/-! The text of Go declarations.

Printing yields code and whole comment lines apart, so that the comments of a
source can be told from its code without reading the text again.
-/

set_option autoImplicit false

namespace Bindings.Go

inductive Piece where
  | code (text : String)
  /-- A line that holds nothing but a comment, after `indent` tabs. -/
  | comment (indent : Nat) (text : String)
  deriving DecidableEq

def tabs (n : Nat) : String := "".pushn '\t' n

def Piece.text : Piece → String
  | .code text => text
  | .comment indent text => tabs indent ++ (if text.isEmpty then "//" else "// " ++ text) ++ "\n"

def Piece.join (pieces : List Piece) : String := String.join (pieces.map Piece.text)

def separate (separator : String) : List (List Piece) → List Piece
  | [] => []
  | [pieces] => pieces
  | pieces :: rest => pieces ++ .code separator :: separate separator rest

def printDoc (indent : Nat) (doc : List String) : List Piece := doc.map (.comment indent)

mutual
def TypeExpr.print : TypeExpr → List Piece
  | .named ident => [.code ident]
  | .imported package ident => [.code (package.name ++ "." ++ ident)]
  | .pointer target => .code "*" :: target.print
  | .slice element => .code "[]" :: element.print
  | .struct fields => .code "struct \x7b\n" :: (Field.printAll fields ++ [.code "\x7d"])
  | .single (some field) type => .code ("struct\x7b " ++ field ++ " ") :: (type.print ++ [.code " \x7d"])
  | .single none type => .code "struct\x7b " :: (type.print ++ [.code " \x7d"])

/-- Fields stand one tab deep, however deep the struct itself stands. -/
def Field.printAll : List Field → List Piece
  | [] => []
  | .mk doc name type tag :: fields =>
    let closing := match tag with
      | some tag => " `json:\"" ++ tag ++ "\"`\n"
      | none => "\n"
    printDoc 1 doc ++ .code ("\t" ++ name ++ " ") :: type.print ++ .code closing ::
      Field.printAll fields
end

def TypeExpr.text (type : TypeExpr) : String := Piece.join type.print

mutual
/-- An expression of a statement that stands `depth` tabs deep. -/
def Expr.print (depth : Nat) : Expr → List Piece
  | .ident name => [.code name]
  | .imported package ident => [.code (package.name ++ "." ++ ident)]
  | .number digits => [.code digits]
  | .text value => [.code (Text.quote value)]
  | .literal inner => [.code ("\"" ++ inner ++ "\"")]
  | .rawText inner => [.code ("`" ++ inner ++ "`")]
  | .select target name => target.print depth ++ [.code ("." ++ name)]
  | .call function arguments =>
    function.print depth ++ .code "(" :: (separate ", " (Expr.printAll depth arguments) ++ [.code ")"])
  | .convert type value => type.print ++ .code "(" :: (value.print depth ++ [.code ")"])
  | .spread value => value.print depth ++ [.code "..."]
  | .unary operator value => .code operator :: value.print depth
  | .binary left operator right =>
    left.print depth ++ .code (" " ++ operator ++ " ") :: right.print depth
  | .paren value => .code "(" :: (value.print depth ++ [.code ")"])
  | .range target low high =>
    target.print depth ++ .code "[" :: low.print depth ++ .code ":" ::
      (high.print depth ++ [.code "]"])
  | .composite false type elements =>
    type.print ++ .code "\x7b" ::
      (separate ", " (Element.printAll depth elements) ++ [.code "\x7d"])
  | .composite true type elements =>
    type.print ++ .code "\x7b\n" ::
      ((Element.printAll (depth + 1) elements).flatMap
          (fun element => .code (tabs (depth + 1)) :: (element ++ [.code ",\n"]))
        ++ [.code (tabs depth ++ "\x7d")])

def Expr.printAll (depth : Nat) : List Expr → List (List Piece)
  | [] => []
  | e :: es => e.print depth :: Expr.printAll depth es

def Element.printAll (depth : Nat) : List Element → List (List Piece)
  | [] => []
  | .mk key value :: elements =>
    (.code (key ++ ": ") :: value.print depth) :: Element.printAll depth elements
end

def Assignment.print (depth : Nat) (a : Assignment) : List Piece :=
  separate ", " (Expr.printAll depth a.targets) ++
    .code (if a.defines then " := " else " = ") :: separate ", " (Expr.printAll depth a.values)

mutual
def Statement.print (depth : Nat) : Statement → List Piece
  | .assign a => .code (tabs depth) :: (a.print depth ++ [.code "\n"])
  | .eval value => .code (tabs depth) :: (value.print depth ++ [.code "\n"])
  | .declare name type => .code (tabs depth ++ "var " ++ name ++ " ") :: (type.print ++ [.code "\n"])
  | .defer value => .code (tabs depth ++ "defer ") :: (value.print depth ++ [.code "\n"])
  | .leave [] => [.code (tabs depth ++ "return\n")]
  | .leave values =>
    .code (tabs depth ++ "return ") :: (separate ", " (Expr.printAll depth values) ++ [.code "\n"])
  | .cond init test body orElse =>
    let opening := match init with
      | some a => a.print depth ++ [.code "; "]
      | none => []
    .code (tabs depth ++ "if ") :: (opening ++ test.print depth ++
      .code " \x7b\n" :: (Statement.printAll (depth + 1) body ++ Statement.printElse depth orElse))
  | .switch subject clauses =>
    .code (tabs depth ++ "switch ") :: (subject.print depth ++
      .code " \x7b\n" :: (Clause.printAll depth clauses ++ [.code (tabs depth ++ "\x7d\n")]))
  | .gap => [.code "\n"]

def Statement.printElse (depth : Nat) : List Statement → List Piece
  | [] => [.code (tabs depth ++ "\x7d\n")]
  | first :: rest =>
    .code (tabs depth ++ "\x7d else \x7b\n") :: (first.print (depth + 1) ++
      (Statement.printAll (depth + 1) rest ++ [.code (tabs depth ++ "\x7d\n")]))

def Statement.printAll (depth : Nat) : List Statement → List Piece
  | [] => []
  | first :: rest => first.print depth ++ Statement.printAll depth rest

def Clause.printAll (depth : Nat) : List Clause → List Piece
  | [] => []
  | .mk values body :: rest =>
    .code (tabs depth ++ "case ") :: (separate ", " (Expr.printAll depth values) ++
      .code ":\n" :: (Statement.printAll (depth + 1) body ++ Clause.printAll depth rest))
  | .default body :: rest =>
    .code (tabs depth ++ "default:\n") ::
      (Statement.printAll (depth + 1) body ++ Clause.printAll depth rest)
end

def Param.print (p : Param) : List Piece :=
  match p.name with
  | some name => .code (name ++ " ") :: p.type.print
  | none => p.type.print

def printParams (params : List Param) : List Piece :=
  .code "(" :: (separate ", " (params.map Param.print) ++ [.code ")"])

def printResults : List Param → List Piece
  | [] => []
  | [⟨none, type⟩] => .code " " :: type.print
  | results => .code " " :: printParams results

def Signature.print (s : Signature) : List Piece := printParams s.params ++ printResults s.results

def Body.print : Body → List Piece
  | .block statements => .code " \x7b\n" :: (Statement.printAll 1 statements ++ [.code "\x7d\n"])
  | .brief value => .code " \x7b return " :: (value.print 0 ++ [.code " \x7d\n"])

def Function.print (f : Function) : List Piece :=
  let receiver := match f.receiver with
    | some receiver => printParams [receiver] ++ [.code " "]
    | none => []
  printDoc 0 f.doc ++ .code "func " :: receiver ++
    .code f.name :: (f.signature.print ++ f.body.print)

def Member.print : Member → List Piece
  | .method doc name signature =>
    printDoc 1 doc ++ .code ("\t" ++ name) :: (signature.print ++ [.code "\n"])
  | .embedded type => .code "\t" :: (type.print ++ [.code "\n"])

def Constant.print (type : Option TypeExpr) (c : Constant) : List Piece :=
  let type := match type with
    | some type => .code " " :: type.print
    | none => []
  .code ("\t" ++ c.name) :: (type ++ [.code (" = " ++ Text.quote c.value ++ "\n")])

def Decl.print : Decl → List Piece
  | .type doc name expr =>
    printDoc 0 doc ++ .code ("type " ++ name ++ " ") :: (expr.print ++ [.code "\n"])
  | .synonym doc name target =>
    printDoc 0 doc ++ .code ("type " ++ name ++ " = ") :: (target.print ++ [.code "\n"])
  | .interface doc name spaced members =>
    printDoc 0 doc ++ .code ("type " ++ name ++ " interface \x7b\n") ::
      (separate (if spaced then "\n" else "") (members.map Member.print) ++ [.code "\x7d\n"])
  | .function f => f.print
  | .constants doc expr entries =>
    printDoc 0 doc ++ .code "const (\n" :: (entries.flatMap (Constant.print expr) ++ [.code ")\n"])
  | .verbatim _ text => [.code text]

end Bindings.Go
