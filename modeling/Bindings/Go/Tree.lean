/-! Go source as data: types, expressions, statements and declarations.

Every identifier of another package carries the package it comes from, so that
what a file uses can be read off its declarations.
-/

set_option autoImplicit false

namespace Bindings.Go

/-- A package as a source file sees it: the path it is imported by and the name it binds. -/
structure Package where
  path : String
  name : String
  deriving DecidableEq

mutual
inductive TypeExpr where
  /-- A predeclared type or a type of the same package. -/
  | named (ident : String)
  | imported (package : Package) (ident : String)
  | pointer (target : TypeExpr)
  | slice (element : TypeExpr)
  | struct (fields : List Field)
  /-- A struct of one field on one line; without a name the field is embedded. -/
  | single (field : Option String) (type : TypeExpr)

inductive Field where
  | mk (doc : List String) (name : String) (type : TypeExpr) (tag : Option String)
end

mutual
inductive Expr where
  | ident (name : String)
  | imported (package : Package) (ident : String)
  | number (digits : String)
  /-- A string literal for a text, escaped as need be. -/
  | text (value : String)
  /-- A string literal with `inner` between the quotes as it stands. -/
  | literal (inner : String)
  | rawText (inner : String)
  | select (target : Expr) (name : String)
  | call (function : Expr) (arguments : List Expr)
  | convert (type : TypeExpr) (value : Expr)
  | spread (value : Expr)
  | unary (operator : String) (value : Expr)
  | binary (left : Expr) (operator : String) (right : Expr)
  | paren (value : Expr)
  | range (target low high : Expr)
  /-- A composite literal; a `tall` one has a line for every element. -/
  | composite (tall : Bool) (type : TypeExpr) (elements : List Element)

inductive Element where
  | mk (key : String) (value : Expr)
end

/-- `targets := values` where new variables are defined, else `targets = values`. -/
structure Assignment where
  targets : List Expr
  defines : Bool
  values : List Expr

mutual
inductive Statement where
  | assign (assignment : Assignment)
  | eval (value : Expr)
  | declare (name : String) (type : TypeExpr)
  | defer (value : Expr)
  | leave (values : List Expr)
  | cond (init : Option Assignment) (test : Expr) (body orElse : List Statement)
  | switch (subject : Expr) (clauses : List Clause)
  /-- An empty line between groups of statements. -/
  | gap

inductive Clause where
  | mk (values : List Expr) (body : List Statement)
  | default (body : List Statement)
end

/-- A parameter or result; without a name it is just its type. -/
structure Param where
  name : Option String
  type : TypeExpr

structure Signature where
  params : List Param
  results : List Param

inductive Body where
  | block (statements : List Statement)
  /-- A body on one line that returns a value. -/
  | brief (value : Expr)

structure Function where
  doc : List String
  receiver : Option Param
  name : String
  signature : Signature
  body : Body

inductive Member where
  | method (doc : List String) (name : String) (signature : Signature)
  | embedded (type : TypeExpr)

structure Constant where
  name : String
  value : String
  deriving DecidableEq

inductive Decl where
  | type (doc : List String) (name : String) (type : TypeExpr)
  | synonym (doc : List String) (name : String) (target : TypeExpr)
  /-- The members of a `spaced` interface have empty lines between them. -/
  | interface (doc : List String) (name : String) (spaced : Bool) (members : List Member)
  | function (function : Function)
  | constants (doc : List String) (type : Option TypeExpr) (entries : List Constant)
  /-- Fixed source text and the identifiers it declares. -/
  | verbatim (names : List String) (text : String)

def Statement.define (name : String) (value : Expr) : Statement :=
  .assign ⟨[.ident name], true, [value]⟩

def Statement.set (target value : Expr) : Statement := .assign ⟨[target], false, [value]⟩

def Statement.when (test : Expr) (body : List Statement) : Statement := .cond none test body []

def Expr.invoke (target : Expr) (method : String) (arguments : List Expr) : Expr :=
  .call (.select target method) arguments

def Expr.isNotNil (value : Expr) : Expr := .binary value "!=" (.ident "nil")

def Expr.address (value : Expr) : Expr := .unary "&" value

def Param.unnamed (type : TypeExpr) : Param := ⟨none, type⟩

def TypeExpr.bytes : TypeExpr := .slice (.named "byte")

end Bindings.Go
