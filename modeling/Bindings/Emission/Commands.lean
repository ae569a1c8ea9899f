import Bindings.Emission.Declared
import Bindings.Thread

/-! Commands: the types of their arguments and replies, and the methods that invoke them. -/

set_option autoImplicit false

namespace Bindings.Emission

open Go (Decl Doc Element Expr NameScope Param Signature Statement TypeExpr)

def opError (root domain operation : String) : Expr :=
  .address (.composite false (.imported (Imports.internal root) "OpError")
    [.mk "Domain" (.literal domain), .mk "Op" (.literal operation), .mk "Err" (.ident "err")])

/-- A struct declaration with the identifier declared before its fields are looked at. -/
def Site.structDecl (site : Site) (scope : NameScope) (ident : String) (doc : String)
    (nodes : List TypeNode) : Except Error (NameScope × Chunk) := do
  let scope ← scope.declare ident
  let uses ← site.structFields nodes ident
  return (scope, ⟨uses.imports, [⟨.type [doc] ident (.struct uses.fields), true⟩]⟩)

def constructorDecl (command : Command) (required : List (TypeNode × TypeExpr)) : Decl :=
  let args := command.arguments
  let constructor := "New" ++ args
  .function
    { doc := [constructor ++ " initializes " ++ args ++ " with the required arguments."]
      receiver := none
      name := constructor
      signature :=
        ⟨required.map fun entry => ⟨some (Name.parameter entry.1.wireName), entry.2⟩,
         [.unnamed (.pointer (.named args))]⟩
      body := .block
        (.define "args" (.call (.ident "new") [.ident args]) ::
          required.map (fun entry =>
            .set (.select (.ident "args") entry.1.fieldIdent)
              (.ident (Name.parameter entry.1.wireName)))
          ++ [.leave [.ident "args"]]) }

def setterName (node : TypeNode) : String := "Set" ++ node.fieldIdent

def setterDoc (node : TypeNode) : Doc :=
  ((Doc.ofLead (setterName node ++ " sets the " ++ node.fieldIdent ++ " optional argument.")
      node.docs).paragraph (valuesParagraph node)).notes
    "argument" node.experimental node.deprecated

/-- A setter assigns its parameter to the field of an optional argument, by address where the field
is a pointer. -/
def setterDecl (command : Command) (node : TypeNode) (use : TypeUse) : Decl :=
  let args : TypeExpr := .pointer (.named command.arguments)
  let parameter := Name.parameter node.wireName
  let value : Expr := if use.nullable then .ident parameter else .address (.ident parameter)
  method (setterDoc node).lines "a" args (setterName node) [⟨some parameter, use.type⟩]
    [.unnamed args]
    [.set (.select (.ident "a") node.fieldIdent) value, .leave [.ident "a"]]

namespace Site

def setter (site : Site) (command : Command) (scope : NameScope) (node : TypeNode) :
    Except Error (NameScope × Chunk) := do
  let scope ← scope.declare (setterName node)
  let use ← site.use node
  return (scope, ⟨use.imports, [⟨setterDecl command node use, true⟩]⟩)

def requiredParam (site : Site) (owner : String) (node : TypeNode) :
    Except Error (TypeNode × TypeExpr × List String) := do
  let use ← site.use node
  return (node, fieldType node owner use, use.imports)

def arguments (site : Site) (domain : Domain) (command : Command) (scope : NameScope) :
    Except Error (NameScope × Chunk) := do
  let args := command.arguments
  let (scope, struct) ← site.structDecl scope args
    (args ++ " represents the arguments for " ++ command.method ++ " in the " ++ domain.name
      ++ " domain.") command.parameters
  let scope ← scope.declare ("New" ++ args)
  let required ← (command.parameters.filter (!·.optional)).mapM (site.requiredParam args)
  let constructor : Chunk :=
    ⟨required.flatMap (·.2.2),
     [⟨constructorDecl command (required.map fun entry => (entry.1, entry.2.1)), true⟩]⟩
  let (_, setters) ← thread (site.setter command)
    ⟨"methods of " ++ domain.name ++ "." ++ args, []⟩ (command.parameters.filter (·.optional))
  return (scope, struct ++ constructor ++ .concat setters)

def reply (site : Site) (domain : Domain) (command : Command) (scope : NameScope) :
    Except Error (NameScope × Chunk) :=
  site.structDecl scope command.reply
    (command.reply ++ " represents the return values for " ++ command.method ++ " in the "
      ++ domain.name ++ " domain.") command.returns

def commandTypes (site : Site) (domain : Domain) (scope : NameScope) (command : Command) :
    Except Error (NameScope × Chunk) := do
  let (scope, arguments) ←
    if command.hasArguments then site.arguments domain command scope else .ok (scope, {})
  let (scope, reply) ←
    if command.hasReply then site.reply domain command scope else .ok (scope, {})
  return (scope, arguments ++ reply)

end Site

def clientType : TypeExpr := .pointer (.named "domainClient")

def invocation (root wire arguments reply : String) : Statement :=
  .set (.ident "err") (.call (.imported (Imports.rpcc root) "Invoke")
    [.ident "ctx", .literal wire, .ident arguments, .ident reply,
     .select (.ident "d") "conn"])

def invokeDoc (command : Command) (domain : Domain) : Doc :=
  (Doc.ofLead (command.method ++ " invokes the " ++ domain.name ++ " method.") command.docs).notes
    "command" command.experimental command.deprecated

def invokeSignature (command : Command) : Signature where
  params := ⟨some "ctx", .imported Imports.context "Context"⟩ ::
    if command.hasArguments then [⟨some "args", .pointer (.named command.arguments)⟩] else []
  results :=
    (if command.hasReply then [⟨some "reply", .pointer (.named command.reply)⟩] else [])
      ++ [⟨some "err", .named "error"⟩]

/-- Absent arguments are passed on as an untyped nil. -/
def invokeBody (command : Command) (root : String) (domain : Domain) : List Statement :=
  let reply := if command.hasReply then "reply" else "nil"
  let call arguments := invocation root (command.wireName domain.name) arguments reply
  (if command.hasReply then
      [.set (.ident "reply") (.call (.ident "new") [.ident command.reply])] else [])
    ++ (if command.hasArguments then
      [.cond none (.isNotNil (.ident "args")) [call "args"] [call "nil"]] else [call "nil"])
    ++ [.when (.isNotNil (.ident "err"))
          [.set (.ident "err") (opError root domain.name command.method)],
        .leave []]

def commandMethod (root : String) (domain : Domain) (methods : NameScope) (command : Command) :
    Except Error (NameScope × Chunk) := do
  let methods ← methods.declare command.method
  return (methods, .ofDecls [Imports.context, Imports.rpcc root, Imports.internal root]
    [.function
      { doc := (invokeDoc command domain).lines
        receiver := some ⟨some "d", clientType⟩
        name := command.method
        signature := invokeSignature command
        body := .block (invokeBody command root domain) }])

def commandContract (command : Command) (root : String) (domain : Domain) : Signature :=
  let own (ident : String) : TypeExpr := .pointer (.imported (Imports.domain root domain.package) ident)
  { params := .unnamed (.imported Imports.context "Context") ::
      if command.hasArguments then [.unnamed (own command.arguments)] else []
    results :=
      (if command.hasReply then [.unnamed (own command.reply)] else [])
        ++ [.unnamed (.named "error")] }

end Bindings.Emission
