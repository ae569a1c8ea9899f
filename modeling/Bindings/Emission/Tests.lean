import Bindings.Emission.Events

/-! Tests of a domain client.

A command is invoked without arguments, with empty ones, and against a failing
transport. An event is subscribed to, fed a good and a bad payload, and subscribed
to once more after the connection is closed.
-/

set_option autoImplicit false

namespace Bindings.Emission

open Go (Decl Expr Function SourceFile Statement TypeExpr)

def testImports (root : String) : List Go.Package :=
  [Imports.context, Imports.strings, Imports.testing, Imports.testutil root]

def testName (method : String) : String := "TestDomain_" ++ method

def testDecl (root method : String) (steps : List Statement) : Decl :=
  .function
    { doc := []
      receiver := none
      name := testName method
      signature := ⟨[⟨some "t", .pointer (.imported Imports.testing "T")⟩], []⟩
      body := .block
        ([.define "tr" (.call (.imported (Imports.testutil root) "NewTransport") [.ident "t"]),
          .defer (.invoke (.ident "tr") "Close" []),
          .define "dom" (.call (.ident "NewClient") [.select (.ident "tr") "Conn"]),
          .gap] ++ steps) }

def background : Expr := .call (.imported Imports.context "Background") []

def report (name : String) (arguments : List Expr) : Statement :=
  .eval (.invoke (.ident "t") name arguments)

def failsOn (test : Expr) (name : String) : Statement :=
  .when test [report name [.ident "err"]]

def lacks (text : String) : Expr :=
  .binary (.binary (.ident "err") "==" (.ident "nil")) "||"
    (.unary "!" (.call (.imported Imports.strings "Contains")
      [.invoke (.ident "err") "Error" [], .literal text]))

def expectError (text : String) : Statement :=
  .when (lacks text)
    [report "Errorf" [.literal ("unexpected error; got: %v, want " ++ text), .ident "err"]]

def commandTest (root : String) (command : Command) : Decl :=
  let call (arguments : List Expr) : Statement :=
    .assign ⟨(if command.hasReply then [.ident "_"] else []) ++ [.ident "err"], false,
      [.invoke (.ident "dom") command.method (background :: arguments)]⟩
  let absent : List Expr := if command.hasArguments then [.ident "nil"] else []
  let check : List Statement := [failsOn (.isNotNil (.ident "err")) "Error", .gap]
  testDecl root command.method <|
    .declare "err" (.named "error") :: call absent :: check
      ++ (if command.hasArguments then
          call [.address (.composite false (.named command.arguments) [])] :: check else [])
      ++ [.eval (.invoke (.ident "tr") "SetError"
            [.address (.composite false (.imported (Imports.rpcc root) "ResponseError")
              [.mk "Code" (.number "-32000"), .mk "Message" (.literal "bad request")])]),
          call absent,
          expectError "bad request"]

def eventTest (root domain : String) (event : Event) : Decl :=
  let subscribe : Expr := .invoke (.ident "dom") event.method [background]
  let receive : Expr := .invoke (.ident "stream") "Recv" []
  let emit (payload : String) : Statement :=
    .cond
      (some ⟨[.ident "err"], false,
        [.invoke (.ident "tr") "Emit"
          [.literal (event.wireName domain), .convert .bytes (.rawText payload)]]⟩)
      (.isNotNil (.ident "err")) [report "Fatal" [.ident "err"]] []
  testDecl root event.method
    [.assign ⟨[.ident "stream", .ident "err"], true, [subscribe]⟩,
     failsOn (.isNotNil (.ident "err")) "Fatal",
     .defer (.invoke (.ident "stream") "Close" []),
     .gap,
     emit "\x7b\x7d",
     .cond (some ⟨[.ident "_", .ident "err"], false, [receive]⟩) (.isNotNil (.ident "err"))
      [report "Error" [.ident "err"]] [],
     .gap,
     emit "[]",
     .assign ⟨[.ident "_", .ident "err"], false, [receive]⟩,
     expectError (event.method ++ " Recv"),
     .gap,
     .eval (.invoke (.ident "tr") "Close" []),
     .cond (some ⟨[.ident "_", .ident "err"], false, [subscribe]⟩)
      (.binary (.ident "err") "==" (.ident "nil"))
      [report "Error" [.literal "subscribe after close: want error, got nil"]] []]

/-- The tests of a domain; redirected commands have no method to test. -/
def testChunk (root : String) (domain : Domain) : Chunk :=
  .concat
    (domain.ownCommands.map (fun command =>
        .ofDecls (Imports.rpcc root :: testImports root) [commandTest root command])
      ++ domain.events.map fun event =>
        .ofDecls (testImports root) [eventTest root domain.name event])

end Bindings.Emission
