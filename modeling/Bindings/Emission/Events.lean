import Bindings.Emission.Commands

/-! Events: the types of their streams and replies, and the methods that subscribe to them. -/

set_option autoImplicit false

namespace Bindings.Emission

open Go (Decl Doc Expr Member NameScope Param Signature Statement TypeExpr)

def stream (root : String) : TypeExpr := .imported (Imports.rpcc root) "Stream"

def replyResults (event : Event) : List Param :=
  [.unnamed (.pointer (.named event.reply)), .unnamed (.named "error")]

def streamDoc (event : Event) : Doc :=
  (Doc.ofLead (event.client ++ " is a client for " ++ event.method ++ " events.") event.docs).notes
    "event" event.experimental event.deprecated

def streamDecl (root : String) (event : Event) : Decl :=
  .interface (streamDoc event).lines event.client false
    [.method
      ["Recv calls RecvMsg on rpcc.Stream, blocks until the event is",
       "triggered, context canceled or connection closed."]
      "Recv" ⟨[], replyResults event⟩,
     .embedded (stream root)]

/-- The types of an event: both identifiers are declared before the fields are looked at. -/
def Site.eventTypes (site : Site) (domain : Domain) (scope : NameScope) (event : Event) :
    Except Error (NameScope × Chunk) := do
  let scope ← scope.declareAll [event.client, event.reply]
  let uses ← site.structFields event.parameters event.reply
  let doc := event.reply ++ " is the reply for " ++ event.wireName domain.name ++ " events."
  let reply : Chunk := ⟨uses.imports, [⟨.type [doc] event.reply (.struct uses.fields), true⟩]⟩
  return (scope, .ofDecls [Imports.rpcc site.root] [streamDecl site.root event] ++ reply)

def wrapperName (event : Event) : String := Name.parameter event.name ++ "Client"

def subscribeDoc (event : Event) (domain : Domain) : Doc :=
  (Doc.ofLead
      (event.method ++ " opens an event stream for the " ++ event.wireName domain.name ++ " event.")
      event.docs).notes
    "event" event.experimental event.deprecated

def subscribeSignature (event : Event) : Signature :=
  ⟨[⟨some "ctx", .imported Imports.context "Context"⟩],
   [.unnamed (.named event.client), .unnamed (.named "error")]⟩

def subscribeDecl (root : String) (domain : Domain) (event : Event) : Decl :=
  .function
    { doc := (subscribeDoc event domain).lines
      receiver := some ⟨some "d", clientType⟩
      name := event.method
      signature := subscribeSignature event
      body := .block
        [.assign ⟨[.ident "s", .ident "err"], true,
          [.call (.imported (Imports.rpcc root) "NewStream")
            [.ident "ctx", .literal (event.wireName domain.name), .select (.ident "d") "conn"]]⟩,
         .when (.isNotNil (.ident "err"))
          [.leave [.ident "nil", opError root domain.name event.method]],
         .leave
          [.address (.composite false (.named (wrapperName event)) [.mk "Stream" (.ident "s")]),
           .ident "nil"]] }

def wrapperDecls (root : String) (domain : Domain) (event : Event) : List Decl :=
  let receiver : TypeExpr := .pointer (.named (wrapperName event))
  [.type [] (wrapperName event) (.single none (stream root)),
   .function
    { doc := ["GetStream returns the underlying rpcc.Stream."]
      receiver := some ⟨some "c", receiver⟩
      name := "GetStream"
      signature := ⟨[], [.unnamed (stream root)]⟩
      body := .brief (.select (.ident "c") "Stream") },
   method [] "c" receiver "Recv" [] (replyResults event)
    [.define "event" (.call (.ident "new") [.ident event.reply]),
     .cond
      (some ⟨[.ident "err"], true, [.invoke (.ident "c") "RecvMsg" [.ident "event"]]⟩)
      (.isNotNil (.ident "err"))
      [.leave [.ident "nil", opError root domain.name (event.method ++ " Recv")]] [],
     .leave [.ident "event", .ident "nil"]]]

/-- The method that subscribes to an event, and its stream type. The scopes are those of the
package and of the methods of the client. -/
def eventMethod (root : String) (domain : Domain) (scopes : NameScope × NameScope) (event : Event) :
    Except Error ((NameScope × NameScope) × Chunk) := do
  let methods ← scopes.2.declare event.method
  let scope ← scopes.1.declare (wrapperName event)
  return ((scope, methods), .ofDecls [Imports.context, Imports.rpcc root, Imports.internal root]
    (subscribeDecl root domain event :: wrapperDecls root domain event))

def eventContract (event : Event) (root : String) (domain : Domain) : Signature :=
  ⟨[.unnamed (.imported Imports.context "Context")],
   [.unnamed (.imported (Imports.domain root domain.package) event.client),
    .unnamed (.named "error")]⟩

end Bindings.Emission
