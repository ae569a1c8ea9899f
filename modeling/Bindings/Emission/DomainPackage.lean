import Bindings.Emission.Tests

/-! The package of a domain: types, commands, events, client and tests.

Types that are shared between domains are defined in the shared package, which
grows from domain to domain.
-/

set_option autoImplicit false

namespace Bindings.Emission

open Go (Decl Doc NameScope SourceFile)

structure SharedPackage where
  scope : NameScope := ⟨"package internal", []⟩
  chunk : Chunk := {}

def Site.share (site : Site) (shared : SharedPackage) (node : TypeNode) :
    Except Error SharedPackage :=
  match sharedIdent? site.domain (node.id.getD "") with
  | none => .ok shared
  | some ident => do
    let scope ← shared.scope.declare ident
    let (scope, chunk) ←
      { site with shared := some ident }.definition node ident (typeDoc node ident) scope
    return ⟨scope, shared.chunk ++ chunk⟩

/-- A declared type, in the package of its domain and in the shared package if need be. -/
def Site.typeStep (site : Site) (state : SharedPackage × NameScope) (node : TypeNode) :
    Except Error ((SharedPackage × NameScope) × Chunk) := do
  let (scope, chunk) ← site.declared state.2 node
  let shared ← site.share state.1 node
  return ((shared, scope), chunk)

def domainDoc (domain : Domain) (lead : String) : Doc :=
  (Doc.ofLead lead domain.docs).notes "domain" domain.experimental domain.deprecated

def clientDecls (root : String) (domain : Domain) : List Decl :=
  let connection : Go.TypeExpr := .pointer (.imported (Imports.rpcc root) "Conn")
  [.type ["domainClient is a client for the " ++ domain.name ++ " domain."] "domainClient"
      (.single (some "conn") connection),
   .function
    { doc := ["NewClient returns a client for the " ++ domain.name
        ++ " domain with the connection set to conn."]
      receiver := none
      name := "NewClient"
      signature := ⟨[⟨some "conn", connection⟩], [.unnamed clientType]⟩
      body := .block
        [.leave [.address
          (.composite false (.named "domainClient") [.mk "conn" (.ident "conn")])]] }]

def clientIdents : List String := ["NewClient", "domainClient"]

/-- The files of a domain package, in the order `types.go`, `command.go`, `event.go`, `domain.go`,
`domain_test.go`. -/
def domainPackage (root : String) (exemptions : Exemptions) (shared : SharedPackage)
    (domain : Domain) : Except Error (SharedPackage × List SourceFile) := do
  let package := domain.package
  let site : Site := { domain := domain.name, root := root, exemptions := exemptions }
  let file (chunk : Chunk) (name : String) : SourceFile :=
    chunk.file (joinPath (joinPath "protocol" package) name) package
  let scope ← NameScope.declareAll ⟨"package " ++ package, []⟩ clientIdents
  let ((shared, scope), types) ← thread site.typeStep (shared, scope) domain.types
  let (scope, commands) ← thread (site.commandTypes domain) scope domain.commands
  let (scope, events) ← thread (site.eventTypes domain) scope domain.events
  let (methods, invocations) ←
    thread (commandMethod root domain) ⟨"methods of " ++ package ++ ".domainClient", []⟩
      domain.ownCommands
  let (_, streams) ← thread (eventMethod root domain) (scope, methods) domain.events
  let client := .ofDecls [Imports.rpcc root] (clientDecls root domain)
    ++ Chunk.concat invocations ++ Chunk.concat streams
  let lead := "Package " ++ package ++ " implements the " ++ domain.name ++ " domain."
  return (shared,
    [file (.concat types) "types.go",
     file (.concat commands) "command.go",
     file (.concat events) "event.go",
     { file client "domain.go" with doc := (domainDoc domain lead).lines },
     file (testChunk root domain) "domain_test.go"])

end Bindings.Emission
