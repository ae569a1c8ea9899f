import Bindings.Emission.DomainPackage
import Bindings.Emission.Fixed

/-! The top-level package: the client over all domains, their interfaces, and the wire names. -/

set_option autoImplicit false

namespace Bindings.Emission

open Go (Constant Decl Doc Member NameScope SourceFile)

def rootPackage : String := "cdp"

def clientPackageDoc (version : Option Version) : List String :=
  "Package cdp provides type-safe bindings for the Chrome DevTools Protocol (CDP)." ::
    match version with
    | some v => ["", "Generated from protocol version " ++ v.major ++ "." ++ v.minor ++ "."]
    | none => []

def rootClientItems (root : String) (domains : List Domain) : List Go.Item :=
  [⟨.type
      ["Client represents a Chrome DevTools Protocol client that can be used to",
       "invoke methods or listen to events in every CDP domain. The Client consumes",
       "a rpcc connection, used to invoke the methods."]
      "Client"
      (.struct (domains.map fun domain => .mk [] domain.ident (.named domain.ident) none)), true⟩,
   ⟨.function
      { doc := ["NewClient returns a new Client that uses conn",
          "for communication with the debugging target."]
        receiver := none
        name := "NewClient"
        signature :=
          ⟨[⟨some "conn", .pointer (.imported (Imports.rpcc root) "Conn")⟩],
           [.unnamed (.pointer (.named "Client"))]⟩
        body := .block
          [.leave [.address (.composite true (.named "Client")
            (domains.map fun domain =>
              .mk domain.ident
                (.call (.imported (Imports.domain root domain.package) "NewClient")
                  [.ident "conn"])))]] },
    false⟩]

def rootClientFile (root : String) (version : Option Version) (domains : List Domain)
    (scope : NameScope) : Except Error (NameScope × SourceFile) := do
  let scope ← scope.declareAll ["Client", "NewClient"]
  let imports := (Imports.rpcc root).path ::
    domains.map fun domain => (Imports.domain root domain.package).path
  return (scope,
    Chunk.file ⟨imports, rootClientItems root domains⟩ "cdp_client.go" rootPackage
      (clientPackageDoc version))

def commandMember (root : String) (domain : Domain) (command : Command) : Member :=
  let doc := ((Doc.ofLead ("Command " ++ command.wireName domain.name) []).paragraph
    command.docs).notes "command" command.experimental command.deprecated
  .method doc.lines command.method (commandContract command root domain)

def eventMember (root : String) (domain : Domain) (event : Event) : Member :=
  let doc := ((Doc.ofLead ("Event " ++ event.wireName domain.name) []).paragraph
    event.docs).notes "event" event.experimental event.deprecated
  .method doc.lines event.method (eventContract event root domain)

def Domain.methods (domain : Domain) : List String :=
  domain.ownCommands.map (·.method) ++ domain.events.map (·.method)

/-- The interface of a domain. It counts as using the packages of its signatures as soon as it has
a method. -/
def contract (root : String) (scope : NameScope) (domain : Domain) :
    Except Error (NameScope × Chunk) := do
  let scope ← scope.declare domain.ident
  let _ ← NameScope.declareAll ⟨"interface " ++ rootPackage ++ "." ++ domain.ident, []⟩
    (Domain.methods domain)
  let members := domain.ownCommands.map (commandMember root domain)
    ++ domain.events.map (eventMember root domain)
  let imports :=
    if members.isEmpty then [] else [Imports.context, Imports.domain root domain.package]
  let doc := domainDoc domain ("The " ++ domain.name ++ " domain.")
  return (scope, .ofDecls imports [.interface doc.lines domain.ident true members])

def contractsFile (root : String) (domains : List Domain) (scope : NameScope) :
    Except Error (NameScope × SourceFile) := do
  let (scope, chunks) ← thread (contract root) scope domains
  return (scope, (Chunk.concat chunks).file "cdp_domains.go" rootPackage)

def wireConstants (domain : Domain) : List Constant × List Constant :=
  (domain.ownCommands.map fun command =>
      ⟨domain.ident ++ command.method, command.wireName domain.name⟩,
   domain.events.map fun event => ⟨domain.ident ++ event.method, event.wireName domain.name⟩)

def constantBlock (doc : String) (entries : List Constant) : List Decl :=
  if entries.isEmpty then [] else [.constants [doc] none entries]

def wireNamesFile (domains : List Domain) (scope : NameScope) :
    Except Error (NameScope × SourceFile) := do
  let constants := domains.map wireConstants
  let scope ← scope.declareAll (constants.flatMap fun c => (c.1 ++ c.2).map (·.name))
  let decls := constantBlock "Domain methods." (constants.flatMap (·.1))
    ++ constantBlock "Domain events." (constants.flatMap (·.2))
  return (scope, (Chunk.ofDecls [] decls).file "cdp_methods.go" rootPackage)

/-- The files of the package; all of them declare into one scope. -/
def rootFiles (root : String) (version : Option Version) (domains : List Domain) :
    Except Error (List SourceFile) := do
  let scope : NameScope := ⟨"package " ++ rootPackage, []⟩
  let (scope, client) ← rootClientFile root version domains scope
  let (scope, contracts) ← contractsFile root domains scope
  let (scope, names) ← wireNamesFile domains scope
  let (_, errors) ← errorsFile scope
  return [client, contracts, names, errors]

end Bindings.Emission
