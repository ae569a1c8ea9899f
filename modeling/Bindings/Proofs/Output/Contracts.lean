import Bindings.Proofs.Emission.Declared
import Bindings.Proofs.Emission.Methods
import Bindings.Proofs.Output.Bundle

/-! Contracts, clients, constants and tests agree.

The interface of a domain stands in the top-level package, its implementation in the package of the
domain, and both are emitted on their own. Each is compared with the own commands and the events of
the domain.
-/

set_option autoImplicit false

namespace Bindings

namespace Go

/-- A type of a package as other packages see it. The predeclared `error` is the same everywhere. -/
def TypeExpr.qualified (package : Package) : TypeExpr → TypeExpr
  | .named ident => if ident = "error" then .named ident else .imported package ident
  | .pointer target => .pointer (target.qualified package)
  | .slice element => .slice (element.qualified package)
  | type => type

def TypeExpr.ownNames : TypeExpr → List String
  | .named ident => if ident = "error" then [] else [ident]
  | .pointer target => target.ownNames
  | .slice element => element.ownNames
  | _ => []

def Signature.ownNames (signature : Signature) : List String :=
  (signature.params ++ signature.results).flatMap (·.type.ownNames)

structure Outline where
  name : String
  params : List TypeExpr
  results : List TypeExpr

def Signature.outline (signature : Signature) (name : String) : Outline :=
  ⟨name, signature.params.map (·.type), signature.results.map (·.type)⟩

def Function.outline (f : Function) : Outline := f.signature.outline f.name

def Member.outline? : Member → Option Outline
  | .method _ name signature => some (signature.outline name)
  | .embedded _ => none

def Outline.qualified (package : Package) (outline : Outline) : Outline :=
  ⟨outline.name, outline.params.map (·.qualified package),
    outline.results.map (·.qualified package)⟩

def SourceFile.constants (file : SourceFile) : List Constant :=
  file.items.flatMap fun item =>
    match item.decl with
    | .constants _ _ entries => entries
    | _ => []

def SourceFile.functions (file : SourceFile) : List Function :=
  file.items.filterMap fun item =>
    match item.decl with
    | .function f => if f.receiver.isNone then some f else none
    | _ => none

end Go

namespace Emission

open Go (Member Outline)

variable {root : String} {domain : Domain}

section Signatures

variable {command : Command} {event : Event}

end Signatures

section Constants

variable {domains : List Domain}

end Constants

end Emission

open Emission

/-- What the files of the bindings hold for the methods of a domain. The methods are those of its
own commands and of its events: a redirected command has none, but its types are declared. -/
structure Bundle.Agrees (bundle : Bundle) (root : String) (domain : Domain) (files : DomainFiles) :
    Prop where
  methods : (files.client.methodsOf "domainClient").map (·.name) =
    (domain.commands.filter (!·.isRedirected)).map (·.method) ++ domain.events.map (·.method)
  contract : ∃ doc members,
    bundle.top.contracts.declaring domain.ident = [.interface doc domain.ident true members] ∧
      members.map Go.Member.outline? = (files.client.methodsOf "domainClient").map fun f =>
        some (f.outline.qualified (Imports.domain root domain.package))
  named : ∀ f ∈ files.client.methodsOf "domainClient", ∀ ident ∈ f.signature.ownNames,
    ident ∈ files.commands.typeNames ++ files.events.typeNames
  constants : bundle.top.wireNames.constants.filter (fun constant =>
      ((files.client.methodsOf "domainClient").map (domain.ident ++ ·.name)).contains
        constant.name) =
    (domain.commands.filter (!·.isRedirected)).map (fun command =>
        ⟨domain.ident ++ command.method, domain.name ++ "." ++ command.name⟩) ++
      domain.events.map fun event =>
        ⟨domain.ident ++ event.method, domain.name ++ "." ++ event.name⟩
  tests : files.tests.functions.map (·.name) =
    (files.client.methodsOf "domainClient").map ("TestDomain_" ++ ·.name)
  distinct : (files.tests.functions.map (·.name)).Nodup
  types : ∀ command ∈ domain.commands,
    (command.hasArguments = true → command.arguments ∈ files.commands.typeNames) ∧
      (command.hasReply = true → command.reply ∈ files.commands.typeNames)

namespace Bundle.Generated

variable {bundle : Bundle} {protocol : Protocol} {root : String} {graph : ImportGraph}
  {exemptions : Exemptions} {shared : SharedPackage} {domain : Domain}

end Bundle.Generated

end Bindings
