import Bindings.Proofs.Emission.Exact
import Bindings.Proofs.Emission.Plain
import Bindings.Proofs.Go.Qualifiers
import Bindings.Proofs.Output.Links

/-! Which imports of the files are used.

The imports of domain packages and of the shared package are exact, and where the names of a
protocol are plain, a reader of the text comes to the same uses. The file of the interfaces is
different: it imports the package of a domain for any method, also for methods whose signatures name
no type of that package.
-/

set_option autoImplicit false

namespace Bindings

namespace Go

def SourceFile.membersOf (file : SourceFile) (ident : String) : List Member :=
  file.items.flatMap fun item =>
    match item.decl with
    | .interface _ name _ members => if name = ident then members else []
    | _ => []

end Go

open Emission
open Go (Member QualifiedIdent SourceFile Unquoted)

theorem Emission.exact_of_emitDomains {protocol : Protocol} {root : String}
    {exemptions : Exemptions} {shared : SharedPackage} {lists : List (List SourceFile)}
    (h : emitDomains protocol root exemptions = .ok (shared, lists)) : shared.chunk.Exact := by
  refine thread_invariant (I := fun shared : SharedPackage => shared.chunk.Exact) ?_ h .empty
  intro before domain after files _ step exact
  obtain ⟨run, succeeds, -⟩ := domainPackage_eq_ok step
  exact succeeds.exact_shared exact

/-- A file whose text takes nothing from packages that it does not import. All its qualified
identifiers are used by its declarations, or are members that these select from variables. -/
def Go.SourceFile.Closed (file : SourceFile) : Prop :=
  ∀ pair ∈ qualified file.render,
    (∃ used ∈ file.foreign, used.pair = pair ∧ used.path ∈ file.imports) ∨ pair ∈ file.selections

theorem Go.SourceFile.Exact.closed {file : SourceFile} (exact : file.Exact) (plain : file.Plain) :
    file.Closed := by
  intro pair member
  refine (qualified_render plain member).imp_left fun ⟨used, found, same⟩ => ⟨used, found, same, ?_⟩
  exact (exact.imports used.path).2 ⟨used, found, rfl, file.piece_mem_print found⟩

/-- The target of a reference is printed in words if its domain and its type are called so. -/
theorem Reference.plain_type {root raw owner : String} {reference : Reference}
    (resolved : Reference.resolve raw owner = .ok reference) (ofDomain : PlainName reference.domain)
    (named : PlainName reference.name) : (reference.type root).Plain := by
  obtain ⟨-, -, -, rfl⟩ := Reference.resolve_eq_ok.1 resolved
  rcases Reference.locate_cases (Reference.parts raw owner).1 (Reference.parts raw owner).2 owner
    with ⟨-, same⟩ | ⟨-, shared, found, same⟩ | ⟨-, -, same⟩
  · rw [same] at named
    simp only [same, Reference.type, Go.TypeExpr.Plain]
    exact (isWord_withoutDomain named.exported).plain
  · simp only [same, Reference.type, Go.TypeExpr.Plain]
    exact ⟨Imports.isWord_internal root,
      isWord_of_sharedTypes shared (List.mem_of_find?_eq_some found)⟩
  · rw [same] at ofDomain named
    simp only [same, Reference.type, Go.TypeExpr.Plain]
    exact ⟨ofDomain.package, isWord_withoutDomain named.exported⟩

section Protocol

variable {protocol : Protocol} {root : String}
  (named : ∀ name ∈ protocol.givenNames, PlainName name)
include named

/-- All references of a protocol lead to types that it names itself. -/
theorem Emission.clear_of_graph {graph : ImportGraph} {exemptions : Exemptions} {domain : Domain}
    (built : ImportGraph.ofProtocol protocol = .ok graph) (member : domain ∈ protocol.domains) :
    (domainSite root exemptions domain).Clear domain.givenNames domain.references where
  names name inside := named name (List.mem_flatMap.2 ⟨domain, member, inside⟩)
  references raw found reference resolved := by
    obtain ⟨known, admits⟩ := ((ImportGraph.ofProtocol_eq_ok built).2 domain member).2 raw found
    obtain rfl : known = reference := Except.ok.inj (admits.resolved.symm.trans resolved)
    obtain ⟨node, target⟩ := admits.declared
    obtain ⟨owner, listed, called, type⟩ := Protocol.owner_of_target target
    obtain ⟨declared, id⟩ := Domain.type?_eq_some type
    have given {name : String} (inside : name ∈ owner.givenNames) : PlainName name :=
      named name (List.mem_flatMap.2 ⟨owner, listed, inside⟩)
    have ofDomain := given Domain.name_mem_givenNames
    have ofType := given (Domain.type_names_subset declared List.mem_cons_self)
    rw [called] at ofDomain
    rw [id] at ofType
    exact Reference.plain_type resolved ofDomain ofType

theorem Emission.plain_of_emitDomains {graph : ImportGraph} {exemptions : Exemptions}
    {shared : SharedPackage} {lists : List (List SourceFile)}
    (built : ImportGraph.ofProtocol protocol = .ok graph)
    (h : emitDomains protocol root exemptions = .ok (shared, lists)) : shared.chunk.Plain := by
  refine thread_invariant (I := fun shared : SharedPackage => shared.chunk.Plain) ?_ h .empty
  intro before domain after files member step plain
  obtain ⟨run, succeeds, -⟩ := domainPackage_eq_ok step
  exact succeeds.plain_shared (clear_of_graph named built (List.mem_mergeSort.1 member)) plain

/-- The text of the domain packages and of the shared definitions takes from other packages what
their declarations use, and nothing else. -/
theorem package_qualifiers {files : List SourceFile} (rooted : Unquoted root)
    (h : generate protocol root = .ok files) :
    ∃ bundle : Bundle, bundle.Arranges protocol files ∧
      (∀ entry ∈ bundle.packages, ∀ file ∈ entry.2.list, file.Closed) ∧
      bundle.sharedTypes.Closed := by
  obtain ⟨bundle, graph, exemptions, shared, arranges, generated⟩ := generate_eq_ok h
  refine ⟨bundle, arranges, fun entry member file listed => ?_, ?_⟩
  · have clear : (domainSite root exemptions entry.1).Clear entry.1.givenNames entry.1.references :=
      clear_of_graph named generated.built (arranges.mem_domains member)
    obtain ⟨run, before, after, succeeds, same, -⟩ := generated.packages entry member
    rw [same] at listed
    exact (succeeds.exact_files listed).closed (succeeds.plain_files clear rooted listed)
  · obtain ⟨lists, emitted⟩ := generated.emitted
    rw [generated.sharedTypes]
    refine ((exact_of_emitDomains emitted).file _ _ _).closed
      ((plain_of_emitDomains named generated.built emitted).file allUnbroken_nil
        (show Go.Plain "internal" by decide) fun path inside => ?_)
    exact unquoted_standardPaths path
      (generated.sound.adds.imports path (Chunk.mem_imports_file.1 inside))

end Protocol

theorem package_qualifiers_sampleProtocol :
    ∃ files, generate sampleProtocol "r" = .ok files ∧
      ∃ bundle : Bundle, bundle.Arranges sampleProtocol files ∧
        (∀ entry ∈ bundle.packages, ∀ file ∈ entry.2.list, file.Closed) ∧
        bundle.sharedTypes.Closed := by
  obtain ⟨files, generates⟩ := sampleProtocol_generates
  exact ⟨files, generates, package_qualifiers (by decide +kernel) (by decide) generates⟩

namespace Emission

variable {root : String} {domain : Domain} {domains : List Domain} {version : Option Version}

section Contracts

theorem foreign_commandMember (command : Command) :
    (commandMember root domain command).foreign =
      ⟨Imports.context, "Context"⟩ ::
        ((if command.hasArguments then
            [⟨Imports.domain root domain.package, command.arguments⟩] else []) ++
          if command.hasReply then
            [⟨Imports.domain root domain.package, command.reply⟩] else []) := by
  cases arguments : command.hasArguments <;> cases reply : command.hasReply <;>
    simp [commandMember, Member.foreign, Go.Signature.foreign, commandContract, arguments, reply]

theorem foreign_eventMember (event : Event) :
    (eventMember root domain event).foreign =
      [⟨Imports.context, "Context"⟩, ⟨Imports.domain root domain.package, event.client⟩] := by
  simp [eventMember, Member.foreign, Go.Signature.foreign, eventContract]

/-- A member uses the context, and no package but that of its domain beside it. -/
theorem foreign_contractMember {member : Member} (found : member ∈ contractMembers root domain) :
    ⟨Imports.context, "Context"⟩ ∈ member.foreign ∧
      ∀ used ∈ member.foreign,
        used.package = Imports.context ∨ used.package = Imports.domain root domain.package := by
  rcases List.mem_append.1 found with found | found
  · obtain ⟨command, -, rfl⟩ := List.mem_map.1 found
    rw [foreign_commandMember]
    cases command.hasArguments <;> cases command.hasReply <;> simp
  · obtain ⟨event, -, rfl⟩ := List.mem_map.1 found
    rw [foreign_eventMember]
    simp

theorem context_ne_domain (package : String) :
    Imports.context.path ≠ (Imports.domain root package).path := by
  intro same
  -- The path of a domain package is divided by slashes.
  have divided : '/' ∈ Imports.context.path.toList := by
    rw [same]
    simp [Imports.domain]
  exact absurd divided (by decide)

/-- A signature of an interface names a type of the package of its domain where a command has
arguments or a reply, and for every event. -/
theorem names_type_iff :
    (∃ member ∈ contractMembers root domain, ∃ used ∈ member.foreign,
        used.package = Imports.domain root domain.package) ↔
      (∃ command ∈ domain.ownCommands, command.hasArguments = true ∨ command.hasReply = true) ∨
        domain.events ≠ [] := by
  have other : Imports.context ≠ Imports.domain root domain.package :=
    fun same => context_ne_domain domain.package (congrArg (·.path) same)
  constructor
  · rintro ⟨member, found, used, inside, same⟩
    rcases List.mem_append.1 found with found | found
    · obtain ⟨command, own, rfl⟩ := List.mem_map.1 found
      refine .inl ⟨command, own, ?_⟩
      rw [foreign_commandMember] at inside
      by_contra! plain
      simp only [plain.1, plain.2, Bool.false_eq_true, if_false, List.append_nil,
        List.mem_singleton] at inside
      rw [inside] at same
      exact other same
    · obtain ⟨event, own, rfl⟩ := List.mem_map.1 found
      exact .inr (List.ne_nil_of_mem own)
  · rintro (⟨command, own, has⟩ | some_)
    · refine ⟨_, List.mem_append_left _ (List.mem_map_of_mem own), ?_⟩
      rw [foreign_commandMember]
      rcases has with has | has <;> simp [has]
    · obtain ⟨event, own⟩ := List.exists_mem_of_ne_nil _ some_
      refine ⟨_, List.mem_append_right _ (List.mem_map_of_mem own), ?_⟩
      simp [foreign_eventMember]

theorem items_contracts :
    (topFiles root version domains).contracts.items =
      domains.map fun domain => ⟨contractDecl root domain, true⟩ := by
  simp only [topFiles, Chunk.file, Chunk.items_concat, List.flatMap_map, contractChunk,
    Chunk.items_ofDecls, List.map_cons, List.map_nil, ← List.map_eq_flatMap]

theorem foreign_contracts :
    (topFiles root version domains).contracts.foreign =
      domains.flatMap fun domain => (contractMembers root domain).flatMap Member.foreign := by
  rw [SourceFile.foreign, items_contracts, List.flatMap_map]
  rfl

theorem mem_imports_contracts {path : String} :
    path ∈ (topFiles root version domains).contracts.imports ↔
      ∃ domain ∈ domains, contractMembers root domain ≠ [] ∧
        (path = Imports.context.path ∨ path = (Imports.domain root domain.package).path) := by
  simp only [topFiles, Chunk.mem_imports_file, Chunk.imports_concat, List.mem_flatMap,
    List.mem_map, exists_exists_and_eq_and, contractChunk, Chunk.mem_imports_ofDecls]
  refine exists_congr fun domain => and_congr_right fun _ => ?_
  cases contractMembers root domain <;> simp [eq_comm]

theorem membersOf_contracts (distinct : (domains.map (·.ident)).Nodup) (member : domain ∈ domains) :
    (topFiles root version domains).contracts.membersOf domain.ident =
      contractMembers root domain := by
  have each : (topFiles root version domains).contracts.membersOf domain.ident =
      domains.flatMap fun other =>
        if other.ident = domain.ident then contractMembers root other else [] := by
    rw [SourceFile.membersOf, items_contracts, List.flatMap_map]
    rfl
  have keys : (domains.flatMap fun other => [other.ident]).Nodup := by
    rwa [← List.map_eq_flatMap]
  have silent {other found : Domain} (_ : other ∈ domains) (same : other = found)
      (apart : domain.ident ∉ [other.ident]) :
      (if found.ident = domain.ident then contractMembers root found else []) = [] :=
    if_neg fun again => apart (List.mem_singleton.2 (same ▸ again.symm))
  obtain ⟨_, -, rfl, same⟩ := flatMap_eq_of_key keys (List.forall₂_same.2 fun _ _ => rfl) member
    (List.mem_singleton_self _) silent
  rw [each, same, if_pos rfl]

end Contracts

/-- The client file uses the transport once, and the package of every domain. -/
theorem exact_rootClientItems :
    Chunk.Exact ⟨(Imports.rpcc root).path ::
      domains.map fun domain => (Imports.domain root domain.package).path,
      rootClientItems root domains⟩ where
  imports path := by
    have fields : Go.Field.listForeign
        (domains.map fun domain => .mk [] domain.ident (.named domain.ident) none) = [] := by
      simp [Go.Field.listForeign_eq_flatMap, List.flatMap_map, Go.Field.type]
    have elements : Go.Element.listForeign (domains.map fun domain =>
        .mk domain.ident
          (.call (.imported (Imports.domain root domain.package) "NewClient") [.ident "conn"])) =
        domains.map fun domain => ⟨Imports.domain root domain.package, "NewClient"⟩ := by
      rw [Go.Element.listForeign_eq_flatMap, List.flatMap_map, List.map_eq_flatMap]
      simp [Go.Element.value]
    have uses : Chunk.foreign ⟨(Imports.rpcc root).path ::
        domains.map fun domain => (Imports.domain root domain.package).path,
        rootClientItems root domains⟩ =
          ⟨Imports.rpcc root, "Conn"⟩ ::
            domains.map fun domain => ⟨Imports.domain root domain.package, "NewClient"⟩ := by
      simp [Chunk.foreign, rootClientItems, Go.Function.foreign, Go.Signature.foreign,
        Go.Body.foreign, fields, elements]
    rw [uses, List.map_cons, List.map_map]
    rfl
  explicit := by simp [rootClientItems, Go.Decl.isFixed]

end Emission

/-- What the files of the top-level package import and use. -/
structure Bundle.TopImports (bundle : Bundle) (protocol : Protocol) (root : String) : Prop where
  context : Imports.context.path ∈ bundle.top.contracts.imports ↔
    ∃ domain ∈ protocol.domains, bundle.top.contracts.membersOf domain.ident ≠ []
  packages : ∀ domain ∈ protocol.domains,
    (Imports.domain root domain.package).path ∈ bundle.top.contracts.imports ↔
      ∃ owner ∈ protocol.domains, owner.package = domain.package ∧
        bundle.top.contracts.membersOf owner.ident ≠ []
  others : ∀ path ∈ bundle.top.contracts.imports, path = Imports.context.path ∨
    ∃ domain ∈ protocol.domains, path = (Imports.domain root domain.package).path
  named : ∀ domain ∈ protocol.domains,
    (∃ member ∈ bundle.top.contracts.membersOf domain.ident, ∃ used ∈ member.foreign,
        used.package = Imports.domain root domain.package) ↔
      (∃ command ∈ domain.ownCommands, command.hasArguments = true ∨ command.hasReply = true) ∨
        domain.events ≠ []
  contextUsed : Imports.context.path ∈ bundle.top.contracts.imports →
    ⟨Imports.context, "Context"⟩ ∈ bundle.top.contracts.foreign
  imported : ∀ used ∈ bundle.top.contracts.foreign, used.path ∈ bundle.top.contracts.imports
  client : bundle.top.client.Exact
  wireNames : bundle.top.wireNames.imports = []
  errors : bundle.top.errors.imports = [Imports.errors.path]
  unwraps : ∃ text, bundle.top.errors.items = [⟨.verbatim ["ErrorCause"] text, false⟩] ∧
    "\t\tcause := errors.Unwrap(err)".toList ∈ Text.splitWhere (· == '\n') text.toList

namespace Bundle.Generated

variable {bundle : Bundle} {protocol : Protocol} {root : String} {graph : ImportGraph}
  {exemptions : Exemptions} {shared : SharedPackage} {domain : Domain}

theorem membersOf_eq (h : bundle.Generated protocol root graph exemptions shared)
    (member : domain ∈ protocol.domains) :
    bundle.top.contracts.membersOf domain.ident = contractMembers root domain := by
  have distinct : ((sortByName protocol.domains).map (·.ident)).Nodup :=
    ((sortByName_perm protocol.domains).map (·.ident)).nodup_iff.2 h.idents_nodup
  rw [h.top]
  exact membersOf_contracts distinct (List.mem_mergeSort.2 member)

/-- The interfaces import for their methods alone, whatever these name. -/
theorem mem_contracts_imports (h : bundle.Generated protocol root graph exemptions shared)
    {path : String} : path ∈ bundle.top.contracts.imports ↔ ∃ domain ∈ protocol.domains,
      bundle.top.contracts.membersOf domain.ident ≠ [] ∧
        (path = Imports.context.path ∨ path = (Imports.domain root domain.package).path) := by
  have ofSorted : path ∈ bundle.top.contracts.imports ↔
      ∃ domain ∈ sortByName protocol.domains, contractMembers root domain ≠ [] ∧
        (path = Imports.context.path ∨ path = (Imports.domain root domain.package).path) := by
    rw [h.top, mem_imports_contracts]
  rw [ofSorted]
  refine exists_congr fun domain => ?_
  rw [sortByName, List.mem_mergeSort]
  exact and_congr_right fun member => by rw [h.membersOf_eq member]

theorem mem_contracts_foreign (h : bundle.Generated protocol root graph exemptions shared)
    {used : QualifiedIdent} : used ∈ bundle.top.contracts.foreign ↔ ∃ domain ∈ protocol.domains,
      ∃ member ∈ contractMembers root domain, used ∈ member.foreign := by
  simp only [h.top, foreign_contracts, List.mem_flatMap, sortByName, List.mem_mergeSort]

theorem topImports (h : bundle.Generated protocol root graph exemptions shared) :
    bundle.TopImports protocol root where
  context := by
    rw [h.mem_contracts_imports]
    exact ⟨fun ⟨domain, member, some_, _⟩ => ⟨domain, member, some_⟩,
      fun ⟨domain, member, some_⟩ => ⟨domain, member, some_, .inl rfl⟩⟩
  packages domain _ := by
    rw [h.mem_contracts_imports]
    constructor
    · rintro ⟨owner, member, some_, context | same⟩
      · exact absurd context.symm (context_ne_domain domain.package)
      · exact ⟨owner, member, (String.append_right_inj _).1 same.symm, some_⟩
    · rintro ⟨owner, member, same, some_⟩
      exact ⟨owner, member, some_, .inr (by rw [same])⟩
  others path inside := by
    obtain ⟨domain, member, -, same⟩ := h.mem_contracts_imports.1 inside
    exact same.imp_right fun same => ⟨domain, member, same⟩
  named domain member := by
    rw [h.membersOf_eq member]
    exact names_type_iff
  contextUsed inside := by
    obtain ⟨domain, member, some_, -⟩ := h.mem_contracts_imports.1 inside
    rw [h.membersOf_eq member] at some_
    obtain ⟨method, found⟩ := List.exists_mem_of_ne_nil _ some_
    exact h.mem_contracts_foreign.2
      ⟨domain, member, method, found, (foreign_contractMember found).1⟩
  imported used inside := by
    obtain ⟨domain, member, method, found, inside⟩ := h.mem_contracts_foreign.1 inside
    refine h.mem_contracts_imports.2 ⟨domain, member, ?_, ?_⟩
    · rw [h.membersOf_eq member]
      exact List.ne_nil_of_mem found
    · exact ((foreign_contractMember found).2 used inside).imp (congrArg Go.Package.path)
        (congrArg Go.Package.path)
  client := by
    rw [h.top]
    exact exact_rootClientItems.file _ _ _
  wireNames := by
    rw [h.top]
    rfl
  errors := by
    rw [h.top]
    rfl
  unwraps := by
    -- This file is fixed text, in which the one import has to be looked for.
    obtain ⟨text, same, unwraps⟩ := unwraps_errorCauseSource
    refine ⟨text, ?_, unwraps⟩
    rw [h.top, ← same]
    rfl

end Bundle.Generated

/-- The interfaces import the package of a domain exactly for their methods, whether or not a
signature names a type of it; all other imports of the top-level package are used. -/
theorem top_imports {protocol : Protocol} {root : String} {files : List SourceFile}
    (h : generate protocol root = .ok files) :
    ∃ bundle : Bundle, bundle.Arranges protocol files ∧ bundle.TopImports protocol root := by
  obtain ⟨bundle, graph, exemptions, shared, arranges, generated⟩ := generate_eq_ok h
  exact ⟨bundle, arranges, generated.topImports⟩

theorem top_imports_sampleProtocol :
    ∃ files, generate sampleProtocol "r" = .ok files ∧
      ∃ bundle : Bundle, bundle.Arranges sampleProtocol files ∧
        bundle.TopImports sampleProtocol "r" := by
  obtain ⟨files, generates⟩ := sampleProtocol_generates
  exact ⟨files, generates, top_imports generates⟩

def tetheringProtocol : Protocol where
  domains := [{ name := "Tethering", commands := [{ name := "enable" }] }]

theorem tetheringProtocol_sorted :
    sortByName tetheringProtocol.domains = tetheringProtocol.domains :=
  sortByName_of_pairwise (List.pairwise_singleton _ _)

/-- The package of the domain is imported, and no signature names a type of it. -/
theorem top_imports_unused :
    ∃ files, generate tetheringProtocol "r" = .ok files ∧ ∃ file ∈ files,
      file.path = "cdp_domains.go" ∧ "r/protocol/tethering" ∈ file.imports ∧
        "r/protocol/tethering" ∉ file.foreign.map (·.path) := by
  have found : (generate tetheringProtocol "r").toOption.any fun files => files.any fun file =>
      file.path == "cdp_domains.go" && file.imports.contains "r/protocol/tethering" &&
        !(file.foreign.map (·.path)).contains "r/protocol/tethering" := by
    simp only [generate, emitDomains, assemble, tetheringProtocol_sorted]
    decide +kernel
  obtain ⟨files, generates, found⟩ := exists_ok_of_any found
  obtain ⟨file, listed, holds⟩ := List.any_eq_true.1 found
  simp only [Bool.and_eq_true, beq_iff_eq, Bool.not_eq_true', List.contains_iff_mem,
    ← Bool.not_eq_true] at holds
  exact ⟨files, generates, file, listed, holds.1.1, holds.1.2, holds.2⟩

end Bindings
