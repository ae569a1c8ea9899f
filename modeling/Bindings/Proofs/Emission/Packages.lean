import Bindings.Emission.RootPackage
import Bindings.Proofs.Emission.Operations

/-! The package of a domain, accounted for as a whole.

A run of the steps that emit a package is taken apart once. What its files declare, import and hold
follows from what each step adds.
-/

set_option autoImplicit false

namespace Bindings.Emission

open Go (Decl NameScope SourceFile)
open Name (SolidName solidName_append)

structure DomainFiles where
  types : SourceFile
  commands : SourceFile
  events : SourceFile
  client : SourceFile
  tests : SourceFile

def DomainFiles.list (files : DomainFiles) : List SourceFile :=
  [files.types, files.commands, files.events, files.client, files.tests]

def domainSite (root : String) (exemptions : Exemptions) (domain : Domain) : Site :=
  { domain := domain.name, root := root, exemptions := exemptions }

/-- What the steps of a domain package emit, with the scope of the package and that of the methods
of its client between them. -/
structure PackageRun where
  types : List Chunk
  commands : List Chunk
  events : List Chunk
  reserved : NameScope
  declared : NameScope
  commanded : NameScope
  evented : NameScope
  closed : NameScope
  invoked : NameScope
  subscribed : NameScope

/-- The steps of a run: the shared package goes from `before` to `after` with the types. -/
structure PackageRun.Succeeds (run : PackageRun) (root : String) (exemptions : Exemptions)
    (before after : SharedPackage) (domain : Domain) : Prop where
  reserves : NameScope.declareAll ⟨"package " ++ domain.package, []⟩ clientIdents = .ok run.reserved
  types : thread (domainSite root exemptions domain).typeStep (before, run.reserved) domain.types =
    .ok ((after, run.declared), run.types)
  commands : thread ((domainSite root exemptions domain).commandTypes domain) run.declared
    domain.commands = .ok (run.commanded, run.commands)
  events : thread ((domainSite root exemptions domain).eventTypes domain) run.commanded
    domain.events = .ok (run.evented, run.events)
  invocations : thread (commandMethod root domain)
    ⟨"methods of " ++ domain.package ++ ".domainClient", []⟩ domain.ownCommands =
      .ok (run.invoked, domain.ownCommands.map (invokeChunk root domain))
  streams : thread (eventMethod root domain) (run.evented, run.invoked) domain.events =
    .ok ((run.closed, run.subscribed), domain.events.map (subscribeChunk root domain))

def packageFile (domain : Domain) (chunk : Chunk) (name : String) : SourceFile :=
  chunk.file (joinPath (joinPath "protocol" domain.package) name) domain.package

def clientChunk (root : String) (domain : Domain) : Chunk :=
  .ofDecls [Imports.rpcc root] (clientDecls root domain)
    ++ Chunk.concat (domain.ownCommands.map (invokeChunk root domain))
    ++ Chunk.concat (domain.events.map (subscribeChunk root domain))

def packageDoc (domain : Domain) : List String :=
  (domainDoc domain
    ("Package " ++ domain.package ++ " implements the " ++ domain.name ++ " domain.")).lines

def PackageRun.files (run : PackageRun) (root : String) (domain : Domain) : DomainFiles where
  types := packageFile domain (.concat run.types) "types.go"
  commands := packageFile domain (.concat run.commands) "command.go"
  events := packageFile domain (.concat run.events) "event.go"
  client := { packageFile domain (clientChunk root domain) "domain.go" with
    doc := packageDoc domain }
  tests := packageFile domain (testChunk root domain) "domain_test.go"

theorem domainPackage_eq_ok {root : String} {exemptions : Exemptions} {before after : SharedPackage}
    {domain : Domain} {files : List SourceFile}
    (h : domainPackage root exemptions before domain = .ok (after, files)) :
    ∃ run : PackageRun, run.Succeeds root exemptions before after domain ∧
      files = (run.files root domain).list := by
  obtain ⟨reserved, reserves, h⟩ := bind_eq_ok.1 h
  obtain ⟨⟨⟨shared, declared⟩, types⟩, typeSteps, h⟩ := bind_eq_ok.1 h
  obtain ⟨⟨commanded, commands⟩, commandSteps, h⟩ := bind_eq_ok.1 h
  obtain ⟨⟨evented, events⟩, eventSteps, h⟩ := bind_eq_ok.1 h
  obtain ⟨⟨invoked, invocations⟩, invokeSteps, h⟩ := bind_eq_ok.1 h
  obtain ⟨⟨⟨closed, subscribed⟩, streams⟩, streamSteps, h⟩ := bind_eq_ok.1 h
  cases pure_eq_ok.1 h
  -- What a method looks like does not depend on the scopes, unlike the other steps.
  have invokes : invocations = domain.ownCommands.map (invokeChunk root domain) := by
    refine thread_outputs ?_ invokeSteps
    intro methods command accepted chunk step
    exact (commandMethod_eq_ok step).2
  have subscribes : streams = domain.events.map (subscribeChunk root domain) := by
    refine thread_outputs ?_ streamSteps
    intro scopes event accepted chunk step
    exact (eventMethod_eq_ok step).2.2
  rw [invokes] at invokeSteps
  rw [subscribes] at streamSteps
  rw [invokes, subscribes]
  exact ⟨⟨types, commands, events, reserved, declared, commanded, evented, closed, invoked,
    subscribed⟩, ⟨reserves, typeSteps, commandSteps, eventSteps, invokeSteps, streamSteps⟩, rfl⟩

/-- What the files of a package may import: apart from fixed packages, only what the references of
its domain lead to. -/
inductive MayImport (root : String) (domain : Domain) : String → Prop where
  | standard {path : String} (member : path ∈ standardPaths) : MayImport root domain path
  | transport : MayImport root domain (Imports.rpcc root).path
  | testing : MayImport root domain (Imports.testutil root).path
  | internal : MayImport root domain (Imports.internal root).path
  | reference {raw path : String} {reference : Reference} (member : raw ∈ domain.references)
      (resolved : Reference.resolve raw domain.name = .ok reference)
      (led : path ∈ reference.imports root) : MayImport root domain path

section Accounting

variable {run : PackageRun} {root : String} {exemptions : Exemptions} {before after : SharedPackage}
  {domain : Domain}

theorem allows_nodes {nodes : List TypeNode} (sub : nodes ⊆ domain.nodes) :
    (domainSite root exemptions domain).Allows (MayImport root domain) nodes := by
  rintro path (rfl | ⟨-, raw, member, reference, resolved, led⟩)
  · exact .standard (by decide)
  · exact .reference (TypeNode.listReferences_subset sub member) resolved led

namespace PackageRun.Succeeds

theorem types_add (h : run.Succeeds root exemptions before after domain) :
    Adds (MayImport root domain) run.reserved run.declared (.concat run.types) := by
  refine .thread Prod.snd ?_ h.types
  intro s node t chunk member step
  have allows : (domainSite root exemptions domain).Allows (MayImport root domain) [node] :=
    allows_nodes (List.cons_subset.2 ⟨Domain.mem_nodes_type member, List.nil_subset _⟩)
  exact Site.declared_adds (fun _ => .standard) .internal
    (fun path needs => allows.of_node List.mem_cons_self needs) (Site.typeStep_eq_ok step).1

theorem commands_add (h : run.Succeeds root exemptions before after domain) :
    Adds (MayImport root domain) run.declared run.commanded (.concat run.commands) := by
  refine .thread id ?_ h.commands
  intro s command t chunk member step
  refine Site.commandTypes_adds (allows_nodes fun node inside => ?_) step
  exact (List.mem_append.1 inside).elim (Domain.mem_nodes_parameter member)
    (Domain.mem_nodes_return member)

theorem events_add (h : run.Succeeds root exemptions before after domain) :
    Adds (MayImport root domain) run.commanded run.evented (.concat run.events) := by
  refine .thread id ?_ h.events
  intro s event t chunk member step
  refine Site.eventTypes_adds .transport (allows_nodes fun node inside => ?_) step
  exact Domain.mem_nodes_event member inside

theorem mayImport_of_client_step {path : String}
    (member : path ∈ [Imports.context, Imports.rpcc root, Imports.internal root].map (·.path)) :
    MayImport root domain path := by
  simp only [List.map_cons, List.map_nil, List.mem_cons, List.not_mem_nil, or_false] at member
  rcases member with rfl | rfl | rfl
  · exact .standard (by decide)
  · exact .transport
  · exact .internal

theorem invocations_add (h : run.Succeeds root exemptions before after domain)
    (scope : NameScope) :
    Adds (MayImport root domain) scope scope
      (.concat (domain.ownCommands.map (invokeChunk root domain))) := by
  refine .thread (fun _ => scope) ?_ h.invocations
  intro s command t chunk member step
  obtain ⟨-, rfl⟩ := commandMethod_eq_ok step
  -- A method declares nothing in the package, so the scope of the package may be any.
  refine .of_names_nil names_invokeChunk (fun path => mayImport_of_client_step) ?_
  rw [structs_invokeChunk]
  exact fun fields member => nomatch member

theorem streams_add (h : run.Succeeds root exemptions before after domain) :
    Adds (MayImport root domain) run.evented run.closed
      (.concat (domain.events.map (subscribeChunk root domain))) := by
  refine .thread Prod.fst ?_ h.streams
  intro s event t chunk member step
  obtain ⟨-, declared, rfl⟩ := eventMethod_eq_ok step
  have solid : SolidName (wrapperName event) := by
    rw [wrapperName, solidName_append]
    exact ⟨Name.solidName_parameter _, by decide⟩
  refine .of_names_singleton names_subscribeChunk declared solid
    (fun path => mayImport_of_client_step) (fun fields member => ?_)
  rw [structs_subscribeChunk, List.mem_singleton] at member
  rw [member]
  exact List.nodup_singleton _

/-- The declarations of all files but the tests, one after the other, from the scope that knows the
identifiers of the client. -/
theorem all_add (h : run.Succeeds root exemptions before after domain) :
    Adds (MayImport root domain) run.reserved run.closed
      (.concat run.types ++ .concat run.commands ++ .concat run.events ++
        .concat (domain.events.map (subscribeChunk root domain))) :=
  ((h.types_add.append h.commands_add).append h.events_add).append h.streams_add

theorem methods_nodup (h : run.Succeeds root exemptions before after domain) :
    (Domain.methods domain).Nodup := by
  have invoked : NameScope.declareAll ⟨"methods of " ++ domain.package ++ ".domainClient", []⟩
      (domain.ownCommands.map (·.method)) = .ok run.invoked := by
    refine NameScope.declareAll_thread id ?_ h.invocations
    intro methods command accepted chunk step
    exact (commandMethod_eq_ok step).1
  have subscribed : run.invoked.declareAll (domain.events.map (·.method)) = .ok run.subscribed := by
    refine NameScope.declareAll_thread Prod.snd ?_ h.streams
    intro scopes event accepted chunk step
    exact (eventMethod_eq_ok step).1
  exact NameScope.nodup_of_declareAll_nil rfl (NameScope.declareAll_append invoked subscribed)

end PackageRun.Succeeds

end Accounting

section Tests

variable {root : String} {domain : Domain}

theorem names_testChunk :
    (testChunk root domain).names = (Domain.methods domain).map testName := by
  have commands : (domain.ownCommands.map fun command =>
      Chunk.ofDecls (Imports.rpcc root :: testImports root) [commandTest root command]).flatMap
        (·.names) = domain.ownCommands.map fun command => testName command.method := by
    rw [List.flatMap_map, List.map_eq_flatMap]
    rfl
  have events : (domain.events.map fun event =>
      Chunk.ofDecls (testImports root) [eventTest root domain.name event]).flatMap (·.names) =
        domain.events.map fun event => testName event.method := by
    rw [List.flatMap_map, List.map_eq_flatMap]
    rfl
  rw [testChunk, Chunk.names_concat, List.flatMap_append, commands, events, Domain.methods,
    List.map_append, List.map_map, List.map_map]
  rfl

theorem structs_testDecl {method : String} {steps : List Go.Statement}
    (none_ : Go.Statement.listStructs steps = []) : (testDecl root method steps).structs = [] := by
  simp [testDecl, Decl.structs_function, Go.Signature.structs, Go.Body.structs, none_]

theorem structs_commandTest (command : Command) : (commandTest root command).structs = [] := by
  apply structs_testDecl
  cases arguments : command.hasArguments <;> cases reply : command.hasReply <;>
    simp [background, failsOn, report, expectError, lacks]

theorem structs_eventTest (name : String) (event : Event) :
    (eventTest root name event).structs = [] := by
  apply structs_testDecl
  simp [background, failsOn, report, expectError, lacks]

theorem structs_testChunk : (testChunk root domain).structs = [] := by
  simp [testChunk, Chunk.structs_concat, Chunk.structs_ofDecls, structs_commandTest,
    structs_eventTest, List.flatMap_map]

theorem mayImport_testImports {package : Go.Package}
    (member : package ∈ Imports.rpcc root :: testImports root) :
    MayImport root domain package.path := by
  simp only [testImports, List.mem_cons, List.not_mem_nil, or_false] at member
  rcases member with rfl | rfl | rfl | rfl | rfl
  · exact .transport
  · exact .standard (by decide)
  · exact .standard (by decide)
  · exact .standard (by decide)
  · exact .testing

theorem mayImport_testChunk {path : String} (member : path ∈ (testChunk root domain).imports) :
    MayImport root domain path := by
  rw [testChunk, Chunk.imports_concat, List.mem_flatMap] at member
  obtain ⟨chunk, found, member⟩ := member
  rcases List.mem_append.1 found with found | found
  · obtain ⟨command, -, rfl⟩ := List.mem_map.1 found
    obtain ⟨package, inside, rfl⟩ := Chunk.mem_imports_ofDecls.1 member
    exact mayImport_testImports inside
  · obtain ⟨event, -, rfl⟩ := List.mem_map.1 found
    obtain ⟨package, inside, rfl⟩ := Chunk.mem_imports_ofDecls.1 member
    exact mayImport_testImports (List.mem_cons_of_mem _ inside)

/-- The underscore keeps the names of tests apart from all identifiers that are made from words. -/
theorem not_solidName_testName (method : String) : ¬ SolidName (testName method) := by
  rw [testName, solidName_append]
  rintro ⟨solid, -⟩
  exact absurd (solid '_' (by decide)) (by decide)

end Tests

section Files

variable {run : PackageRun} {root : String} {exemptions : Exemptions} {before after : SharedPackage}
  {domain : Domain}

theorem names_clientChunk :
    (clientChunk root domain).names =
      ["domainClient", "NewClient"] ++
        (Chunk.concat (domain.events.map (subscribeChunk root domain))).names := by
  have invocations :
      (Chunk.concat (domain.ownCommands.map (invokeChunk root domain))).names = [] := by
    simp [Chunk.names_concat, List.flatMap_map, names_invokeChunk]
  rw [clientChunk, Chunk.names_append, Chunk.names_append, invocations, List.append_nil]
  rfl

def PackageRun.implementation (run : PackageRun) (root : String) (domain : Domain) : List String :=
  (Chunk.concat run.types).names ++ (Chunk.concat run.commands).names ++
    (Chunk.concat run.events).names ++ (clientChunk root domain).names

theorem PackageRun.names_files :
    (run.files root domain).list.flatMap (·.names) =
      run.implementation root domain ++ (Domain.methods domain).map testName := by
  have each : (run.files root domain).list.map (·.names) =
      [(Chunk.concat run.types).names, (Chunk.concat run.commands).names,
        (Chunk.concat run.events).names, (clientChunk root domain).names,
        (testChunk root domain).names] := rfl
  rw [List.flatMap_def, each, names_testChunk]
  simp [PackageRun.implementation]

namespace PackageRun.Succeeds

/-- The scope of the package has accepted every identifier of the implementation. -/
theorem implementation_perm (h : run.Succeeds root exemptions before after domain) :
    (run.implementation root domain).Perm run.closed.idents := by
  have reserved : run.reserved.idents = ["domainClient", "NewClient"] :=
    NameScope.idents_of_declareAll h.reserves
  rw [NameScope.idents_of_declareAll h.all_add.declares, reserved]
  simp only [Chunk.names_append, PackageRun.implementation, names_clientChunk]
  generalize (Chunk.concat run.types).names ++ (Chunk.concat run.commands).names ++
    (Chunk.concat run.events).names = made
  generalize (Chunk.concat (domain.events.map (subscribeChunk root domain))).names = streams
  -- The scope took the identifiers of the client first; their file puts them before the streams.
  have moved : (made ++ (["domainClient", "NewClient"] ++ streams)).Perm
      (made ++ streams ++ ["domainClient", "NewClient"]) := by
    rw [List.append_assoc]
    exact List.perm_append_comm.append_left made
  exact moved.trans ((List.reverse_perm _).symm.append_right _)

theorem solid_implementation (h : run.Succeeds root exemptions before after domain) {name : String}
    (member : name ∈ run.implementation root domain) : SolidName name := by
  rw [PackageRun.implementation, names_clientChunk] at member
  have added := h.all_add.solid name
  simp only [Chunk.names_append, List.mem_append] at added member
  rcases member with made | reserved | stream
  · exact added (.inl made)
  · have client : ∀ ident ∈ ["domainClient", "NewClient"], SolidName ident := by decide
    exact client name reserved
  · exact added (.inr stream)

theorem closed_nodup (h : run.Succeeds root exemptions before after domain) :
    run.closed.idents.Nodup :=
  NameScope.nodup_of_declareAll (NameScope.nodup_of_declareAll List.nodup_nil h.reserves)
    h.all_add.declares

theorem implementation_nodup (h : run.Succeeds root exemptions before after domain) :
    (run.implementation root domain).Nodup :=
  h.implementation_perm.nodup_iff.2 h.closed_nodup

/-- The files of a package declare no identifier twice. -/
theorem names_nodup (h : run.Succeeds root exemptions before after domain) :
    ((run.files root domain).list.flatMap (·.names)).Nodup := by
  have tests : ((Domain.methods domain).map testName).Nodup :=
    h.methods_nodup.map fun _ _ same => (String.append_right_inj _).1 same
  rw [PackageRun.names_files, List.nodup_append]
  refine ⟨h.implementation_nodup, tests, ?_⟩
  rintro name implemented other tested rfl
  obtain ⟨method, -, rfl⟩ := List.mem_map.1 tested
  exact not_solidName_testName method (h.solid_implementation implemented)

theorem file_names_nodup (h : run.Succeeds root exemptions before after domain) {file : SourceFile}
    (listed : file ∈ (run.files root domain).list) : file.names.Nodup :=
  (List.nodup_flatMap.1 h.names_nodup).1 file listed

/-- What a file of a package declares is found again by its identifier. -/
theorem declaring_files (h : run.Succeeds root exemptions before after domain) {file : SourceFile}
    (listed : file ∈ (run.files root domain).list) {item : Go.Item} {ident : String}
    (inside : item ∈ file.items) (named : ident ∈ item.decl.names) :
    file.declaring ident = [item.decl] :=
  Go.SourceFile.declaring_eq_singleton (h.file_names_nodup listed) inside named

theorem mayImport_files (h : run.Succeeds root exemptions before after domain) {file : SourceFile}
    (listed : file ∈ (run.files root domain).list) {path : String} (member : path ∈ file.imports) :
    MayImport root domain path := by
  simp only [DomainFiles.list, List.mem_cons, List.not_mem_nil, or_false] at listed
  rcases listed with rfl | rfl | rfl | rfl | rfl
  · exact h.types_add.imports path (Chunk.mem_imports_file.1 member)
  · exact h.commands_add.imports path (Chunk.mem_imports_file.1 member)
  · exact h.events_add.imports path (Chunk.mem_imports_file.1 member)
  · have inside : path ∈ (clientChunk root domain).imports := Chunk.mem_imports_file.1 member
    rw [clientChunk, Chunk.imports_append, Chunk.imports_append, List.mem_append,
      List.mem_append] at inside
    rcases inside with (client | invocation) | stream
    · obtain rfl : path = (Imports.rpcc root).path := List.mem_singleton.1 client
      exact .transport
    · exact (h.invocations_add run.reserved).imports path invocation
    · exact h.streams_add.imports path stream
  · exact mayImport_testChunk (Chunk.mem_imports_file.1 member)

theorem structs_files (h : run.Succeeds root exemptions before after domain) {file : SourceFile}
    (listed : file ∈ (run.files root domain).list) {fields : List String}
    (member : fields ∈ file.structs) : fields.Nodup := by
  simp only [DomainFiles.list, List.mem_cons, List.not_mem_nil, or_false] at listed
  rcases listed with rfl | rfl | rfl | rfl | rfl
  · exact h.types_add.structs fields member
  · exact h.commands_add.structs fields member
  · exact h.events_add.structs fields member
  · have inside : fields ∈ (clientChunk root domain).structs := member
    rw [clientChunk, Chunk.structs_append, Chunk.structs_append, List.mem_append,
      List.mem_append] at inside
    rcases inside with (client | invocation) | stream
    · obtain rfl : fields = ["conn"] := by simpa [Chunk.structs_ofDecls, clientDecls,
        Go.Decl.structs_function, Go.Signature.structs, Go.Body.structs, clientType] using client
      exact List.nodup_singleton _
    · exact (h.invocations_add run.reserved).structs fields invocation
    · exact h.streams_add.structs fields stream
  · have inside : fields ∈ (testChunk root domain).structs := member
    rw [structs_testChunk] at inside
    cases inside

end PackageRun.Succeeds

end Files

end Bindings.Emission
