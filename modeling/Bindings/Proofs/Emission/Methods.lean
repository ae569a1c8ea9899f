import Bindings.Proofs.Emission.Declared

/-! The methods of a domain client.

Types of a package have methods of their own, and none of these types is the client. So its methods
are exactly those that invoke the own commands of the domain and subscribe to its events.
-/

set_option autoImplicit false

namespace Bindings.Emission

open Go (Decl Function)

def Chunk.methodsOf (chunk : Chunk) (owner : String) : List Function :=
  chunk.items.filterMap (·.decl.methodOf? owner)

namespace Chunk

@[simp] theorem methodsOf_append (first second : Chunk) (owner : String) :
    (first ++ second).methodsOf owner = first.methodsOf owner ++ second.methodsOf owner := by
  simp [methodsOf]

theorem methodsOf_concat (chunks : List Chunk) (owner : String) :
    (concat chunks).methodsOf owner = chunks.flatMap (·.methodsOf owner) := by
  simp [methodsOf, items_concat, List.filterMap_flatMap]

theorem methodsOf_ofDecls (packages : List Go.Package) (decls : List Decl) (owner : String) :
    (ofDecls packages decls).methodsOf owner = decls.filterMap (·.methodOf? owner) := by
  simp [methodsOf, items_ofDecls, List.filterMap_map]

end Chunk

/-- A declaration that is no method of a type, and what a method of another type looks like. -/
theorem methodOf?_method_ne {owner ident : String} (other : ident ≠ owner) {receiver : Go.TypeExpr}
    (named : receiver = .named ident ∨ receiver = .pointer (.named ident)) (doc : List String)
    (self name : String) (params results : List Go.Param) (body : List Go.Statement) :
    (method doc self receiver name params results body).methodOf? owner = none := by
  rcases named with rfl | rfl <;> simp [method, Decl.methodOf?, Function.owner?, other]

namespace Site

variable {site : Site} {domain : Domain} {command : Command} {event : Event} {node : TypeNode}
  {scope next : Go.NameScope} {chunk : Chunk} {owner ident : String}

/-- The methods of a definition are those of the type it defines. -/
theorem Defines.methodsOf_ne {doc : Go.Doc} (other : ident ≠ owner)
    (h : site.Defines node ident doc scope next chunk) : chunk.methodsOf owner = [] := by
  have value := methodOf?_method_ne other (.inl rfl)
  have pointer := methodOf?_method_ne other (.inr rfl)
  cases h with
  | enumeration =>
    simp [Chunk.methodsOf_ofDecls, enumDecls, enumValid, enumString, enumMarshal, enumUnmarshal,
      value, pointer]
  | timestamp =>
    simp [Chunk.methodsOf_ofDecls, timestampDecls, value, pointer]
  | raw => simp [Chunk.methodsOf_ofDecls, rawDecls, value, pointer]
  | record => rfl
  | plain => rfl

theorem declared_methodsOf (other : node.ident site.domain ≠ owner)
    (h : site.declared scope node = .ok (next, chunk)) : chunk.methodsOf owner = [] := by
  obtain ⟨accepted, -, ⟨shared, -, -, rfl⟩ | ⟨-, defines⟩⟩ := declared_eq_ok h
  · rfl
  · exact defines.methodsOf_ne other

theorem commandTypes_methodsOf (other : command.hasArguments = true → command.arguments ≠ owner)
    (h : site.commandTypes domain scope command = .ok (next, chunk)) :
    chunk.methodsOf owner = [] := by
  obtain ⟨middle, arguments, reply, first, second, rfl⟩ := commandTypes_eq_ok h
  have ofArguments : arguments.methodsOf owner = [] := by
    cases first with
    | absent => rfl
    | present has emitted =>
      obtain ⟨_, struct, required, methods, setters, declared, -, -, set, rfl⟩ :=
        arguments_eq_ok emitted
      obtain ⟨uses, -, -, rfl⟩ := structDecl_eq_ok declared
      have ofSetters : setters.flatMap (·.methodsOf owner) = [] := by
        rw [List.flatMap_eq_nil_iff]
        intro setter member
        obtain ⟨before, node, after, -, step⟩ := thread_mem set member
        obtain ⟨use, -, -, rfl⟩ := setter_eq_ok step
        simp [Chunk.methodsOf, setterDecl, methodOf?_method_ne (other has) (.inr rfl)]
      rw [Chunk.methodsOf_append, Chunk.methodsOf_append, Chunk.methodsOf_concat, ofSetters]
      rfl
  have ofReply : reply.methodsOf owner = [] := by
    cases second with
    | absent => rfl
    | present _ emitted =>
      obtain ⟨uses, -, -, rfl⟩ := structDecl_eq_ok emitted
      rfl
  rw [Chunk.methodsOf_append, ofArguments, ofReply]
  rfl

theorem eventTypes_methodsOf (h : site.eventTypes domain scope event = .ok (next, chunk)) :
    chunk.methodsOf owner = [] := by
  obtain ⟨uses, -, -, rfl⟩ := eventTypes_eq_ok h
  rfl

end Site

section Client

variable {run : PackageRun} {root : String} {exemptions : Exemptions} {before after : SharedPackage}
  {domain : Domain}

def subscribeFunction (root : String) (domain : Domain) (event : Event) : Function where
  doc := (subscribeDoc event domain).lines
  receiver := some ⟨some "d", clientType⟩
  name := event.method
  signature := subscribeSignature event
  body := .block
    [.assign ⟨[.ident "s", .ident "err"], true,
      [.call (.imported (Imports.rpcc root) "NewStream")
        [.ident "ctx", .literal (event.wireName domain.name), .select (.ident "d") "conn"]]⟩,
     .when (.isNotNil (.ident "err"))
      [.leave [.ident "nil", opError root domain.name event.method]],
     .leave
      [.address (.composite false (.named (wrapperName event)) [.mk "Stream" (.ident "s")]),
       .ident "nil"]]

theorem subscribeDecl_eq (event : Event) :
    subscribeDecl root domain event = .function (subscribeFunction root domain event) := rfl

def clientMethods (root : String) (domain : Domain) : List Function :=
  domain.ownCommands.map (invokeFunction root domain)
    ++ domain.events.map (subscribeFunction root domain)

theorem clientMethods_name (root : String) (domain : Domain) :
    (clientMethods root domain).map (·.name) = Domain.methods domain := by
  rw [clientMethods, Domain.methods, List.map_append, List.map_map, List.map_map]
  rfl

theorem methodsOf_subscribeChunk {event : Event} (other : wrapperName event ≠ "domainClient") :
    (subscribeChunk root domain event).methodsOf "domainClient" =
      [subscribeFunction root domain event] := by
  have client : (Decl.function (subscribeFunction root domain event)).methodOf? "domainClient" =
      some (subscribeFunction root domain event) := by
    simp [Function.owner?, subscribeFunction, clientType]
  have receive := methodOf?_method_ne other (.inr rfl)
  rw [subscribeChunk, subscribeDecl_eq, Chunk.methodsOf_ofDecls, List.filterMap_cons, client]
  simp [wrapperDecls, receive, Function.owner?, other]

theorem methodsOf_invokeChunk (command : Command) :
    (invokeChunk root domain command).methodsOf "domainClient" =
      [invokeFunction root domain command] := by
  rw [invokeChunk, Chunk.methodsOf_ofDecls]
  simp [Function.owner?, invokeFunction, clientType]

/-- All methods in the file of a client belong to the client or to one of its streams. -/
theorem methodsOf_clientChunk_ne {owner : String} (client : "domainClient" ≠ owner)
    (streams : ∀ event ∈ domain.events, wrapperName event ≠ owner) :
    (clientChunk root domain).methodsOf owner = [] := by
  have invocations (command : Command) : (invokeChunk root domain command).methodsOf owner = [] := by
    simp [invokeChunk, Chunk.methodsOf_ofDecls, Function.owner?, invokeFunction, clientType, client]
  have subscriptions : domain.events.flatMap (fun event =>
      (subscribeChunk root domain event).methodsOf owner) = [] := by
    rw [List.flatMap_eq_nil_iff]
    intro event member
    have receive := methodOf?_method_ne (streams event member) (.inr rfl)
    simp [subscribeChunk, Chunk.methodsOf_ofDecls, subscribeDecl, wrapperDecls, receive,
      Function.owner?, clientType, client, streams event member]
  rw [clientChunk, Chunk.methodsOf_append, Chunk.methodsOf_append, Chunk.methodsOf_concat,
    Chunk.methodsOf_concat, List.flatMap_map, List.flatMap_map, subscriptions]
  simp [invocations, Chunk.methodsOf_ofDecls, clientDecls, Function.owner?]

theorem methodsOf_testChunk (owner : String) : (testChunk root domain).methodsOf owner = [] := by
  simp [testChunk, Chunk.methodsOf_concat, List.flatMap_map, Chunk.methodsOf_ofDecls, commandTest,
    eventTest, testDecl, Function.owner?]

/-- The methods of a type, by the files of its package; the tests have none. -/
theorem PackageRun.methodsOf_list (owner : String) :
    (run.files root domain).list.flatMap (·.methodsOf owner) =
      (Chunk.concat run.types).methodsOf owner ++ (Chunk.concat run.commands).methodsOf owner ++
        (Chunk.concat run.events).methodsOf owner ++ (clientChunk root domain).methodsOf owner := by
  have each : (run.files root domain).list.map (·.methodsOf owner) =
      [(Chunk.concat run.types).methodsOf owner, (Chunk.concat run.commands).methodsOf owner,
        (Chunk.concat run.events).methodsOf owner, (clientChunk root domain).methodsOf owner,
        (testChunk root domain).methodsOf owner] := rfl
  rw [List.flatMap_def, each, methodsOf_testChunk]
  simp

namespace PackageRun.Succeeds

theorem methodsOf_events (h : run.Succeeds root exemptions before after domain) (owner : String) :
    (Chunk.concat run.events).methodsOf owner = [] := by
  rw [Chunk.methodsOf_concat, List.flatMap_eq_nil_iff]
  intro chunk member
  obtain ⟨s, event, t, -, step⟩ := thread_mem h.events member
  exact Site.eventTypes_methodsOf step

theorem methodsOf_clientChunk (h : run.Succeeds root exemptions before after domain) :
    (clientChunk root domain).methodsOf "domainClient" = clientMethods root domain := by
  have distinct : (clientChunk root domain).names.Nodup :=
    (List.nodup_append.1 h.implementation_nodup).2.1
  have other : ∀ event ∈ domain.events, wrapperName event ≠ "domainClient" := by
    intro event member same
    rw [names_clientChunk, List.nodup_append] at distinct
    refine distinct.2.2 "domainClient" List.mem_cons_self (wrapperName event) ?_ same.symm
    rw [Chunk.names_concat, List.flatMap_map]
    exact List.mem_flatMap.2 ⟨event, member, List.mem_singleton.2 rfl⟩
  have streams : domain.events.flatMap (fun event =>
      (subscribeChunk root domain event).methodsOf "domainClient") =
        domain.events.map (subscribeFunction root domain) := by
    rw [List.map_eq_flatMap]
    exact List.flatMap_congr fun event member => methodsOf_subscribeChunk (other event member)
  have declared : (Chunk.ofDecls [Imports.rpcc root] (clientDecls root domain)).methodsOf
      "domainClient" = [] := by
    simp [Chunk.methodsOf_ofDecls, clientDecls, Function.owner?]
  rw [clientChunk, Chunk.methodsOf_append, Chunk.methodsOf_append, declared,
    Chunk.methodsOf_concat, Chunk.methodsOf_concat, List.flatMap_map, List.flatMap_map, streams]
  simp only [methodsOf_invokeChunk, ← List.map_eq_flatMap, List.nil_append, clientMethods]

/-- All methods of the client of a domain, whichever file of its package they are in. -/
theorem methodsOf_files (h : run.Succeeds root exemptions before after domain) :
    (run.files root domain).list.flatMap (·.methodsOf "domainClient") =
      clientMethods root domain := by
  have types : (Chunk.concat run.types).methodsOf "domainClient" = [] := by
    rw [Chunk.methodsOf_concat, List.flatMap_eq_nil_iff]
    intro chunk member
    obtain ⟨s, node, t, -, step⟩ := thread_mem h.types member
    have declared := (Site.typeStep_eq_ok step).1
    refine Site.declared_methodsOf (fun same => ?_) declared
    have inside : "domainClient" ∈ (Chunk.concat run.types).names := by
      rw [Chunk.names_concat, ← same]
      exact List.mem_flatMap.2 ⟨chunk, member, Site.ident_mem_of_declared declared⟩
    -- A type named like the client would repeat an identifier of the package.
    refine (List.nodup_append.1 h.implementation_nodup).2.2 "domainClient" ?_ "domainClient" ?_ rfl
    · exact List.mem_append_left _ (List.mem_append_left _ inside)
    · rw [names_clientChunk]
      exact List.mem_cons_self
  have commands : (Chunk.concat run.commands).methodsOf "domainClient" = [] := by
    rw [Chunk.methodsOf_concat, List.flatMap_eq_nil_iff]
    intro chunk member
    obtain ⟨s, command, t, -, step⟩ := thread_mem h.commands member
    refine Site.commandTypes_methodsOf (fun _ same => ?_) step
    -- The names of arguments end differently.
    have last := congrArg (fun name => name.toList.getLast?) same
    simp [Command.arguments] at last
  rw [PackageRun.methodsOf_list, types, commands, h.methodsOf_events, h.methodsOf_clientChunk]
  rfl

end PackageRun.Succeeds

end Client

end Bindings.Emission
