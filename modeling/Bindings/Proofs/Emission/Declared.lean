import Bindings.Proofs.Emission.Packages

/-! What the files of a domain package declare for each part of the domain.

Every type, command and event of a domain is looked at by one step, and what that step declares is
in the file of its kind. Nothing is left out, and a redirected command is treated like any other.
-/

set_option autoImplicit false

namespace Bindings.Emission

open Go (Item SourceFile TypeExpr)

/-- What is declared for a command, with the types that its nodes were found to have. -/
structure DeclaresCommand (site : Site) (command : Command) (items : List Item) : Prop where
  arguments : command.hasArguments = true → ∃ doc uses,
    site.structFields command.parameters command.arguments = .ok uses ∧
      ⟨.type [doc] command.arguments (.struct uses.fields), true⟩ ∈ items
  constructs : command.hasArguments = true → ∃ required,
    List.Forall₂ (fun node entry => site.requiredParam command.arguments node = .ok entry)
      (command.parameters.filter (!·.optional)) required ∧
    ⟨constructorDecl command (required.map fun entry => (entry.1, entry.2.1)), true⟩ ∈ items
  setters : ∀ node ∈ command.parameters, node.optional = true → ∃ use,
    site.use node = .ok use ∧ ⟨setterDecl command node use, true⟩ ∈ items
  reply : command.hasReply = true → ∃ doc uses,
    site.structFields command.returns command.reply = .ok uses ∧
      ⟨.type [doc] command.reply (.struct uses.fields), true⟩ ∈ items

structure DeclaresEvent (site : Site) (event : Event) (items : List Item) : Prop where
  stream : ⟨streamDecl site.root event, true⟩ ∈ items
  reply : ∃ doc uses, site.structFields event.parameters event.reply = .ok uses ∧
    ⟨.type [doc] event.reply (.struct uses.fields), true⟩ ∈ items

theorem DeclaresCommand.mono {site : Site} {command : Command} {few many : List Item}
    (declares : DeclaresCommand site command few) (sub : few ⊆ many) :
    DeclaresCommand site command many where
  arguments has :=
    let ⟨doc, uses, fields, found⟩ := declares.arguments has
    ⟨doc, uses, fields, sub found⟩
  constructs has :=
    let ⟨required, typed, found⟩ := declares.constructs has
    ⟨required, typed, sub found⟩
  setters node member optional :=
    let ⟨use, used, found⟩ := declares.setters node member optional
    ⟨use, used, sub found⟩
  reply has :=
    let ⟨doc, uses, fields, found⟩ := declares.reply has
    ⟨doc, uses, fields, sub found⟩

namespace Site

variable {site : Site} {domain : Domain} {command : Command} {event : Event} {node : TypeNode}
  {scope next : Go.NameScope} {chunk : Chunk}

theorem ident_mem_of_declared (h : site.declared scope node = .ok (next, chunk)) :
    node.ident site.domain ∈ chunk.names := by
  obtain ⟨accepted, -, ⟨shared, -, -, rfl⟩ | ⟨-, defines⟩⟩ := declared_eq_ok h
  · exact List.mem_singleton.2 rfl
  · obtain ⟨constants, names, -⟩ := defines.names
    rw [names]
    exact List.mem_cons_self

theorem hasArguments_of_mem (member : node ∈ command.parameters) :
    command.hasArguments = true := by
  rw [Command.hasArguments]
  cases same : command.parameters with
  | nil =>
    rw [same] at member
    cases member
  | cons _ _ => rfl

theorem declaresCommand_of_commandTypes
    (h : site.commandTypes domain scope command = .ok (next, chunk)) :
    DeclaresCommand site command chunk.items := by
  obtain ⟨middle, arguments, reply, first, second, rfl⟩ := commandTypes_eq_ok h
  refine ⟨fun has => ?_, fun has => ?_, fun node member optional => ?_, fun has => ?_⟩
  · obtain ⟨_, struct, required, methods, setters, declared, -, -, -, rfl⟩ :=
      arguments_eq_ok (first.emitted has)
    obtain ⟨uses, -, fields, rfl⟩ := structDecl_eq_ok declared
    exact ⟨_, uses, fields, List.mem_cons_self⟩
  · obtain ⟨_, struct, required, methods, setters, declared, -, typed, -, rfl⟩ :=
      arguments_eq_ok (first.emitted has)
    refine ⟨required, typed, ?_⟩
    simp [constructorChunk]
  · obtain ⟨_, struct, required, methods, setters, declared, -, -, set, rfl⟩ :=
      arguments_eq_ok (first.emitted (hasArguments_of_mem member))
    have steps := thread_forall₂ set
    obtain ⟨setter, found, s, t, step⟩ :=
      exists_of_mem_left steps (List.mem_filter.2 ⟨member, optional⟩)
    obtain ⟨use, -, used, rfl⟩ := setter_eq_ok step
    refine ⟨use, used, ?_⟩
    simp only [Chunk.items_append, Chunk.items_concat, List.mem_append, List.mem_flatMap]
    exact .inl (.inr ⟨_, found, List.mem_cons_self⟩)
  · obtain ⟨uses, -, fields, rfl⟩ := structDecl_eq_ok (second.emitted has)
    exact ⟨_, uses, fields, List.mem_append_right _ List.mem_cons_self⟩

theorem declaresEvent_of_eventTypes (h : site.eventTypes domain scope event = .ok (next, chunk)) :
    DeclaresEvent site event chunk.items := by
  obtain ⟨uses, -, fields, rfl⟩ := eventTypes_eq_ok h
  exact ⟨List.mem_cons_self, _, uses, fields, List.mem_cons_of_mem _ List.mem_cons_self⟩

end Site

namespace PackageRun.Succeeds

variable {run : PackageRun} {root : String} {exemptions : Exemptions} {before after : SharedPackage}
  {domain : Domain}

theorem declaresCommand (h : run.Succeeds root exemptions before after domain) {command : Command}
    (member : command ∈ domain.commands) :
    DeclaresCommand (domainSite root exemptions domain) command
      (run.files root domain).commands.items := by
  obtain ⟨chunk, found, s, t, step⟩ := exists_of_mem_left (thread_forall₂ h.commands) member
  refine (Site.declaresCommand_of_commandTypes step).mono ?_
  exact Chunk.items_subset_concat found

theorem declaresEvent (h : run.Succeeds root exemptions before after domain) {event : Event}
    (member : event ∈ domain.events) :
    DeclaresEvent (domainSite root exemptions domain) event
      (run.files root domain).events.items := by
  obtain ⟨chunk, found, s, t, step⟩ := exists_of_mem_left (thread_forall₂ h.events) member
  have sub := Chunk.items_subset_concat found
  obtain ⟨stream, doc, uses, fields, reply⟩ := Site.declaresEvent_of_eventTypes step
  exact ⟨sub stream, doc, uses, fields, sub reply⟩

theorem typeIdents_sublist (h : run.Succeeds root exemptions before after domain) :
    (domain.types.map (·.ident domain.name)).Sublist (Chunk.concat run.types).names := by
  have held : List.Forall₂ (fun node chunk => [node.ident domain.name].Sublist (Chunk.names chunk))
      domain.types run.types := by
    refine (thread_forall₂ h.types).imp ?_
    rintro node chunk ⟨s, t, step⟩
    have inside : node.ident (domainSite root exemptions domain).domain ∈ chunk.names :=
      Site.ident_mem_of_declared (Site.typeStep_eq_ok step).1
    exact List.singleton_sublist.2 inside
  rw [Chunk.names_concat, List.map_eq_flatMap]
  exact flatMap_sublist_flatMap held

/-- Types of a domain with the same identifier are the same. -/
theorem eq_of_ident (h : run.Succeeds root exemptions before after domain) {first second : TypeNode}
    (left : first ∈ domain.types) (right : second ∈ domain.types)
    (same : first.ident domain.name = second.ident domain.name) : first = second := by
  have distinct : (run.files root domain).types.names.Nodup :=
    h.file_names_nodup List.mem_cons_self
  exact List.inj_on_of_nodup_map (distinct.sublist h.typeIdents_sublist) left right same

/-- What the other files of the package declare is named differently from all types. -/
theorem ident_ne_of_other (h : run.Succeeds root exemptions before after domain) {file : SourceFile}
    (listed : file ∈ (run.files root domain).list.tail) {name : String} (named : name ∈ file.names)
    {node : TypeNode} (member : node ∈ domain.types) : node.ident domain.name ≠ name := by
  have all : ((run.files root domain).types.names ++
      (run.files root domain).list.tail.flatMap (·.names)).Nodup := h.names_nodup
  refine (List.nodup_append.1 all).2.2 _ ?_ _ (List.mem_flatMap.2 ⟨file, listed, named⟩)
  exact h.typeIdents_sublist.subset (List.mem_map_of_mem member)

end PackageRun.Succeeds

end Bindings.Emission
