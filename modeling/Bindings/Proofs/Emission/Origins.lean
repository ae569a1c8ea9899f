import Bindings.Proofs.Emission.Declared
import Bindings.Proofs.Emission.TopLevel
import Bindings.Proofs.Go.Containment

/-! Which types the files define, and under which identifiers.

Declared types, messages and streams each have a form of their own. What else a file declares, be it
methods, constants, interfaces or functions, defines no type.
-/

set_option autoImplicit false

namespace Bindings.Emission

open Go (Decl SourceFile TypeExpr TypeName)

def Chunk.definitions (chunk : Chunk) : List (String × TypeExpr) :=
  chunk.items.flatMap (·.decl.definitions)

namespace Chunk

@[simp] theorem definitions_append (first second : Chunk) :
    (first ++ second).definitions = first.definitions ++ second.definitions := by
  simp [definitions]

theorem definitions_concat (chunks : List Chunk) :
    (concat chunks).definitions = chunks.flatMap (·.definitions) := by
  simp [definitions, items_concat, List.flatMap_assoc]

theorem definitions_ofDecls (packages : List Go.Package) (decls : List Decl) :
    (ofDecls packages decls).definitions = decls.flatMap Decl.definitions := by
  simp [definitions, items_ofDecls, List.flatMap_map]

end Chunk

@[simp] theorem definitions_method (doc : List String) (self name : String) (receiver : TypeExpr)
    (params results : List Go.Param) (body : List Go.Statement) :
    (method doc self receiver name params results body).definitions = [] := rfl

@[simp] theorem definitions_structChunk (ident doc : String) (uses : FieldUses) :
    (Site.structChunk ident doc uses).definitions = [(ident, .struct uses.fields)] := rfl

theorem definitions_constructorChunk (command : Command)
    (required : List (TypeNode × TypeExpr × List String)) :
    (Site.constructorChunk command required).definitions = [] := rfl

theorem definitions_setterChunk (command : Command) (node : TypeNode) (use : TypeUse) :
    Chunk.definitions ⟨use.imports, [⟨setterDecl command node use, true⟩]⟩ = [] := rfl

theorem definitions_streamChunk (packages : List Go.Package) (root : String) (event : Event) :
    (Chunk.ofDecls packages [streamDecl root event]).definitions = [] := rfl

namespace Site

variable {site : Site} {domain : Domain} {command : Command} {event : Event} {node : TypeNode}
  {scope next : Go.NameScope} {chunk : Chunk} {ident : String} {type : TypeExpr}

/-- A definition defines one type. -/
theorem Defines.definitions {doc : Go.Doc} (h : site.Defines node ident doc scope next chunk) :
    ∃ type, chunk.definitions = [(ident, type)] := by
  cases h with
  | enumeration =>
    refine ⟨.named "string", ?_⟩
    simp [Chunk.definitions_ofDecls, enumDecls, enumValid, enumString, enumMarshal, enumUnmarshal]
  | timestamp =>
    refine ⟨.named "float64", ?_⟩
    simp [Chunk.definitions_ofDecls, timestampDecls]
  | raw =>
    refine ⟨.bytes, ?_⟩
    simp [Chunk.definitions_ofDecls, rawDecls]
  | record | plain => exact ⟨_, rfl⟩

/-- A declared type is the other name of a shared one, or has a definition. -/
theorem definition_of_declared (h : site.declared scope node = .ok (next, chunk))
    (defined : (ident, type) ∈ chunk.definitions) :
    ident = node.ident site.domain ∧ ∀ shared,
      sharedIdent? site.domain (node.id.getD "") = some shared →
        type = .imported (Imports.internal site.root) shared := by
  obtain ⟨accepted, -, ⟨shared, redirected, -, rfl⟩ | ⟨alone, defines⟩⟩ := declared_eq_ok h
  · obtain ⟨named, same⟩ := Prod.mk.inj (List.mem_singleton.1 defined)
    refine ⟨named, fun other found => ?_⟩
    rw [same, Option.some.inj (redirected.symm.trans found)]
  · obtain ⟨_, only⟩ := defines.definitions
    rw [only] at defined
    refine ⟨(Prod.mk.inj (List.mem_singleton.1 defined)).1, fun shared redirected => ?_⟩
    rw [alone] at redirected
    cases redirected

/-- A step adds at most one definition to the shared package, under the shared identifier. -/
theorem definition_of_share {before after : SharedPackage} (h : site.share before node = .ok after)
    (defined : (ident, type) ∈ after.chunk.definitions) :
    (ident, type) ∈ before.chunk.definitions ∨
      sharedIdent? site.domain (node.id.getD "") = some ident := by
  rcases share_eq_ok h with ⟨-, rfl⟩ | ⟨shared, accepted, next, chunk, redirected, -, defines, rfl⟩
  · exact .inl defined
  · rw [Chunk.definitions_append, List.mem_append] at defined
    refine defined.imp_right fun added => ?_
    obtain ⟨_, only⟩ := defines.definitions
    rw [only] at added
    rw [(Prod.mk.inj (List.mem_singleton.1 added)).1, redirected]

theorem definition_of_arguments (h : site.arguments domain command scope = .ok (next, chunk))
    (defined : (ident, type) ∈ chunk.definitions) : ident = command.arguments := by
  obtain ⟨_, struct, required, methods, setters, declared, -, -, set, rfl⟩ := arguments_eq_ok h
  obtain ⟨uses, -, -, rfl⟩ := structDecl_eq_ok declared
  have ofSetters : setters.flatMap (·.definitions) = [] := by
    rw [List.flatMap_eq_nil_iff]
    intro setter member
    obtain ⟨before, node, after, -, step⟩ := thread_mem set member
    obtain ⟨use, -, -, rfl⟩ := setter_eq_ok step
    exact definitions_setterChunk command node use
  rw [Chunk.definitions_append, Chunk.definitions_append, Chunk.definitions_concat, ofSetters,
    definitions_constructorChunk, List.append_nil, List.append_nil, definitions_structChunk] at defined
  exact (Prod.mk.inj (List.mem_singleton.1 defined)).1

/-- The types of a command are those of its arguments and of its reply. -/
theorem definition_of_commandTypes (h : site.commandTypes domain scope command = .ok (next, chunk))
    (defined : (ident, type) ∈ chunk.definitions) :
    command.hasArguments = true ∧ ident = command.arguments ∨
      command.hasReply = true ∧ ident = command.reply := by
  obtain ⟨middle, arguments, reply, first, second, rfl⟩ := commandTypes_eq_ok h
  rw [Chunk.definitions_append, List.mem_append] at defined
  refine defined.imp (fun inside => ?_) fun inside => ?_
  · cases first with
    | absent => cases inside
    | present has emitted => exact ⟨has, definition_of_arguments emitted inside⟩
  · cases second with
    | absent => cases inside
    | present has emitted =>
      obtain ⟨uses, -, -, rfl⟩ := structDecl_eq_ok emitted
      rw [definitions_structChunk] at inside
      exact ⟨has, (Prod.mk.inj (List.mem_singleton.1 inside)).1⟩

theorem definition_of_eventTypes (h : site.eventTypes domain scope event = .ok (next, chunk))
    (defined : (ident, type) ∈ chunk.definitions) : ident = event.reply := by
  obtain ⟨uses, -, -, rfl⟩ := eventTypes_eq_ok h
  rw [Chunk.definitions_append, definitions_structChunk, definitions_streamChunk,
    List.nil_append] at defined
  exact (Prod.mk.inj (List.mem_singleton.1 defined)).1

end Site

section Files

variable {run : PackageRun} {root : String} {exemptions : Exemptions} {before after : SharedPackage}
  {domain : Domain} {ident : String} {type : TypeExpr}

namespace PackageRun.Succeeds

theorem definition_of_types (h : run.Succeeds root exemptions before after domain)
    (defined : (ident, type) ∈ (run.files root domain).types.definitions) :
    ∃ node ∈ domain.types, ident = node.ident domain.name ∧ ∀ shared,
      sharedIdent? domain.name (node.id.getD "") = some shared →
        type = .imported (Imports.internal root) shared := by
  have inside : (ident, type) ∈ (Chunk.concat run.types).definitions := defined
  rw [Chunk.definitions_concat] at inside
  obtain ⟨chunk, listed, inside⟩ := List.mem_flatMap.1 inside
  obtain ⟨node, member, s, t, step⟩ := exists_of_mem_right (thread_forall₂ h.types) listed
  have found := Site.definition_of_declared (Site.typeStep_eq_ok step).1 inside
  exact ⟨node, member, found⟩

theorem definition_of_shared (h : run.Succeeds root exemptions before after domain)
    (defined : (ident, type) ∈ after.chunk.definitions) :
    (ident, type) ∈ before.chunk.definitions ∨
      ∃ node ∈ domain.types, sharedIdent? domain.name (node.id.getD "") = some ident := by
  refine thread_invariant
    (I := fun s : SharedPackage × Go.NameScope => (ident, type) ∈ s.1.chunk.definitions →
      (ident, type) ∈ before.chunk.definitions ∨
        ∃ node ∈ domain.types, sharedIdent? domain.name (node.id.getD "") = some ident)
    ?_ h.types .inl defined
  intro s node t chunk member step ih later
  rcases Site.definition_of_share (Site.typeStep_eq_ok step).2 later with earlier | redirected
  · exact ih earlier
  · exact .inr ⟨node, member, redirected⟩

theorem definition_of_commands (h : run.Succeeds root exemptions before after domain)
    (defined : (ident, type) ∈ (run.files root domain).commands.definitions) :
    ∃ command ∈ domain.commands, command.hasArguments = true ∧ ident = command.arguments ∨
      command.hasReply = true ∧ ident = command.reply := by
  have inside : (ident, type) ∈ (Chunk.concat run.commands).definitions := defined
  rw [Chunk.definitions_concat] at inside
  obtain ⟨chunk, listed, inside⟩ := List.mem_flatMap.1 inside
  obtain ⟨command, member, s, t, step⟩ := exists_of_mem_right (thread_forall₂ h.commands) listed
  exact ⟨command, member, Site.definition_of_commandTypes step inside⟩

theorem definition_of_events (h : run.Succeeds root exemptions before after domain)
    (defined : (ident, type) ∈ (run.files root domain).events.definitions) :
    ∃ event ∈ domain.events, ident = event.reply := by
  have inside : (ident, type) ∈ (Chunk.concat run.events).definitions := defined
  rw [Chunk.definitions_concat] at inside
  obtain ⟨chunk, listed, inside⟩ := List.mem_flatMap.1 inside
  obtain ⟨event, member, s, t, step⟩ := exists_of_mem_right (thread_forall₂ h.events) listed
  exact ⟨event, member, Site.definition_of_eventTypes step inside⟩

end PackageRun.Succeeds

/-- The client holds a connection by pointer, and behind every stream interface is a struct that
embeds the stream of the transport package. -/
theorem definitions_clientChunk :
    (clientChunk root domain).definitions =
      ("domainClient", .single (some "conn") (.pointer (.imported (Imports.rpcc root) "Conn"))) ::
        domain.events.map fun event => (wrapperName event, .single none (stream root)) := by
  have invocations :
      (Chunk.concat (domain.ownCommands.map (invokeChunk root domain))).definitions = [] := by
    rw [Chunk.definitions_concat, List.flatMap_map, List.flatMap_eq_nil_iff]
    exact fun _ _ => rfl
  have streams : (Chunk.concat (domain.events.map (subscribeChunk root domain))).definitions =
      domain.events.map fun event => (wrapperName event, .single none (stream root)) := by
    rw [Chunk.definitions_concat, List.flatMap_map, List.map_eq_flatMap]
    rfl
  rw [clientChunk, Chunk.definitions_append, Chunk.definitions_append, invocations, streams,
    List.append_nil]
  rfl

theorem definitions_testChunk : (testChunk root domain).definitions = [] := by
  rw [testChunk, Chunk.definitions_concat, List.flatMap_append, List.flatMap_map, List.flatMap_map]
  simp [Chunk.definitions_ofDecls, commandTest, eventTest, testDecl]

theorem definitions_contracts {domains : List Domain} :
    (Chunk.concat (domains.map (contractChunk root))).definitions = [] := by
  rw [Chunk.definitions_concat, List.flatMap_map, List.flatMap_eq_nil_iff]
  exact fun _ _ => rfl

theorem definitions_wireDecls (domains : List Domain) :
    (wireDecls domains).flatMap Decl.definitions = [] := by
  have block (doc : String) (entries : List Go.Constant) :
      (constantBlock doc entries).flatMap Decl.definitions = [] := by
    rw [constantBlock]
    split <;> rfl
  rw [wireDecls, List.flatMap_append, block, block, List.append_nil]

/-- The top-level package defines the client alone, which has a field for every domain. -/
theorem definition_of_topFiles {version : Option Version} {domains : List Domain} {file : SourceFile}
    (listed : file ∈ (topFiles root version domains).list)
    (defined : (ident, type) ∈ file.definitions) :
    ident = "Client" ∧
      type = .struct (domains.map fun domain => .mk [] domain.ident (.named domain.ident) none) := by
  simp only [TopFiles.list, List.mem_cons, List.not_mem_nil, or_false] at listed
  rcases listed with rfl | rfl | rfl | rfl
  · exact Prod.mk.inj (List.mem_singleton.1 defined)
  · have inside : (ident, type) ∈ (Chunk.concat (domains.map (contractChunk root))).definitions :=
      defined
    rw [definitions_contracts] at inside
    cases inside
  · have inside : (ident, type) ∈ (Chunk.ofDecls [] (wireDecls domains)).definitions := defined
    rw [Chunk.definitions_ofDecls, definitions_wireDecls] at inside
    cases inside
  · have inside : (ident, type) ∈ errorCauseSource.decl.definitions := by
      simpa [SourceFile.definitions, topFiles] using defined
    rw [declares_errorCauseSource.definitions] at inside
    cases inside

end Files

end Bindings.Emission
