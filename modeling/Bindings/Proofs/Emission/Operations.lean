import Bindings.Proofs.Emission.Definitions

/-! Commands and events: what their types and the methods of the client add to the package of their
domain.

The types of a redirected command are added like those of any other. Its method is not, since only
own commands reach that step.
-/

set_option autoImplicit false

namespace Bindings.Emission

open Go (Decl NameScope)
open Name (SolidName solidName_append solidName_exported)

namespace Site

variable {site : Site} {domain : Domain} {command : Command} {event : Event} {node : TypeNode}
  {scope next : NameScope} {chunk : Chunk}

def structChunk (ident doc : String) (uses : FieldUses) : Chunk :=
  ⟨uses.imports, [⟨.type [doc] ident (.struct uses.fields), true⟩]⟩

theorem structDecl_eq_ok {ident doc : String} {nodes : List TypeNode}
    (h : site.structDecl scope ident doc nodes = .ok (next, chunk)) :
    ∃ uses, scope.declare ident = .ok next ∧ site.structFields nodes ident = .ok uses ∧
      chunk = structChunk ident doc uses := by
  obtain ⟨accepted, declared, rest⟩ := bind_eq_ok.1 h
  obtain ⟨uses, fields, rest⟩ := bind_eq_ok.1 rest
  cases pure_eq_ok.1 rest
  exact ⟨uses, declared, fields, rfl⟩

theorem setter_eq_ok (h : site.setter command scope node = .ok (next, chunk)) :
    ∃ use, scope.declare (setterName node) = .ok next ∧ site.use node = .ok use ∧
      chunk = ⟨use.imports, [⟨setterDecl command node use, true⟩]⟩ := by
  obtain ⟨accepted, declared, rest⟩ := bind_eq_ok.1 h
  obtain ⟨use, used, rest⟩ := bind_eq_ok.1 rest
  cases pure_eq_ok.1 rest
  exact ⟨use, declared, used, rfl⟩

theorem requiredParam_eq_ok {owner : String} {entry : TypeNode × Go.TypeExpr × List String}
    (h : site.requiredParam owner node = .ok entry) :
    ∃ use, site.use node = .ok use ∧ entry = (node, fieldType node owner use, use.imports) := by
  obtain ⟨use, used, rest⟩ := bind_eq_ok.1 h
  exact ⟨use, used, (pure_eq_ok.1 rest).symm⟩

def constructorChunk (command : Command) (required : List (TypeNode × Go.TypeExpr × List String)) :
    Chunk :=
  ⟨required.flatMap (·.2.2),
    [⟨constructorDecl command (required.map fun entry => (entry.1, entry.2.1)), true⟩]⟩

def argumentsDoc (domain : Domain) (command : Command) : String :=
  command.arguments ++ " represents the arguments for " ++ command.method ++ " in the "
    ++ domain.name ++ " domain."

/-- The arguments of a command: struct, constructor and setters, in this order. -/
theorem arguments_eq_ok (h : site.arguments domain command scope = .ok (next, chunk)) :
    ∃ middle struct required methods setters,
      site.structDecl scope command.arguments (argumentsDoc domain command) command.parameters =
        .ok (middle, struct) ∧
      middle.declare ("New" ++ command.arguments) = .ok next ∧
      List.Forall₂ (fun node entry => site.requiredParam command.arguments node = .ok entry)
        (command.parameters.filter (!·.optional)) required ∧
      thread (site.setter command) ⟨"methods of " ++ domain.name ++ "." ++ command.arguments, []⟩
        (command.parameters.filter (·.optional)) = .ok (methods, setters) ∧
      chunk = struct ++ constructorChunk command required ++ .concat setters := by
  obtain ⟨⟨middle, struct⟩, emitted, rest⟩ := bind_eq_ok.1 h
  obtain ⟨accepted, declared, rest⟩ := bind_eq_ok.1 rest
  obtain ⟨required, mapped, rest⟩ := bind_eq_ok.1 rest
  obtain ⟨⟨methods, setters⟩, set, rest⟩ := bind_eq_ok.1 rest
  cases pure_eq_ok.1 rest
  exact ⟨middle, struct, required, methods, setters, emitted, declared, mapM_eq_ok mapped, set, rfl⟩

/-- Types that a command has or has not: they are added, or nothing is. -/
inductive Optionally (emit : NameScope → Except Error (NameScope × Chunk)) (scope : NameScope)
    (has : Bool) : NameScope → Chunk → Prop where
  | present {next : NameScope} {chunk : Chunk} (holds : has = true)
      (emitted : emit scope = .ok (next, chunk)) : Optionally emit scope has next chunk
  | absent (lacks : has = false) : Optionally emit scope has scope {}

theorem Optionally.emitted {emit : NameScope → Except Error (NameScope × Chunk)} {has : Bool}
    (h : Optionally emit scope has next chunk) (holds : has = true) :
    emit scope = .ok (next, chunk) := by
  cases h with
  | present _ emitted => exact emitted
  | absent lacks =>
    rw [holds] at lacks
    cases lacks

theorem Optionally.of_bind {emit : NameScope → Except Error (NameScope × Chunk)} {has : Bool}
    {continue_ : NameScope × Chunk → Except Error (NameScope × Chunk)}
    (h : (if has = true then emit scope >>= continue_ else .ok (scope, {}) >>= continue_) =
      .ok (next, chunk)) :
    ∃ middle added, Optionally emit scope has middle added ∧
      continue_ (middle, added) = .ok (next, chunk) := by
  cases has with
  | true =>
    rw [if_pos rfl] at h
    obtain ⟨⟨middle, added⟩, emitted, rest⟩ := bind_eq_ok.1 h
    exact ⟨middle, added, .present rfl emitted, rest⟩
  | false => exact ⟨scope, {}, .absent rfl, h⟩

/-- The arguments of a command, then its reply. -/
theorem commandTypes_eq_ok (h : site.commandTypes domain scope command = .ok (next, chunk)) :
    ∃ middle arguments reply,
      Optionally (site.arguments domain command) scope command.hasArguments middle arguments ∧
      Optionally (site.reply domain command) middle command.hasReply next reply ∧
      chunk = arguments ++ reply := by
  unfold commandTypes at h
  obtain ⟨middle, arguments, first, rest⟩ := Optionally.of_bind h
  obtain ⟨last, reply, second, rest⟩ := Optionally.of_bind rest
  cases pure_eq_ok.1 rest
  exact ⟨middle, arguments, reply, first, second, rfl⟩

def eventReplyDoc (domain : Domain) (event : Event) : String :=
  event.reply ++ " is the reply for " ++ event.wireName domain.name ++ " events."

/-- The interface of an event stream, then the struct of its reply. -/
theorem eventTypes_eq_ok (h : site.eventTypes domain scope event = .ok (next, chunk)) :
    ∃ uses, scope.declareAll [event.client, event.reply] = .ok next ∧
      site.structFields event.parameters event.reply = .ok uses ∧
      chunk = .ofDecls [Imports.rpcc site.root] [streamDecl site.root event] ++
        structChunk event.reply (eventReplyDoc domain event) uses := by
  obtain ⟨accepted, declared, rest⟩ := bind_eq_ok.1 h
  obtain ⟨uses, fields, rest⟩ := bind_eq_ok.1 rest
  cases pure_eq_ok.1 rest
  exact ⟨uses, declared, fields, rfl⟩

def Allows (site : Site) (Allowed : String → Prop) (nodes : List TypeNode) : Prop :=
  ∀ path, site.Needs (TypeNode.listReferences nodes) path → Allowed path

variable {Allowed : String → Prop} {nodes few many : List TypeNode}

theorem Allows.subset (allows : site.Allows Allowed many) (sub : few ⊆ many) :
    site.Allows Allowed few :=
  fun path needs => allows path (needs.mono (TypeNode.listReferences_subset sub))

theorem Allows.of_node (allows : site.Allows Allowed nodes) (member : node ∈ nodes) {path : String}
    (needs : site.Needs node.references path) : Allowed path :=
  allows path (needs.mono (TypeNode.references_subset member))

theorem structDecl_adds {ident doc : String} (solid : SolidName ident)
    (allows : site.Allows Allowed nodes)
    (h : site.structDecl scope ident doc nodes = .ok (next, chunk)) :
    Adds Allowed scope next chunk := by
  obtain ⟨uses, declared, fields, rfl⟩ := structDecl_eq_ok h
  exact .struct declared solid (fun path member => allows path (needs_of_use.2 fields path member))
    (nodup_structs_of_structFields fields)

end Site

theorem structs_constructorDecl (command : Command) (required : List (TypeNode × Go.TypeExpr)) :
    (constructorDecl command required).structs = required.flatMap (·.2.structs) := by
  have assignments : Go.Statement.listStructs (required.map fun entry =>
      .set (.select (.ident "args") entry.1.fieldIdent)
        (.ident (Name.parameter entry.1.wireName))) = [] := by
    simp [Go.Statement.listStructs_eq_flatMap, List.flatMap_map]
  simp [constructorDecl, Decl.structs_function, Go.Signature.structs, Go.Body.structs, assignments,
    List.flatMap_map]

theorem structs_setterDecl (command : Command) (node : TypeNode) (use : TypeUse) :
    (setterDecl command node use).structs = use.type.structs := by
  rw [setterDecl, structs_method]
  cases use.nullable <;> simp

namespace Site

variable {Allowed : String → Prop} {site : Site} {domain : Domain} {command : Command}
  {event : Event} {node : TypeNode} {nodes : List TypeNode} {scope next : NameScope} {chunk : Chunk}

theorem constructor_adds {required : List (TypeNode × Go.TypeExpr × List String)}
    (allows : site.Allows Allowed nodes)
    (typed : List.Forall₂ (fun node entry => site.requiredParam command.arguments node = .ok entry)
      nodes required)
    (declared : scope.declare ("New" ++ command.arguments) = .ok next) :
    Adds Allowed scope next (constructorChunk command required) := by
  have uses : ∀ entry ∈ required, ∃ node ∈ nodes, ∃ use, site.use node = .ok use ∧
      entry = (node, fieldType node command.arguments use, use.imports) := by
    intro entry member
    obtain ⟨node, found, mapped⟩ := exists_of_mem_right typed member
    exact ⟨node, found, requiredParam_eq_ok mapped⟩
  have solid : SolidName ("New" ++ command.arguments) := by
    rw [solidName_append, Command.arguments, solidName_append]
    exact ⟨by decide, solidName_exported _, by decide⟩
  refine .of_names_singleton rfl declared solid (fun path member => ?_) (fun fields member => ?_)
  · obtain ⟨entry, inside, used⟩ := List.mem_flatMap.1 member
    obtain ⟨node, found, use, typed, rfl⟩ := uses entry inside
    exact allows.of_node found (needs_of_use.1 typed path used)
  · rw [constructorChunk, Chunk.structs_singleton, structs_constructorDecl,
      List.flatMap_map] at member
    obtain ⟨entry, inside, held⟩ := List.mem_flatMap.1 member
    obtain ⟨node, found, use, typed, rfl⟩ := uses entry inside
    rw [structs_fieldType] at held
    exact nodup_structs_of_use.1 typed fields held

/-- A setter is a method of the arguments: the package scope stays as it is. -/
theorem setter_adds {before after : NameScope} (allows : site.Allows Allowed nodes)
    (found : node ∈ nodes) (h : site.setter command before node = .ok (after, chunk)) :
    Adds Allowed scope scope chunk := by
  obtain ⟨use, -, used, rfl⟩ := setter_eq_ok h
  refine .of_names_nil rfl (fun path member => ?_) (fun fields member => ?_)
  · exact allows.of_node found (needs_of_use.1 used path member)
  · rw [Chunk.structs_singleton, structs_setterDecl] at member
    exact nodup_structs_of_use.1 used fields member

theorem arguments_adds (allows : site.Allows Allowed command.parameters)
    (h : site.arguments domain command scope = .ok (next, chunk)) :
    Adds Allowed scope next chunk := by
  obtain ⟨middle, struct, required, methods, setters, emitted, declared, typed, set, rfl⟩ :=
    arguments_eq_ok h
  have solid : SolidName command.arguments := by
    rw [Command.arguments, solidName_append]
    exact ⟨solidName_exported _, by decide⟩
  have optional : Adds Allowed next next (.concat setters) :=
    .thread (fun _ => next)
      (fun member => setter_adds (allows.subset (List.filter_subset_self _)) member) set
  exact ((structDecl_adds solid allows emitted).append
    (constructor_adds (allows.subset (List.filter_subset_self _)) typed declared)).append optional

theorem reply_adds (allows : site.Allows Allowed command.returns)
    (h : site.reply domain command scope = .ok (next, chunk)) : Adds Allowed scope next chunk := by
  refine structDecl_adds ?_ allows h
  rw [Command.reply, solidName_append]
  exact ⟨solidName_exported _, by decide⟩

theorem Optionally.adds {emit : NameScope → Except Error (NameScope × Chunk)} {has : Bool}
    (each : ∀ {chunk}, emit scope = .ok (next, chunk) → Adds Allowed scope next chunk)
    (h : Optionally emit scope has next chunk) : Adds Allowed scope next chunk := by
  cases h with
  | present _ emitted => exact each emitted
  | absent => exact .empty

theorem commandTypes_adds (allows : site.Allows Allowed (command.parameters ++ command.returns))
    (h : site.commandTypes domain scope command = .ok (next, chunk)) :
    Adds Allowed scope next chunk := by
  obtain ⟨middle, arguments, reply, first, second, rfl⟩ := commandTypes_eq_ok h
  have before : Adds Allowed scope middle arguments :=
    first.adds (arguments_adds (allows.subset (List.subset_append_left _ _)))
  have after : Adds Allowed middle next reply :=
    second.adds (reply_adds (allows.subset (List.subset_append_right _ _)))
  exact before.append after

theorem eventTypes_adds (transport : Allowed (Imports.rpcc site.root).path)
    (allows : site.Allows Allowed event.parameters)
    (h : site.eventTypes domain scope event = .ok (next, chunk)) :
    Adds Allowed scope next chunk := by
  obtain ⟨uses, declared, fields, rfl⟩ := eventTypes_eq_ok h
  obtain ⟨middle, client, reply⟩ := NameScope.declareAll_cons_eq_ok.1 declared
  have solid (suffix : String) (plain : SolidName suffix) : SolidName (event.method ++ suffix) :=
    solidName_append.2 ⟨solidName_exported _, plain⟩
  have stream : Adds Allowed scope middle
      (.ofDecls [Imports.rpcc site.root] [streamDecl site.root event]) := by
    refine .of_names_singleton rfl client (solid "Client" (by decide)) (fun path member => ?_)
      (fun fields member => ?_)
    · rw [List.mem_singleton.1 member]
      exact transport
    · cases member
  have struct : Adds Allowed middle next
      (structChunk event.reply (eventReplyDoc domain event) uses) :=
    .struct (NameScope.declareAll_singleton.1 reply) (solid "Reply" (by decide))
      (fun path member => allows path (needs_of_use.2 fields path member))
      (nodup_structs_of_structFields fields)
  exact stream.append struct

end Site

section Client

variable {root : String} {domain : Domain} {command : Command} {event : Event} {chunk : Chunk}

def invokeFunction (root : String) (domain : Domain) (command : Command) : Go.Function where
  doc := (invokeDoc command domain).lines
  receiver := some ⟨some "d", clientType⟩
  name := command.method
  signature := invokeSignature command
  body := .block (invokeBody command root domain)

def invokeChunk (root : String) (domain : Domain) (command : Command) : Chunk :=
  .ofDecls [Imports.context, Imports.rpcc root, Imports.internal root]
    [.function (invokeFunction root domain command)]

def subscribeChunk (root : String) (domain : Domain) (event : Event) : Chunk :=
  .ofDecls [Imports.context, Imports.rpcc root, Imports.internal root]
    (subscribeDecl root domain event :: wrapperDecls root domain event)

theorem commandMethod_eq_ok {before after : NameScope}
    (h : commandMethod root domain before command = .ok (after, chunk)) :
    before.declare command.method = .ok after ∧ chunk = invokeChunk root domain command := by
  obtain ⟨accepted, declared, rest⟩ := bind_eq_ok.1 h
  cases pure_eq_ok.1 rest
  exact ⟨declared, rfl⟩

theorem eventMethod_eq_ok {before after : NameScope × NameScope}
    (h : eventMethod root domain before event = .ok (after, chunk)) :
    before.2.declare event.method = .ok after.2 ∧
      before.1.declare (wrapperName event) = .ok after.1 ∧
      chunk = subscribeChunk root domain event := by
  obtain ⟨methods, method, rest⟩ := bind_eq_ok.1 h
  obtain ⟨scope, wrapper, rest⟩ := bind_eq_ok.1 rest
  cases pure_eq_ok.1 rest
  exact ⟨method, wrapper, rfl⟩

theorem structs_opError (root domain operation : String) :
    (opError root domain operation).structs = [] := by
  simp [opError]

theorem names_invokeChunk : (invokeChunk root domain command).names = [] := rfl

theorem structs_invokeChunk : (invokeChunk root domain command).structs = [] := by
  cases arguments : command.hasArguments <;> cases reply : command.hasReply <;>
    simp [invokeChunk, Chunk.structs_ofDecls, Decl.structs_function, invokeFunction, clientType,
      Go.Signature.structs, invokeSignature, Go.Body.structs, invokeBody, invocation,
      structs_opError, arguments, reply]

theorem names_subscribeChunk :
    (subscribeChunk root domain event).names = [wrapperName event] := rfl

/-- The one struct is the type of the stream, which embeds its interface. -/
theorem structs_subscribeChunk :
    (subscribeChunk root domain event).structs = [[(stream root).text]] := by
  simp [subscribeChunk, Chunk.structs_ofDecls, Decl.structs_function, subscribeDecl, wrapperDecls,
    structs_method, clientType, Go.Signature.structs, subscribeSignature, Go.Body.structs, stream,
    replyResults, structs_opError]

end Client

end Bindings.Emission
