import Bindings.Proofs.Emission.Methods

/-! The struct, the constructor and the setters for the arguments of a command.

Each of the three looks at the parameters of the command anew. They find the same types, since a type
depends on its node alone; so all of them can be given by one list of parameters with their types.
-/

set_option autoImplicit false

namespace Bindings.Emission

open Go (Decl Field Function Item TypeExpr)

def fieldOf (owner : String) (entry : TypeNode × TypeUse) : Field :=
  .mk (fieldDoc entry.1) entry.1.fieldIdent (fieldType entry.1 owner entry.2)
    (some (fieldTag entry.1))

def constructorFunction (command : Command) (required : List (TypeNode × TypeExpr)) : Function where
  doc := ["New" ++ command.arguments ++ " initializes " ++ command.arguments
    ++ " with the required arguments."]
  receiver := none
  name := "New" ++ command.arguments
  signature :=
    ⟨required.map fun entry => ⟨some (Name.parameter entry.1.wireName), entry.2⟩,
     [.unnamed (.pointer (.named command.arguments))]⟩
  body := .block
    (.define "args" (.call (.ident "new") [.ident command.arguments]) ::
      required.map (fun entry =>
        .set (.select (.ident "args") entry.1.fieldIdent)
          (.ident (Name.parameter entry.1.wireName)))
      ++ [.leave [.ident "args"]])

theorem constructorDecl_eq (command : Command) (required : List (TypeNode × TypeExpr)) :
    constructorDecl command required = .function (constructorFunction command required) := rfl

def setterFunction (command : Command) (entry : TypeNode × TypeUse) : Function where
  doc := (setterDoc entry.1).lines
  receiver := some ⟨some "a", .pointer (.named command.arguments)⟩
  name := setterName entry.1
  signature :=
    ⟨[⟨some (Name.parameter entry.1.wireName), entry.2.type⟩],
     [.unnamed (.pointer (.named command.arguments))]⟩
  body := .block
    [.set (.select (.ident "a") entry.1.fieldIdent)
      (if entry.2.nullable then .ident (Name.parameter entry.1.wireName)
        else .address (.ident (Name.parameter entry.1.wireName))),
     .leave [.ident "a"]]

theorem setterDecl_eq (command : Command) (entry : TypeNode × TypeUse) :
    setterDecl command entry.1 entry.2 = .function (setterFunction command entry) := rfl

def argumentItems (command : Command) (doc : String) (entries : List (TypeNode × TypeUse)) :
    List Item :=
  ⟨.type [doc] command.arguments (.struct (entries.map (fieldOf command.arguments))), true⟩ ::
  ⟨.function (constructorFunction command
    ((entries.filter (!·.1.optional)).map fun entry =>
      (entry.1, fieldType entry.1 command.arguments entry.2))), true⟩ ::
  (entries.filter (·.1.optional)).map fun entry => ⟨.function (setterFunction command entry), true⟩

namespace Site

variable {site : Site} {domain : Domain} {command : Command} {scope next : Go.NameScope}
  {chunk : Chunk}

structure Entries (site : Site) (nodes : List TypeNode) (entries : List (TypeNode × TypeUse)) :
    Prop where
  nodes : entries.map (·.1) = nodes
  uses : ∀ entry ∈ entries, site.use entry.1 = .ok entry.2

theorem entries_of_fieldUses {owner : String} {nodes : List TypeNode} {uses : FieldUses}
    (h : site.fieldUses owner scope nodes = .ok uses) :
    ∃ entries, site.Entries nodes entries ∧ uses.fields = entries.map (fieldOf owner) := by
  -- The scope of the fields grows from one to the next.
  induction nodes generalizing scope uses with
  | nil =>
    cases h
    exact ⟨[], ⟨rfl, fun _ member => nomatch member⟩, rfl⟩
  | cons node nodes ih =>
    obtain ⟨next, use, rest, -, used, others, rfl⟩ := fieldUses_cons_eq_ok h
    obtain ⟨entries, ⟨rfl, each⟩, same⟩ := ih others
    refine ⟨(node, use) :: entries, ⟨rfl, fun entry member => ?_⟩, ?_⟩
    · rcases List.mem_cons.1 member with rfl | member
      · exact used
      · exact each entry member
    · rw [List.map_cons, ← same]
      rfl

theorem Entries.filter {nodes : List TypeNode} {entries : List (TypeNode × TypeUse)}
    (h : site.Entries nodes entries) (p : TypeNode → Bool) :
    nodes.filter p = (entries.filter (p ·.1)).map (·.1) := by
  rw [← h.nodes, List.filter_map]
  rfl

/-- The arguments of a command are declared from one list of entries. -/
theorem argumentItems_of_arguments (h : site.arguments domain command scope = .ok (next, chunk)) :
    ∃ doc entries, site.Entries command.parameters entries ∧
      chunk.items = argumentItems command doc entries := by
  obtain ⟨_, struct, required, methods, setters, declared, -, typed, set, rfl⟩ :=
    arguments_eq_ok h
  obtain ⟨uses, -, fields, rfl⟩ := structDecl_eq_ok declared
  obtain ⟨entries, ofParameters, sameFields⟩ := entries_of_fieldUses fields
  have sameRequired : required = (entries.filter (!·.1.optional)).map fun entry =>
      (entry.1, fieldType entry.1 command.arguments entry.2, entry.2.imports) := by
    rw [ofParameters.filter] at typed
    refine eq_map_of_forall₂ typed fun entry member found mapped => ?_
    obtain ⟨use, used, rfl⟩ := requiredParam_eq_ok mapped
    have same := (ofParameters.uses entry (List.mem_filter.1 member).1).symm.trans used
    rw [Except.ok.inj same]
  have sameSetters : setters = (entries.filter (·.1.optional)).map fun entry =>
      ⟨entry.2.imports, [⟨setterDecl command entry.1 entry.2, true⟩]⟩ := by
    have steps := thread_forall₂ set
    rw [ofParameters.filter] at steps
    refine eq_map_of_forall₂ steps fun entry member found ⟨before, after, step⟩ => ?_
    obtain ⟨use, -, used, rfl⟩ := setter_eq_ok step
    have same := (ofParameters.uses entry (List.mem_filter.1 member).1).symm.trans used
    rw [Except.ok.inj same]
  refine ⟨argumentsDoc domain command, entries, ofParameters, ?_⟩
  simp only [Chunk.items_append, Chunk.items_concat, structChunk, constructorChunk, sameFields,
    sameRequired, sameSetters, List.map_map, List.flatMap_map, List.cons_append, List.nil_append,
    setterDecl_eq, constructorDecl_eq, argumentItems, ← List.map_eq_flatMap]
  rfl

/-- The methods of the arguments are the setters. -/
theorem methodsOf_arguments {doc : String} {entries : List (TypeNode × TypeUse)}
    (same : chunk.items = argumentItems command doc entries) :
    chunk.methodsOf command.arguments =
      (entries.filter (·.1.optional)).map (setterFunction command) := by
  rw [Chunk.methodsOf, same, argumentItems, List.filterMap_cons, List.filterMap_cons]
  simp [constructorFunction, setterFunction, Function.owner?, List.filterMap_map,
    Function.comp_def]

/-- Redirected or not, a command with parameters has these declarations, and no other methods of its
arguments. -/
theorem built_of_commandTypes (has : command.hasArguments = true)
    (h : site.commandTypes domain scope command = .ok (next, chunk)) :
    ∃ doc entries, site.Entries command.parameters entries ∧
      argumentItems command doc entries ⊆ chunk.items ∧
      chunk.methodsOf command.arguments =
        (entries.filter (·.1.optional)).map (setterFunction command) := by
  obtain ⟨middle, arguments, reply, first, second, rfl⟩ := commandTypes_eq_ok h
  obtain ⟨doc, entries, ofParameters, same⟩ := argumentItems_of_arguments (first.emitted has)
  have ofReply : reply.methodsOf command.arguments = [] := by
    cases second with
    | absent => rfl
    | present _ emitted =>
      obtain ⟨uses, -, -, rfl⟩ := structDecl_eq_ok emitted
      rfl
  refine ⟨doc, entries, ofParameters, ?_, ?_⟩
  · rw [← same]
    exact List.subset_append_left _ _
  · rw [Chunk.methodsOf_append, ofReply, List.append_nil, methodsOf_arguments same]

end Site

namespace PackageRun.Succeeds

variable {run : PackageRun} {root : String} {exemptions : Exemptions} {before after : SharedPackage}
  {domain : Domain} {command : Command}

def argumentIdents (command : Command) : List String :=
  if command.hasArguments then [command.arguments] else []

theorem argumentIdents_nodup (h : run.Succeeds root exemptions before after domain) :
    (domain.commands.flatMap argumentIdents).Nodup := by
  have held : List.Forall₂ (fun command chunk =>
      (argumentIdents command).Sublist (Chunk.names chunk)) domain.commands run.commands := by
    refine (thread_forall₂ h.commands).imp ?_
    rintro command chunk ⟨s, t, step⟩
    rw [argumentIdents]
    split
    · next has =>
      obtain ⟨doc, uses, -, declared⟩ := (Site.declaresCommand_of_commandTypes step).arguments has
      exact List.singleton_sublist.2 (List.mem_flatMap.2 ⟨_, declared, List.mem_cons_self⟩)
    · exact List.nil_sublist _
  have distinct : (Chunk.concat run.commands).names.Nodup :=
    h.file_names_nodup (List.mem_cons_of_mem _ List.mem_cons_self)
  rw [Chunk.names_concat] at distinct
  exact distinct.sublist (flatMap_sublist_flatMap held)

theorem client_ne_arguments (stem : String) : stem ++ "Client" ≠ command.arguments := by
  intro same
  have last := congrArg (fun name => name.toList.getLast?) same
  simp [Command.arguments] at last

/-- The methods of the arguments of a command are its setters, whichever file of the package one
looks in. -/
theorem built (h : run.Succeeds root exemptions before after domain)
    (member : command ∈ domain.commands) (has : command.hasArguments = true) :
    ∃ doc entries, (domainSite root exemptions domain).Entries command.parameters entries ∧
      argumentItems command doc entries ⊆ (run.files root domain).commands.items ∧
      (run.files root domain).list.flatMap (·.methodsOf command.arguments) =
        (entries.filter (·.1.optional)).map (setterFunction command) := by
  have own : command.arguments ∈ argumentIdents command := by simp [argumentIdents, has]
  have silent {other : Command} {chunk : Chunk} (_ : other ∈ domain.commands)
      (step : ∃ s t, (domainSite root exemptions domain).commandTypes domain s other =
        .ok (t, chunk)) (apart : command.arguments ∉ argumentIdents other) :
      chunk.methodsOf command.arguments = [] := by
    obtain ⟨s, t, step⟩ := step
    exact Site.commandTypes_methodsOf
      (fun has same => apart (by simp [argumentIdents, has, same])) step
  obtain ⟨chunk, found, ⟨s, t, step⟩, only⟩ :=
    flatMap_eq_of_key h.argumentIdents_nodup (thread_forall₂ h.commands) member own silent
  obtain ⟨doc, entries, ofParameters, items, setters⟩ := Site.built_of_commandTypes has step
  have inside : argumentItems command doc entries ⊆ (run.files root domain).commands.items :=
    List.Subset.trans items (Chunk.items_subset_concat found)
  have declared : command.arguments ∈ (Chunk.concat run.commands).names :=
    List.mem_flatMap.2 ⟨_, inside List.mem_cons_self, List.mem_cons_self⟩
  have types : (Chunk.concat run.types).methodsOf command.arguments = [] := by
    rw [Chunk.methodsOf_concat, List.flatMap_eq_nil_iff]
    intro types listed
    obtain ⟨s, node, t, ofDomain, step⟩ := thread_mem h.types listed
    have other : node.ident (domainSite root exemptions domain).domain ≠ command.arguments :=
      h.ident_ne_of_other List.mem_cons_self declared ofDomain
    exact Site.declared_methodsOf other (Site.typeStep_eq_ok step).1
  have commands : (Chunk.concat run.commands).methodsOf command.arguments =
      (entries.filter (·.1.optional)).map (setterFunction command) := by
    rw [Chunk.methodsOf_concat, only, setters]
  have client : (clientChunk root domain).methodsOf command.arguments = [] :=
    methodsOf_clientChunk_ne (client_ne_arguments "domain") fun event _ => client_ne_arguments _
  refine ⟨doc, entries, ofParameters, inside, ?_⟩
  rw [PackageRun.methodsOf_list, types, commands, h.methodsOf_events, client]
  simp

end PackageRun.Succeeds

end Bindings.Emission
