import Bindings.Emission.RootPackage
import Bindings.Proofs.Emission.Comments

/-! What the documentation of a domain changes in its package: nothing but comments.

Every step of the emission is run twice, for a part of a protocol and for the same part without its
documentation. Both runs fail alike, or what they emit is alike.
-/

set_option autoImplicit false

namespace Bindings.Emission

open Go (Decl Doc DocAlike Item NameScope SourceFile)

structure Chunk.Alike (first second : Chunk) : Prop where
  imports : first.imports = second.imports
  items : List.Forall₂ Item.Alike first.items second.items

namespace Chunk.Alike

variable {a b c d : Chunk} {decls decls' : List Decl}

theorem empty : Chunk.Alike {} {} := ⟨rfl, .nil⟩

theorem append (h : a.Alike b) (h' : c.Alike d) : (a ++ c).Alike (b ++ d) :=
  ⟨congrArg₂ _ h.imports h'.imports, List.rel_append h.items h'.items⟩

theorem concat {chunks chunks' : List Chunk} (each : List.Forall₂ Chunk.Alike chunks chunks') :
    (Chunk.concat chunks).Alike (Chunk.concat chunks') := by
  induction each with
  | nil => exact empty
  | cons first _ rest => exact first.append rest

theorem ofDecls (imports : List Go.Package) (each : List.Forall₂ Decl.Alike decls decls') :
    (Chunk.ofDecls imports decls).Alike (.ofDecls imports decls') :=
  ⟨rfl, List.forall₂_map_left_iff.2 (List.forall₂_map_right_iff.2
    (each.imp fun _ _ alike => ⟨alike, rfl⟩))⟩

theorem ofDecls_self (imports : List Go.Package) (printed : ∀ decl ∈ decls, decl.isFixed = false) :
    (Chunk.ofDecls imports decls).Alike (.ofDecls imports decls) :=
  ofDecls imports (List.forall₂_same.2 fun decl member => .refl (printed decl member))

theorem decl {imports imports' : List String} {decl decl' : Decl} (same : imports = imports')
    (alike : decl.Alike decl') :
    Chunk.Alike ⟨imports, [⟨decl, true⟩]⟩ ⟨imports', [⟨decl', true⟩]⟩ :=
  ⟨same, .cons ⟨alike, rfl⟩ .nil⟩

theorem file (h : a.Alike b) (path package : String) {doc doc' : List String}
    (docs : DocAlike doc doc') : (a.file path package doc).Alike (b.file path package doc') :=
  ⟨rfl, rfl, docs, congrArg (List.foldr insertSorted []) h.imports, h.items⟩

end Chunk.Alike

section Declared

variable {doc doc' : List String}

theorem alike_enumDecls (docs : DocAlike doc doc') (ident : String) (literals : List String) :
    List.Forall₂ Decl.Alike (enumDecls doc ident literals) (enumDecls doc' ident literals) :=
  .cons (.type docs ident (.same _)) (List.forall₂_same.2 fun decl member => .refl (by
    simp only [List.mem_cons, List.not_mem_nil, or_false] at member
    rcases member with rfl | rfl | rfl | rfl | rfl <;> rfl))

theorem alike_timestampDecls (docs : DocAlike doc doc') (ident : String) (unit : TimeUnit) :
    List.Forall₂ Decl.Alike (timestampDecls doc ident unit) (timestampDecls doc' ident unit) :=
  .cons (.type docs ident (.same _)) (List.forall₂_same.2 fun decl member => .refl (by
    simp only [List.mem_cons, List.not_mem_nil, or_false] at member
    rcases member with rfl | rfl | rfl | rfl <;> rfl))

theorem alike_rawDecls (docs : DocAlike doc doc') (ident : String) :
    List.Forall₂ Decl.Alike (rawDecls doc ident) (rawDecls doc' ident) :=
  .cons (.type docs ident (.same _)) (List.forall₂_same.2 fun decl member => .refl (by
    simp only [List.mem_cons, List.not_mem_nil, or_false] at member
    rcases member with rfl | rfl <;> rfl))

end Declared

structure SharedPackage.Alike (first second : SharedPackage) : Prop where
  scope : first.scope = second.scope
  chunk : first.chunk.Alike second.chunk

namespace Site

variable {site : Site} {node : TypeNode} {scope : NameScope}

theorem structFields_agrees {nodes : List TypeNode} (owner : String)
    (named : AllUnbroken (TypeNode.listNames nodes)) :
    Agrees FieldUses.Alike (site.structFields nodes owner)
      (site.structFields (nodes.map TypeNode.undocumented) owner) :=
  fieldUses_agrees named fun _ _ inner => use_agrees inner

theorem definition_agrees {ident : String} {doc doc' : Doc} (docs : DocAlike doc.lines doc'.lines)
    (named : AllUnbroken node.innerNames) :
    Agrees (Both Eq Chunk.Alike) (site.definition node ident doc scope)
      (site.definition node.undocumented ident doc' scope) := by
  rw [definition, definition, TypeNode.undocumented_shape]
  refine .bind_self fun found => ?_
  cases found with
  | enumeration =>
    have declares : site.declareEnum node.undocumented ident scope =
        site.declareEnum node ident scope := by simp [declareEnum]
    simp only [declares, TypeNode.undocumented_literals]
    exact .bind_self fun next => .ok ⟨rfl, .ofDecls _ (alike_enumDecls docs ident _)⟩
  | timestamp unit => exact .ok ⟨rfl, .ofDecls _ (alike_timestampDecls docs ident unit)⟩
  | raw => exact .ok ⟨rfl, .ofDecls _ (alike_rawDecls docs ident)⟩
  | record =>
    have inner := named.subset (TypeNode.listNames_properties node)
    simp only [TypeNode.undocumented_properties]
    exact (structFields_agrees ident inner).bind fun a b alike =>
      .ok ⟨rfl, .decl alike.imports (.type docs ident (.struct alike.fields))⟩
  | _ =>
    exact (use_agrees named).bind fun a b alike =>
      .ok ⟨rfl, .decl alike.imports (.type docs ident alike.type)⟩

theorem declared_agrees (identified : Unbroken (node.id.getD ""))
    (named : AllUnbroken node.innerNames) :
    Agrees (Both Eq Chunk.Alike) (site.declared scope node)
      (site.declared scope node.undocumented) := by
  have ident : Unbroken (node.ident site.domain) := identified.exported.withoutDomain
  have docs : DocAlike (typeDoc node (node.ident site.domain)).lines
      (typeDoc node.undocumented (node.ident site.domain)).lines :=
    .unbroken (unbroken_typeDoc ident) (unbroken_typeDoc ident)
  rw [declared, declared]
  simp only [TypeNode.undocumented_ident, TypeNode.undocumented_id]
  refine .bind_self fun next => ?_
  split
  · exact .ok ⟨rfl, .ofDecls _ (.cons (.synonym docs _ _) .nil)⟩
  · exact definition_agrees docs named

theorem unbroken_sharedIdent {domain type ident : String}
    (found : sharedIdent? domain type = some ident) : Unbroken ident := by
  obtain ⟨shared, listed, rfl⟩ := Option.map_eq_some_iff.1 found
  have all : ∀ shared ∈ sharedTypes, Unbroken shared.ident := by decide
  exact all shared (List.mem_of_find?_eq_some listed)

theorem share_agrees {before before' : SharedPackage} (h : before.Alike before')
    (named : AllUnbroken node.innerNames) :
    Agrees SharedPackage.Alike (site.share before node) (site.share before' node.undocumented) := by
  rw [share, share, TypeNode.undocumented_id]
  split
  · exact .ok h
  · next ident found =>
    have unbroken := unbroken_sharedIdent found
    have docs : DocAlike (typeDoc node ident).lines (typeDoc node.undocumented ident).lines :=
      .unbroken (unbroken_typeDoc unbroken) (unbroken_typeDoc unbroken)
    rw [h.scope]
    refine .bind_self fun next => (definition_agrees docs named).bind fun a b alike => ?_
    exact .ok ⟨alike.1, h.chunk.append alike.2⟩

theorem typeStep_agrees {state state' : SharedPackage × NameScope}
    (h : Both SharedPackage.Alike Eq state state') (identified : Unbroken (node.id.getD ""))
    (named : AllUnbroken node.innerNames) :
    Agrees (Both (Both SharedPackage.Alike Eq) Chunk.Alike) (site.typeStep state node)
      (site.typeStep state' node.undocumented) := by
  rw [typeStep, typeStep, h.2]
  refine (declared_agrees identified named).bind fun a b own => ?_
  exact (share_agrees h.1 named).bind fun _ _ shared => .ok ⟨⟨shared, own.1⟩, own.2⟩

theorem structDecl_agrees {ident doc : String} {nodes : List TypeNode}
    (named : AllUnbroken (TypeNode.listNames nodes)) :
    Agrees (Both Eq Chunk.Alike) (site.structDecl scope ident doc nodes)
      (site.structDecl scope ident doc (nodes.map TypeNode.undocumented)) := by
  refine .bind_self fun next => (structFields_agrees ident named).bind fun a b alike => ?_
  exact .ok ⟨rfl, .decl alike.imports (.type (.same _) ident (.struct alike.fields))⟩

end Site

section Arguments

variable {site : Site} {command : Command} {node : TypeNode}

theorem setterDecl_alike {first second : TypeUse} (named : Unbroken (node.name.getD ""))
    (alike : first.Alike second) :
    (setterDecl command node first).Alike
      (setterDecl command.undocumented node.undocumented second) := by
  have docs : DocAlike (setterDoc node).lines (setterDoc node.undocumented).lines :=
    .unbroken (unbroken_setterDoc named)
      (unbroken_setterDoc (by rwa [TypeNode.undocumented_name]))
  have name : setterName node.undocumented = setterName node := by simp [setterName]
  rw [setterDecl, setterDecl, method, method, name, TypeNode.undocumented_wireName,
    TypeNode.undocumented_fieldIdent, alike.nullable]
  exact .function ⟨docs, rfl, rfl, .cons ⟨rfl, alike.type⟩ .nil, rfl, rfl⟩

structure RequiredAlike (first second : TypeNode × Go.TypeExpr × List String) : Prop where
  node : second.1 = first.1.undocumented
  type : first.2.1.Alike second.2.1
  imports : first.2.2 = second.2.2

theorem constructorDecl_alike {first second : List (TypeNode × Go.TypeExpr × List String)}
    (each : List.Forall₂ RequiredAlike first second) :
    (constructorDecl command (first.map fun entry => (entry.1, entry.2.1))).Alike
      (constructorDecl command.undocumented (second.map fun entry => (entry.1, entry.2.1))) := by
  have params : List.Forall₂ Go.Param.Alike
      (first.map fun entry => ⟨some (Name.parameter entry.1.wireName), entry.2.1⟩)
      (second.map fun entry => ⟨some (Name.parameter entry.1.wireName), entry.2.1⟩) := by
    refine List.forall₂_map_left_iff.2 (List.forall₂_map_right_iff.2 (each.imp ?_))
    exact fun a b alike => ⟨by simp [alike.node], alike.type⟩
  have body : (first.map fun entry => Go.Statement.set (.select (.ident "args") entry.1.fieldIdent)
        (.ident (Name.parameter entry.1.wireName))) =
      second.map fun entry => .set (.select (.ident "args") entry.1.fieldIdent)
        (.ident (Name.parameter entry.1.wireName)) := by
    refine List.forall₂_eq_eq_eq ▸ ?_
    refine List.forall₂_map_left_iff.2 (List.forall₂_map_right_iff.2 (each.imp ?_))
    exact fun a b alike => by simp [alike.node]
  rw [constructorDecl, constructorDecl]
  refine .function ⟨.same _, rfl, rfl, ?_, rfl, ?_⟩
  · simpa only [List.map_map, Function.comp_def] using params
  · simp only [List.map_map, Function.comp_def, body]
    rfl

end Arguments

namespace Site

variable {site : Site} {domain : Domain} {command : Command} {event : Event} {scope : NameScope}

theorem undocumented_filter {p : Bool → Bool} (nodes : List TypeNode) :
    (nodes.map TypeNode.undocumented).filter (fun node => p node.optional) =
      (nodes.filter fun node => p node.optional).map TypeNode.undocumented := by
  simp [List.filter_map, Function.comp_def]

theorem arguments_agrees (named : AllUnbroken (TypeNode.listNames command.parameters)) :
    Agrees (Both Eq Chunk.Alike) (site.arguments domain command scope)
      (site.arguments domain.undocumented command.undocumented scope) := by
  have own {p : TypeNode → Bool} : ∀ node ∈ command.parameters.filter p,
      Unbroken (node.name.getD "") ∧ AllUnbroken node.innerNames := fun node member =>
    List.forall_mem_cons.1
      (named.subset (TypeNode.names_subset_listNames (List.mem_filter.1 member).1))
  have required : Agrees (List.Forall₂ RequiredAlike)
      ((command.parameters.filter (!·.optional)).mapM (site.requiredParam command.arguments))
      ((command.undocumented.parameters.filter (!·.optional)).mapM
        (site.requiredParam command.arguments)) := by
    rw [Command.undocumented, undocumented_filter (p := (!·))]
    refine .mapM fun node member => ?_
    refine (agrees_of_reference (use_agrees (own node member).2)).bind fun a b alike => ?_
    exact .ok ⟨rfl, fieldType_alike alike.1 alike.2, alike.1.imports⟩
  have setters (methods : NameScope) : Agrees (Both Eq (List.Forall₂ Chunk.Alike))
      (thread (site.setter command) methods (command.parameters.filter (·.optional)))
      (thread (site.setter command.undocumented) methods
        (command.undocumented.parameters.filter (·.optional))) := by
    have filtered : command.undocumented.parameters.filter (·.optional) =
        (command.parameters.filter (·.optional)).map TypeNode.undocumented :=
      undocumented_filter (p := id) command.parameters
    rw [filtered]
    refine .thread (fun node member before after same => ?_) rfl
    obtain ⟨name, inner⟩ := own node member
    have setterName : setterName node.undocumented = setterName node := by
      simp [Emission.setterName]
    rw [setter, setter, setterName, same]
    refine .bind_self fun next => (use_agrees inner).bind fun a b alike => ?_
    exact .ok ⟨rfl, .decl alike.imports (setterDecl_alike name alike)⟩
  refine (structDecl_agrees named).bind fun struct struct' declared => ?_
  obtain ⟨next, chunk⟩ := struct
  obtain ⟨next', chunk'⟩ := struct'
  obtain ⟨rfl, struct⟩ := declared
  refine .bind_self fun scope => required.bind fun entries entries' typed => ?_
  refine (setters _).bind fun methods methods' set => ?_
  have imports : entries.flatMap (·.2.2) = entries'.flatMap (·.2.2) := by
    induction typed with
    | nil => rfl
    | cons first _ rest => rw [List.flatMap_cons, List.flatMap_cons, first.imports, rest]
  exact .ok ⟨rfl, (struct.append (.decl imports (constructorDecl_alike typed))).append
    (.concat set.2)⟩

/-- Types that a command has or has not. -/
theorem optionally_agrees {emit emit' : NameScope → Except Error (NameScope × Chunk)} {has : Bool}
    {later later' : NameScope × Chunk → Except Error (NameScope × Chunk)}
    (first : Agrees (Both Eq Chunk.Alike) (emit scope) (emit' scope))
    (rest : ∀ a b, Both Eq Chunk.Alike a b → Agrees (Both Eq Chunk.Alike) (later a) (later' b)) :
    Agrees (Both Eq Chunk.Alike)
      (if has = true then emit scope >>= later else .ok (scope, {}) >>= later)
      (if has = true then emit' scope >>= later' else .ok (scope, {}) >>= later') := by
  cases has with
  | true => exact first.bind rest
  | false => exact rest _ _ ⟨rfl, .empty⟩

theorem commandTypes_agrees (arguments : AllUnbroken (TypeNode.listNames command.parameters))
    (returns : AllUnbroken (TypeNode.listNames command.returns)) :
    Agrees (Both Eq Chunk.Alike) (site.commandTypes domain scope command)
      (site.commandTypes domain.undocumented scope command.undocumented) := by
  have reply (scope : NameScope) : Agrees (Both Eq Chunk.Alike) (site.reply domain command scope)
      (site.reply domain.undocumented command.undocumented scope) := structDecl_agrees returns
  unfold commandTypes
  rw [Command.undocumented_hasArguments, Command.undocumented_hasReply]
  refine optionally_agrees (arguments_agrees arguments) fun ⟨next, _⟩ ⟨_, _⟩ first => ?_
  obtain ⟨rfl, alike⟩ := first
  exact optionally_agrees (reply next) fun c d second => .ok ⟨second.1, alike.append second.2⟩

theorem eventTypes_agrees (named : Unbroken event.name)
    (parameters : AllUnbroken (TypeNode.listNames event.parameters)) :
    Agrees (Both Eq Chunk.Alike) (site.eventTypes domain scope event)
      (site.eventTypes domain.undocumented scope event.undocumented) := by
  have docs : DocAlike (streamDoc event).lines (streamDoc event.undocumented).lines :=
    .unbroken (unbroken_streamDoc named) (unbroken_streamDoc named)
  have stream : (streamDecl site.root event).Alike (streamDecl site.root event.undocumented) :=
    .interface docs _ false (List.forall₂_same.2 fun member _ => .refl member)
  refine .bind_self fun next => (structFields_agrees _ parameters).bind fun a b alike => ?_
  exact .ok ⟨rfl, (Chunk.Alike.ofDecls _ (.cons stream .nil)).append
    (.decl alike.imports (.type (.same _) _ (.struct alike.fields)))⟩

end Site

section Client

variable {root : String} {domain : Domain} {command : Command} {event : Event}

theorem commandMethod_agrees (methods : NameScope) (named : Unbroken command.name)
    (owned : Unbroken domain.name) :
    Agrees (Both Eq Chunk.Alike) (commandMethod root domain methods command)
      (commandMethod root domain.undocumented methods command.undocumented) := by
  have docs : DocAlike (invokeDoc command domain).lines
      (invokeDoc command.undocumented domain.undocumented).lines :=
    .unbroken (unbroken_invokeDoc named owned) (unbroken_invokeDoc named owned)
  have signature : invokeSignature command.undocumented = invokeSignature command := by
    rw [invokeSignature, invokeSignature, Command.undocumented_hasArguments,
      Command.undocumented_hasReply]
    rfl
  have body : invokeBody command.undocumented root domain.undocumented =
      invokeBody command root domain := by
    rw [invokeBody, invokeBody, Command.undocumented_hasArguments, Command.undocumented_hasReply]
    rfl
  refine .bind_self fun next => .ok ⟨rfl, .ofDecls _ (.cons (.function ?_) .nil)⟩
  exact ⟨docs, rfl, rfl, signature ▸ List.forall₂_same.2 fun param _ => .refl param,
    congrArg Go.Signature.results signature.symm, congrArg Go.Body.block body.symm⟩

theorem eventMethod_agrees (scopes : NameScope × NameScope) (named : Unbroken event.name)
    (owned : Unbroken domain.name) :
    Agrees (Both Eq Chunk.Alike) (eventMethod root domain scopes event)
      (eventMethod root domain.undocumented scopes event.undocumented) := by
  have docs : DocAlike (subscribeDoc event domain).lines
      (subscribeDoc event.undocumented domain.undocumented).lines :=
    .unbroken (unbroken_subscribeDoc named owned) (unbroken_subscribeDoc named owned)
  refine .bind_self fun methods => .bind_self fun scope => .ok ⟨rfl, .ofDecls _ ?_⟩
  refine .cons (.function ⟨docs, rfl, rfl, ?_, rfl, rfl⟩)
    (List.forall₂_same.2 fun decl member => .refl ?_)
  · exact List.forall₂_same.2 fun param _ => .refl param
  · simp only [wrapperDecls, List.mem_cons, List.not_mem_nil, or_false] at member
    rcases member with rfl | rfl | rfl <;> rfl

theorem commandTest_undocumented (root : String) (command : Command) :
    commandTest root command.undocumented = commandTest root command := by
  rw [commandTest, commandTest, Command.undocumented_hasArguments, Command.undocumented_hasReply]
  rfl

theorem testChunk_undocumented (root : String) (domain : Domain) :
    testChunk root domain.undocumented = testChunk root domain := by
  rw [testChunk, testChunk, Domain.undocumented_ownCommands]
  simp only [List.map_map, Function.comp_def, commandTest_undocumented, Domain.undocumented]
  rfl

theorem alike_testChunk (root : String) (domain : Domain) :
    (testChunk root domain).Alike (testChunk root domain) := by
  refine .concat (List.forall₂_same.2 fun chunk member => ?_)
  rcases List.mem_append.1 member with member | member
  all_goals
    obtain ⟨_, -, rfl⟩ := List.mem_map.1 member
    exact .ofDecls_self _ (List.forall_mem_singleton.2 rfl)

end Client

section Package

variable {site : Site} {root : String} {before before' : SharedPackage} {domain : Domain}

theorem types_agrees (h : before.Alike before') (named : AllUnbroken domain.givenNames)
    (scope : NameScope) :
    Agrees (Both (Both SharedPackage.Alike Eq) (List.Forall₂ Chunk.Alike))
      (thread site.typeStep (before, scope) domain.types)
      (thread site.typeStep (before', scope) domain.undocumented.types) := by
  refine .thread (fun node member s t related => ?_) ⟨h, rfl⟩
  obtain ⟨identified, inner⟩ :=
    List.forall_mem_cons.1 (named.subset (Domain.type_names_subset member))
  exact Site.typeStep_agrees related identified inner

theorem commands_agrees (named : AllUnbroken domain.givenNames) (scope : NameScope) :
    Agrees (Both Eq (List.Forall₂ Chunk.Alike))
      (thread (site.commandTypes domain) scope domain.commands)
      (thread (site.commandTypes domain.undocumented) scope domain.undocumented.commands) := by
  refine .thread (fun command member s t same => ?_) rfl
  have given := (List.forall_mem_cons.1 (named.subset (Domain.command_names_subset member))).2
  obtain ⟨parameters, returns⟩ := List.forall_mem_append.1 given
  exact same ▸ Site.commandTypes_agrees parameters returns

theorem events_agrees (named : AllUnbroken domain.givenNames) (scope : NameScope) :
    Agrees (Both Eq (List.Forall₂ Chunk.Alike))
      (thread (site.eventTypes domain) scope domain.events)
      (thread (site.eventTypes domain.undocumented) scope domain.undocumented.events) := by
  refine .thread (fun event member s t same => ?_) rfl
  obtain ⟨name, given⟩ :=
    List.forall_mem_cons.1 (named.subset (Domain.event_names_subset member))
  exact same ▸ Site.eventTypes_agrees name given

theorem invocations_agrees (named : AllUnbroken domain.givenNames) (methods : NameScope) :
    Agrees (Both Eq (List.Forall₂ Chunk.Alike))
      (thread (commandMethod root domain) methods domain.ownCommands)
      (thread (commandMethod root domain.undocumented) methods
        domain.undocumented.ownCommands) := by
  rw [Domain.undocumented_ownCommands]
  refine .thread (fun command member s t same => ?_) rfl
  have own := Domain.command_names_subset (List.mem_filter.1 member).1
  exact same ▸ commandMethod_agrees s (named _ (own List.mem_cons_self))
    (named _ Domain.name_mem_givenNames)

theorem streams_agrees (named : AllUnbroken domain.givenNames)
    (scopes : NameScope × NameScope) :
    Agrees (Both Eq (List.Forall₂ Chunk.Alike))
      (thread (eventMethod root domain) scopes domain.events)
      (thread (eventMethod root domain.undocumented) scopes domain.undocumented.events) := by
  refine .thread (fun event member s t same => ?_) rfl
  have own := Domain.event_names_subset member
  exact same ▸ eventMethod_agrees s (named _ (own List.mem_cons_self))
    (named _ Domain.name_mem_givenNames)

/-- What the client of a domain consists of before any of its methods. -/
theorem alike_clientDecls (root : String) (domain : Domain) :
    (Chunk.ofDecls [Imports.rpcc root] (clientDecls root domain)).Alike
      (.ofDecls [Imports.rpcc root] (clientDecls root domain.undocumented)) := by
  refine .ofDecls_self _ fun decl member => ?_
  simp only [clientDecls, List.mem_cons, List.not_mem_nil, or_false] at member
  rcases member with rfl | rfl <;> rfl

theorem packageDoc_alike (owned : Unbroken domain.name) :
    DocAlike (domainDoc domain
        ("Package " ++ domain.package ++ " implements the " ++ domain.name ++ " domain.")).lines
      (domainDoc domain.undocumented
        ("Package " ++ domain.package ++ " implements the " ++ domain.name ++ " domain.")).lines := by
  have lead : Unbroken
      ("Package " ++ domain.package ++ " implements the " ++ domain.name ++ " domain.") := by
    simp only [unbroken_append]
    exact ⟨⟨⟨⟨by decide, owned.package⟩, by decide⟩, owned⟩, by decide⟩
  exact .unbroken (unbroken_domainDoc lead) (unbroken_domainDoc lead)

/-- The package of a domain, between states of the shared package that are alike. -/
theorem domainPackage_agrees {exemptions : Exemptions} (h : before.Alike before')
    (named : AllUnbroken domain.givenNames) :
    Agrees (Both SharedPackage.Alike (List.Forall₂ SourceFile.Alike))
      (domainPackage root exemptions before domain)
      (domainPackage root exemptions before' domain.undocumented) := by
  refine .bind_self fun scope => ?_
  -- Scopes are equal after every stage, so that the next one begins alike.
  refine (types_agrees h named scope).bind fun ⟨⟨_, next⟩, _⟩ ⟨⟨_, _⟩, _⟩ declared => ?_
  obtain ⟨⟨shared, rfl⟩, types⟩ := declared
  refine (commands_agrees named next).bind fun ⟨commanded, _⟩ ⟨_, _⟩ emitted => ?_
  obtain ⟨rfl, commands⟩ := emitted
  refine (events_agrees named commanded).bind fun ⟨evented, _⟩ ⟨_, _⟩ emitted => ?_
  obtain ⟨rfl, events⟩ := emitted
  refine (invocations_agrees named _).bind fun ⟨invoked, _⟩ ⟨_, _⟩ emitted => ?_
  obtain ⟨rfl, invocations⟩ := emitted
  refine (streams_agrees named (evented, invoked)).bind fun ⟨_, _⟩ ⟨_, _⟩ emitted => ?_
  obtain ⟨-, streams⟩ := emitted
  have client := ((alike_clientDecls root domain).append (.concat invocations)).append
    (.concat streams)
  have tests : (testChunk root domain).Alike (testChunk root domain.undocumented) :=
    testChunk_undocumented root domain ▸ alike_testChunk root domain
  refine .ok ⟨shared, .cons ?_ (.cons ?_ (.cons ?_ (.cons ?_ (.cons ?_ .nil))))⟩
  · exact (Chunk.Alike.concat types).file _ _ (.same _)
  · exact (Chunk.Alike.concat commands).file _ _ (.same _)
  · exact (Chunk.Alike.concat events).file _ _ (.same _)
  · exact client.file _ _ (packageDoc_alike (named _ Domain.name_mem_givenNames))
  · exact tests.file _ _ (.same _)

end Package

end Bindings.Emission
