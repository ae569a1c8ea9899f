import Bindings.Proofs.Emission.Packages
import Bindings.Proofs.Go.Foreign

/-! The imports recorded for declarations are those that the declarations use.

Imports are recorded along with the types and bodies that need them, never read off these. For every
step of emission both are found to be the same paths, and what holds of parts holds of a file.
-/

set_option autoImplicit false

namespace Bindings.Emission

open Go (Decl Expr Package QualifiedIdent SourceFile Statement TypeExpr)

def Chunk.foreign (chunk : Chunk) : List QualifiedIdent := chunk.items.flatMap (·.decl.foreign)

/-- A chunk whose imports are those that it uses; and it holds no fixed text, so all of its uses can
be read off its declarations. -/
structure Chunk.Exact (chunk : Chunk) : Prop where
  imports : ∀ path, path ∈ chunk.imports ↔ path ∈ chunk.foreign.map (·.path)
  explicit : ∀ item ∈ chunk.items, item.decl.isFixed = false

namespace Chunk

variable {first second chunk : Chunk}

@[simp] theorem foreign_append (first second : Chunk) :
    (first ++ second).foreign = first.foreign ++ second.foreign := by
  simp [foreign]

theorem foreign_ofDecls (packages : List Package) (decls : List Decl) :
    (ofDecls packages decls).foreign = decls.flatMap Decl.foreign := by
  simp [foreign, items_ofDecls, List.flatMap_map]

theorem foreign_singleton (imports : List String) (item : Go.Item) :
    foreign ⟨imports, [item]⟩ = item.decl.foreign := List.append_nil _

namespace Exact

theorem empty : Exact {} where
  imports _ := Iff.rfl
  explicit _ member := nomatch member

theorem append (before : first.Exact) (after : second.Exact) : (first ++ second).Exact where
  imports path := by
    rw [imports_append, foreign_append, List.map_append, List.mem_append, List.mem_append,
      before.imports, after.imports]
  explicit item member :=
    (List.mem_append.1 member).elim (before.explicit item) (after.explicit item)

theorem concat {chunks : List Chunk} (each : ∀ chunk ∈ chunks, chunk.Exact) :
    (concat chunks).Exact := by
  induction chunks with
  | nil => exact empty
  | cons chunk chunks ih =>
    exact (each chunk List.mem_cons_self).append
      (ih fun other member => each other (List.mem_cons_of_mem chunk member))

/-- One declaration, whose uses were recorded in order. -/
theorem singleton {imports : List String} {decl : Decl} (fixed : decl.isFixed = false)
    (recorded : imports = decl.foreign.map (·.path)) : Exact ⟨imports, [⟨decl, true⟩]⟩ where
  imports path := by
    rw [foreign_singleton, recorded]
  explicit item member := by
    rw [List.mem_singleton.1 member]
    exact fixed

/-- Declarations that use some packages, each of them at least once. -/
theorem ofDecls {packages : List Package} {decls : List Decl}
    (fixed : ∀ decl ∈ decls, decl.isFixed = false)
    (used : ∀ package, package ∈ packages ↔
      package ∈ (decls.flatMap Decl.foreign).map (·.package)) : (ofDecls packages decls).Exact where
  imports path := by
    rw [mem_imports_ofDecls, foreign_ofDecls]
    simp only [used, List.mem_map]
    exact ⟨fun ⟨_, ⟨ident, found, rfl⟩, same⟩ => ⟨ident, found, same⟩,
      fun ⟨ident, found, same⟩ => ⟨_, ⟨ident, found, rfl⟩, same⟩⟩
  explicit item member := by
    obtain ⟨decl, found, rfl⟩ := List.mem_map.1 member
    exact fixed decl found

/-- The code of a file has a place for every identifier that its declarations use. -/
theorem file (exact : chunk.Exact) (path package : String) (doc : List String) :
    (chunk.file path package doc).Exact where
  imports used := by
    rw [mem_imports_file, exact.imports, List.mem_map]
    refine ⟨fun ⟨ident, found, same⟩ => ⟨ident, found, same, ?_⟩,
      fun ⟨ident, found, same, _⟩ => ⟨ident, found, same⟩⟩
    exact (chunk.file path package doc).piece_mem_print found
  explicit := exact.explicit

end Exact

end Chunk

namespace Site

variable {site : Site} {node : TypeNode} {ident : String} {doc : Go.Doc}
  {scope next : Go.NameScope} {chunk : Chunk}

theorem foreign_fieldType (node : TypeNode) (owner : String) (use : TypeUse) :
    (fieldType node owner use).foreign = use.type.foreign := by
  rw [fieldType]
  split
  · rw [TypeExpr.foreign]
  · rfl

/-- The imports of a type are recorded one for each identifier of another package in it. -/
theorem imports_of_use :
    (∀ {node use}, site.use node = .ok use → use.imports = use.type.foreign.map (·.path)) ∧
    ∀ {owner scope nodes uses}, site.fieldUses owner scope nodes = .ok uses →
      uses.imports = (TypeExpr.struct uses.fields).foreign.map (·.path) := by
  apply use_induction
    (U := fun _ use => use.imports = use.type.foreign.map (·.path))
    (F := fun _ _ _ uses => uses.imports = (TypeExpr.struct uses.fields).foreign.map (·.path))
  case reference =>
    intro node raw use _ used
    obtain ⟨-, reference, -, rfl⟩ := referenceUse_eq_ok used
    -- The scope of a reference decides on both, on its import and on what stands before its name.
    dsimp only
    rw [Reference.imports, Reference.type]
    cases reference.scope <;> rfl
  case sequence => exact fun _ _ ih => ih
  case record => exact fun _ ih => ih
  case plain =>
    intro node shape use _ found
    cases shape <;> cases found <;> rfl
  case nil => exact rfl
  case cons =>
    intro owner scope next node nodes use rest _ ofNode ofNodes
    rw [TypeExpr.foreign] at ofNodes ⊢
    rw [Go.Field.listForeign, foreign_fieldType, List.map_append, ofNode, ofNodes]

theorem exact_structChunk {nodes : List TypeNode} {owner text : String} {uses : FieldUses}
    (fields : site.structFields nodes owner = .ok uses) : (structChunk ident text uses).Exact :=
  .singleton rfl (imports_of_use.2 fields)

end Site

theorem foreign_method (doc : List String) (self : String) (receiver : TypeExpr) (name : String)
    (params results : List Go.Param) (body : List Statement) :
    (method doc self receiver name params results body).foreign =
      receiver.foreign ++ (Go.Param.listForeign params ++ Go.Param.listForeign results) ++
        Statement.listForeign body := by
  simp [method, Go.Function.foreign, Go.Signature.foreign, Go.Body.foreign]

section Definitions

variable (doc : List String) (ident : String) (literals : List String) (unit : TimeUnit)

theorem foreign_enumDecls :
    (enumDecls doc ident literals).flatMap Decl.foreign =
      [⟨Imports.json, "Marshal"⟩, ⟨Imports.json, "Unmarshal"⟩, ⟨Imports.fmt, "Errorf"⟩] := by
  have texts : Expr.listForeign (literals.map Expr.text) = [] := by
    simp [Expr.listForeign_eq_flatMap, List.flatMap_map]
  simp [enumDecls, enumValid, enumString, enumMarshal, enumUnmarshal, foreign_method, texts,
    marshalResults, errorResult, dataParam, dataIsNull, nullLiteral, returnNull, unmarshalInto]

theorem foreign_timestampDecls :
    (timestampDecls doc ident unit).flatMap Decl.foreign =
      [⟨Imports.time, "Time"⟩, ⟨Imports.time, "Unix"⟩, ⟨Imports.json, "Marshal"⟩,
        ⟨Imports.json, "Unmarshal"⟩, ⟨Imports.fmt, "Errorf"⟩] := by
  cases unit <;>
    simp [timestampDecls, foreign_method, TimeUnit.inSeconds, toFloat, marshalResults, errorResult,
      dataParam, dataIsNull, nullLiteral, returnNull, unmarshalInto]

theorem foreign_rawDecls :
    (rawDecls doc ident).flatMap Decl.foreign = [⟨Imports.errors, "New"⟩] := by
  simp [rawDecls, foreign_method, marshalResults, errorResult, dataParam, nullLiteral, returnNull]

theorem exact_enumDecls :
    (Chunk.ofDecls [Imports.json, Imports.fmt] (enumDecls doc ident literals)).Exact := by
  refine .ofDecls (by simp [enumDecls, enumValid, enumString, enumMarshal, enumUnmarshal, method,
    Decl.isFixed]) fun package => ?_
  simp [foreign_enumDecls]

theorem exact_timestampDecls :
    (Chunk.ofDecls [Imports.json, Imports.fmt, Imports.time]
      (timestampDecls doc ident unit)).Exact := by
  refine .ofDecls (by simp [timestampDecls, method, Decl.isFixed]) fun package => ?_
  rw [foreign_timestampDecls]
  grind

theorem exact_rawDecls :
    (Chunk.ofDecls [Imports.errors] (rawDecls doc ident)).Exact := by
  refine .ofDecls (by simp [rawDecls, method, Decl.isFixed]) fun package => ?_
  simp [foreign_rawDecls]

end Definitions

namespace Site

variable {site : Site} {domain : Domain} {command : Command} {event : Event} {node : TypeNode}
  {ident : String} {doc : Go.Doc} {scope next : Go.NameScope} {chunk : Chunk}

theorem Defines.exact (h : site.Defines node ident doc scope next chunk) : chunk.Exact := by
  cases h with
  | enumeration => exact exact_enumDecls _ _ _
  | timestamp => exact exact_timestampDecls _ _ _
  | raw => exact exact_rawDecls _ _
  | record _ fields => exact .singleton rfl (imports_of_use.2 fields)
  | plain used => exact .singleton rfl (imports_of_use.1 used)

theorem exact_of_declared (h : site.declared scope node = .ok (next, chunk)) : chunk.Exact := by
  obtain ⟨accepted, -, ⟨shared, -, -, rfl⟩ | ⟨-, defines⟩⟩ := declared_eq_ok h
  · exact .singleton rfl rfl
  · exact defines.exact

theorem exact_structDecl {text : String} {nodes : List TypeNode}
    (h : site.structDecl scope ident text nodes = .ok (next, chunk)) : chunk.Exact := by
  obtain ⟨uses, -, fields, rfl⟩ := structDecl_eq_ok h
  exact exact_structChunk fields

theorem foreign_constructorDecl (command : Command) (required : List (TypeNode × TypeExpr)) :
    (constructorDecl command required).foreign = required.flatMap (·.2.foreign) := by
  have assignments : Statement.listForeign (required.map fun entry =>
      .set (.select (.ident "args") entry.1.fieldIdent)
        (.ident (Name.parameter entry.1.wireName))) = [] := by
    simp [Statement.listForeign_eq_flatMap, List.flatMap_map]
  simp [constructorDecl, Go.Function.foreign, Go.Signature.foreign, Go.Body.foreign, assignments,
    List.flatMap_map]

theorem exact_constructorChunk {nodes : List TypeNode}
    {required : List (TypeNode × TypeExpr × List String)}
    (typed : List.Forall₂ (fun node entry => site.requiredParam command.arguments node = .ok entry)
      nodes required) : (constructorChunk command required).Exact := by
  refine .singleton rfl ?_
  rw [foreign_constructorDecl, List.flatMap_map, List.map_flatMap]
  refine List.flatMap_congr fun entry member => ?_
  obtain ⟨node, -, mapped⟩ := exists_of_mem_right typed member
  obtain ⟨use, used, rfl⟩ := requiredParam_eq_ok mapped
  rw [foreign_fieldType]
  exact imports_of_use.1 used

theorem foreign_setterDecl (command : Command) (node : TypeNode) (use : TypeUse) :
    (setterDecl command node use).foreign = use.type.foreign := by
  rw [setterDecl, foreign_method]
  cases use.nullable <;> simp

theorem exact_of_setter (h : site.setter command scope node = .ok (next, chunk)) :
    chunk.Exact := by
  obtain ⟨use, -, used, rfl⟩ := setter_eq_ok h
  refine .singleton rfl ?_
  rw [foreign_setterDecl]
  exact imports_of_use.1 used

theorem exact_of_arguments (h : site.arguments domain command scope = .ok (next, chunk)) :
    chunk.Exact := by
  obtain ⟨middle, struct, required, methods, setters, emitted, -, typed, set, rfl⟩ :=
    arguments_eq_ok h
  refine ((exact_structDecl emitted).append (exact_constructorChunk typed)).append (.concat ?_)
  intro setter member
  obtain ⟨before, node, after, -, step⟩ := thread_mem set member
  exact exact_of_setter step

theorem exact_of_optionally {emit : Go.NameScope → Except Error (Go.NameScope × Chunk)}
    {has : Bool} (each : ∀ {chunk}, emit scope = .ok (next, chunk) → chunk.Exact)
    (h : Optionally emit scope has next chunk) : chunk.Exact := by
  cases h with
  | present _ emitted => exact each emitted
  | absent => exact .empty

theorem exact_of_commandTypes (h : site.commandTypes domain scope command = .ok (next, chunk)) :
    chunk.Exact := by
  obtain ⟨middle, arguments, reply, first, second, rfl⟩ := commandTypes_eq_ok h
  exact (exact_of_optionally exact_of_arguments first).append
    (exact_of_optionally exact_structDecl second)

theorem exact_of_eventTypes (h : site.eventTypes domain scope event = .ok (next, chunk)) :
    chunk.Exact := by
  obtain ⟨uses, -, fields, rfl⟩ := eventTypes_eq_ok h
  have stream : (Chunk.ofDecls [Imports.rpcc site.root] [streamDecl site.root event]).Exact :=
    .singleton rfl rfl
  exact stream.append (exact_structChunk fields)

end Site

section Client

variable {root : String} {domain : Domain}

theorem foreign_opError (root domain operation : String) :
    (opError root domain operation).foreign = [⟨Imports.internal root, "OpError"⟩] := by
  simp [opError]

theorem exact_clientDecls :
    (Chunk.ofDecls [Imports.rpcc root] (clientDecls root domain)).Exact := by
  refine .ofDecls (by simp [clientDecls, Decl.isFixed]) fun package => ?_
  simp [clientDecls, Go.Function.foreign, Go.Signature.foreign, Go.Body.foreign, clientType]

theorem foreign_subscribeDecls (event : Event) :
    (subscribeDecl root domain event :: wrapperDecls root domain event).flatMap Decl.foreign =
      [⟨Imports.context, "Context"⟩, ⟨Imports.rpcc root, "NewStream"⟩,
        ⟨Imports.internal root, "OpError"⟩, ⟨Imports.rpcc root, "Stream"⟩,
        ⟨Imports.rpcc root, "Stream"⟩, ⟨Imports.internal root, "OpError"⟩] := by
  simp [Go.Function.foreign, subscribeDecl, wrapperDecls, foreign_method, clientType,
    Go.Signature.foreign, subscribeSignature, Go.Body.foreign, stream, replyResults,
    foreign_opError]

theorem exact_subscribeChunk (event : Event) : (subscribeChunk root domain event).Exact := by
  refine .ofDecls (by simp [subscribeDecl, wrapperDecls, method, Decl.isFixed]) fun package => ?_
  rw [foreign_subscribeDecls]
  grind

/-- A method uses the context in its signature, and the transport and the error type in its body. -/
theorem exact_invokeChunk (command : Command) : (invokeChunk root domain command).Exact := by
  refine .ofDecls (by simp [Decl.isFixed]) fun package => ?_
  cases arguments : command.hasArguments <;> cases reply : command.hasReply <;>
    simp [Go.Function.foreign, invokeFunction, clientType, Go.Signature.foreign, invokeSignature,
      Go.Body.foreign, invokeBody, invocation, foreign_opError, arguments, reply]

theorem exact_clientChunk : (clientChunk root domain).Exact := by
  refine (exact_clientDecls.append (.concat ?_)).append (.concat ?_)
  · intro chunk member
    obtain ⟨command, -, rfl⟩ := List.mem_map.1 member
    exact exact_invokeChunk command
  · intro chunk member
    obtain ⟨event, -, rfl⟩ := List.mem_map.1 member
    exact exact_subscribeChunk event

theorem foreign_testDecl (root method : String) (steps : List Statement) :
    (testDecl root method steps).foreign =
      [⟨Imports.testing, "T"⟩, ⟨Imports.testutil root, "NewTransport"⟩] ++
        Statement.listForeign steps := by
  simp [testDecl, Go.Function.foreign, Go.Signature.foreign, Go.Body.foreign]

/-- The test of a command builds a client for each case that it tries. -/
theorem exact_commandTest (command : Command) :
    (Chunk.ofDecls (Imports.rpcc root :: testImports root) [commandTest root command]).Exact := by
  have uses : ([commandTest root command].flatMap Decl.foreign).map (·.package) =
      [Imports.testing, Imports.testutil root, Imports.context] ++
        (if command.hasArguments then [Imports.context] else []) ++
          [Imports.rpcc root, Imports.context, Imports.strings] := by
    cases arguments : command.hasArguments <;> cases reply : command.hasReply <;>
      simp [commandTest, foreign_testDecl, background, failsOn, report, expectError, lacks,
        arguments, reply]
  refine .ofDecls (by simp [commandTest, testDecl, Decl.isFixed]) fun package => ?_
  rw [uses, testImports]
  grind

theorem foreign_eventTest (name : String) (event : Event) :
    (eventTest root name event).foreign =
      [⟨Imports.testing, "T"⟩, ⟨Imports.testutil root, "NewTransport"⟩,
        ⟨Imports.context, "Background"⟩, ⟨Imports.strings, "Contains"⟩,
        ⟨Imports.context, "Background"⟩] := by
  simp [eventTest, foreign_testDecl, background, failsOn, report, expectError, lacks]

theorem exact_eventTest (event : Event) :
    (Chunk.ofDecls (testImports root) [eventTest root domain.name event]).Exact := by
  refine .ofDecls (by simp [eventTest, testDecl, Decl.isFixed]) fun package => ?_
  rw [List.flatMap_singleton, foreign_eventTest, testImports]
  grind

theorem exact_testChunk : (testChunk root domain).Exact := by
  refine .concat fun chunk member => ?_
  rcases List.mem_append.1 member with member | member
  · obtain ⟨command, -, rfl⟩ := List.mem_map.1 member
    exact exact_commandTest command
  · obtain ⟨event, -, rfl⟩ := List.mem_map.1 member
    exact exact_eventTest event

end Client

namespace PackageRun.Succeeds

variable {run : PackageRun} {root : String} {exemptions : Exemptions} {before after : SharedPackage}
  {domain : Domain}

/-- Every file of a domain package imports what it uses. -/
theorem exact_files (h : run.Succeeds root exemptions before after domain) {file : SourceFile}
    (listed : file ∈ (run.files root domain).list) : file.Exact := by
  have types : (Chunk.concat run.types).Exact := by
    refine .concat fun chunk member => ?_
    obtain ⟨s, node, t, -, step⟩ := thread_mem h.types member
    exact Site.exact_of_declared (Site.typeStep_eq_ok step).1
  have commands : (Chunk.concat run.commands).Exact := by
    refine .concat fun chunk member => ?_
    obtain ⟨s, command, t, -, step⟩ := thread_mem h.commands member
    exact Site.exact_of_commandTypes step
  have events : (Chunk.concat run.events).Exact := by
    refine .concat fun chunk member => ?_
    obtain ⟨s, event, t, -, step⟩ := thread_mem h.events member
    exact Site.exact_of_eventTypes step
  simp only [DomainFiles.list, List.mem_cons, List.not_mem_nil, or_false] at listed
  rcases listed with rfl | rfl | rfl | rfl | rfl
  · exact types.file _ _ _
  · exact commands.file _ _ _
  · exact events.file _ _ _
  · exact exact_clientChunk.file _ _ (packageDoc domain)
  · exact exact_testChunk.file _ _ _

/-- What a domain adds to the shared package keeps the imports of that exact. -/
theorem exact_shared (h : run.Succeeds root exemptions before after domain)
    (exact : before.chunk.Exact) : after.chunk.Exact := by
  refine thread_invariant (I := fun s : SharedPackage × Go.NameScope => s.1.chunk.Exact) ?_ h.types
    exact
  intro s node t chunk _ step exact
  -- A type of the table adds its definition to the shared package, any other type nothing.
  rcases Site.share_eq_ok (Site.typeStep_eq_ok step).2 with
    ⟨-, same⟩ | ⟨ident, accepted, next, added, -, -, defines, same⟩
  · rw [same]
    exact exact
  · rw [same]
    exact exact.append defines.exact

end PackageRun.Succeeds

end Bindings.Emission
