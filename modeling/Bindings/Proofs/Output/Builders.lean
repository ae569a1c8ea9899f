import Bindings.Proofs.Emission.Builders
import Bindings.Proofs.Output.Nullability

/-! The arguments of a command are built completely, and with the types of their fields.

The type of a field depends on the name of its struct, the parameter of a setter does not. They agree
because no type is named like the arguments of a command.
-/

set_option autoImplicit false

namespace Bindings

namespace Go

def Statement.written? (self : String) : Statement → Option String
  | .assign ⟨[.select (.ident target) name], false, _⟩ => if target = self then some name else none
  | _ => none

/-- The fields of a variable that the body of a function assigns, in order. -/
def Function.writes (f : Function) (self : String) : List String :=
  match f.body with
  | .block statements => statements.filterMap (Statement.written? self)
  | .brief _ => []

end Go

open Emission
open Go (Field Function SourceFile TypeExpr)

/-- A constructor for required arguments: a parameter with the type of each field, assigned to that
field. -/
structure Constructs (command : Command) (required : List (TypeNode × Field)) (f : Function) :
    Prop where
  name : f.name = "New" ++ command.arguments
  receiver : f.receiver = none
  params : f.signature.params =
    required.map fun entry => ⟨some (Name.parameter entry.1.wireName), entry.2.type⟩
  results : f.signature.results = [.unnamed (.pointer (.named command.arguments))]
  body : f.body = .block
    (.define "args" (.call (.ident "new") [.ident command.arguments]) ::
      required.map (fun entry =>
        .set (.select (.ident "args") entry.2.name) (.ident (Name.parameter entry.1.wireName)))
      ++ [.leave [.ident "args"]])

/-- A setter for an optional argument. Where the field is a pointer to the type of the parameter, it
assigns the address of the parameter, and where the types are the same, the parameter. -/
structure Sets (command : Command) (node : TypeNode) (field : Field) (f : Function) : Prop where
  name : f.name = "Set" ++ node.fieldIdent
  receiver : f.receiver = some ⟨some "a", .pointer (.named command.arguments)⟩
  typed : ∃ type value,
    f.signature = ⟨[⟨some (Name.parameter node.wireName), type⟩],
      [.unnamed (.pointer (.named command.arguments))]⟩ ∧
    f.body = .block [.set (.select (.ident "a") field.name) value, .leave [.ident "a"]] ∧
    (field.type = .pointer type ∧ value = .address (.ident (Name.parameter node.wireName)) ∨
      field.type = type ∧ value = .ident (Name.parameter node.wireName))

/-- What builds the arguments of a command: a struct with a field for every parameter, a constructor
for the required ones and a setter for each of the others. -/
structure Builds (files : DomainFiles) (command : Command) (fields : List Field)
    (constructor : Function) (setters : List Function) : Prop where
  struct : ∃ doc, files.commands.declaring command.arguments =
    [.type doc command.arguments (.struct fields)]
  named : fields.map (·.name) = command.parameters.map (·.fieldIdent)
  distinct : (fields.map (·.name)).Nodup
  constructed : files.commands.declaring ("New" ++ command.arguments) = [.function constructor]
  constructs : Constructs command ((command.parameters.zip fields).filter (!·.1.optional))
    constructor
  methods : files.list.flatMap (·.methodsOf command.arguments) = setters
  sets : List.Forall₂ (fun entry f => Sets command entry.1 entry.2 f)
    ((command.parameters.zip fields).filter (·.1.optional)) setters
  writes : (constructor.writes "args" ++ setters.flatMap (·.writes "a")).Perm
    (fields.map (·.name))

/-- The parameters of one kind, taken along with their fields. -/
theorem Builds.filter_parameters {files : DomainFiles} {command : Command} {fields : List Field}
    {constructor : Function} {setters : List Function}
    (h : Builds files command fields constructor setters) (p : TypeNode → Bool) :
    ((command.parameters.zip fields).filter (p ·.1)).map (·.1) = command.parameters.filter p := by
  have enough : command.parameters.length = fields.length := by
    simpa using (congrArg List.length h.named).symm
  have firsts : (command.parameters.zip fields).map (·.1) = command.parameters :=
    List.map_fst_zip enough.le
  nth_rewrite 2 [← firsts]
  rw [List.filter_map]
  rfl

namespace Emission

variable {command : Command}

theorem fieldType_eq_of_text_ne {owner : String} {entry : TypeNode × TypeUse}
    (apart : ∀ raw, entry.1.reference = some raw → entry.2.type.text ≠ owner) :
    fieldType entry.1 owner entry.2 =
      if entry.1.optional && !entry.2.nullable then .pointer entry.2.type else entry.2.type := by
  have stranger : (entry.1.reference.isSome && entry.2.type.text == owner) = false := by
    cases refers : entry.1.reference with
    | none => rfl
    | some raw => simpa using apart raw refers
  rw [fieldType, stranger, Bool.false_or]

theorem sets_setterFunction {entry : TypeNode × TypeUse} (optional : entry.1.optional = true)
    (apart : ∀ raw, entry.1.reference = some raw → entry.2.type.text ≠ command.arguments) :
    Sets command entry.1 (fieldOf command.arguments entry) (setterFunction command entry) where
  name := rfl
  receiver := rfl
  typed := by
    have typed : (fieldOf command.arguments entry).type =
        if entry.1.optional && !entry.2.nullable then .pointer entry.2.type else entry.2.type :=
      fieldType_eq_of_text_ne apart
    refine ⟨_, _, rfl, rfl, ?_⟩
    rw [typed, optional]
    cases entry.2.nullable
    · exact .inl ⟨rfl, rfl⟩
    · exact .inr ⟨rfl, rfl⟩

theorem writes_setterFunction (entry : TypeNode × TypeUse) :
    (setterFunction command entry).writes "a" = [entry.1.fieldIdent] := rfl

theorem writes_constructorFunction (required : List (TypeNode × TypeExpr)) :
    (constructorFunction command required).writes "args" = required.map (·.1.fieldIdent) := by
  have assignments : (required.map fun entry =>
      Go.Statement.set (.select (.ident "args") entry.1.fieldIdent)
        (.ident (Name.parameter entry.1.wireName))).filterMap (Go.Statement.written? "args") =
          required.map (·.1.fieldIdent) := by
    rw [List.filterMap_map, ← List.filterMap_eq_map]
    rfl
  have last : [Go.Statement.leave [.ident "args"]].filterMap (Go.Statement.written? "args") = [] :=
    rfl
  rw [Function.writes, constructorFunction]
  dsimp only
  rw [List.cons_append, List.filterMap_cons, List.filterMap_append, assignments, last,
    List.append_nil]
  rfl

/-- Constructor and setters between them write every field once. -/
theorem writes_perm (entries : List (TypeNode × TypeUse)) :
    ((constructorFunction command
        ((entries.filter (!·.1.optional)).map fun entry =>
          (entry.1, fieldType entry.1 command.arguments entry.2))).writes "args" ++
      ((entries.filter (·.1.optional)).map (setterFunction command)).flatMap (·.writes "a")).Perm
      (entries.map (·.1.fieldIdent)) := by
  have written : ((entries.filter (·.1.optional)).map (setterFunction command)).flatMap
      (·.writes "a") = (entries.filter (·.1.optional)).map (·.1.fieldIdent) := by
    rw [List.flatMap_map, List.map_eq_flatMap]
    exact List.flatMap_congr fun entry _ => writes_setterFunction entry
  rw [writes_constructorFunction, written, List.map_map]
  have parted := (List.filter_append_perm (fun entry => !entry.1.optional) entries).map
    fun entry : TypeNode × TypeUse => entry.1.fieldIdent
  simpa [Function.comp_def] using parted

theorem constructs_constructorFunction (entries : List (TypeNode × TypeUse)) :
    Constructs command (entries.map fun entry => (entry.1, fieldOf command.arguments entry))
      (constructorFunction command
        (entries.map fun entry => (entry.1, fieldType entry.1 command.arguments entry.2))) where
  name := rfl
  receiver := rfl
  params := by
    simp only [constructorFunction, List.map_map]
    rfl
  results := rfl
  body := by
    simp only [constructorFunction, List.map_map]
    rfl

end Emission

namespace Bundle.Generated

variable {bundle : Bundle} {protocol : Protocol} {root : String} {graph : ImportGraph}
  {exemptions : Exemptions} {shared : SharedPackage} {files : List SourceFile} {domain : Domain}
  {package : DomainFiles} {command : Command}

/-- No parameter of a command has a type that is spelled like its arguments. -/
theorem text_ne_arguments (h : bundle.Generated protocol root graph exemptions shared)
    (arranges : bundle.Arranges protocol files) (ofProtocol : domain ∈ protocol.domains)
    (member : command ∈ domain.commands) {run : PackageRun} {before after : SharedPackage}
    (succeeds : run.Succeeds root exemptions before after domain)
    (declared : command.arguments ∈ (Chunk.concat run.commands).names) {node : TypeNode}
    {use : TypeUse} (parameter : node ∈ command.parameters)
    (used : (domainSite root exemptions domain).use node = .ok use) {raw : String}
    (refers : node.reference = some raw) : use.type.text ≠ command.arguments := by
  intro same
  have referred : raw ∈ domain.references := Domain.mem_references.2
    ⟨node, Domain.mem_nodes_parameter member parameter, TypeNode.mem_references_self refers⟩
  have link : bundle.Links root domain raw use.type :=
    h.links arranges ofProtocol referred (Site.referenceUse_of_use used refers)
  exact (stands_message succeeds (List.mem_append_left _ declared) raw _ link).1 same

theorem builds (h : bundle.Generated protocol root graph exemptions shared)
    (arranges : bundle.Arranges protocol files) (found : (domain, package) ∈ bundle.packages)
    (member : command ∈ domain.commands) (has : command.hasArguments = true) :
    ∃ fields constructor setters, Builds package command fields constructor setters := by
  have ofProtocol : domain ∈ protocol.domains := arranges.mem_domains found
  obtain ⟨run, before, after, succeeds, rfl, -⟩ := h.run_of_package found
  obtain ⟨doc, entries, ofParameters, items, methods⟩ := succeeds.built member has
  have listed : (run.files root domain).commands ∈ (run.files root domain).list :=
    List.mem_cons_of_mem _ List.mem_cons_self
  have struct := items List.mem_cons_self
  have constructor := items (List.mem_cons_of_mem _ List.mem_cons_self)
  have declared : command.arguments ∈ (run.files root domain).commands.names :=
    List.mem_flatMap.2 ⟨_, struct, List.mem_cons_self⟩
  have zipped : command.parameters.zip (entries.map (fieldOf command.arguments)) =
      entries.map fun entry => (entry.1, fieldOf command.arguments entry) := by
    rw [← ofParameters.nodes, List.zip_map']
  have names : (entries.map (fieldOf command.arguments)).map (·.name) =
      entries.map (·.1.fieldIdent) := by
    rw [List.map_map]
    rfl
  refine ⟨entries.map (fieldOf command.arguments), _, _,
    ⟨[doc], succeeds.declaring_files listed struct List.mem_cons_self⟩, ?_, ?_,
    succeeds.declaring_files listed constructor List.mem_cons_self, ?_, methods, ?_, ?_⟩
  · rw [names, ← ofParameters.nodes, List.map_map]
    rfl
  · exact succeeds.structs_files listed (List.mem_flatMap.2 ⟨_, struct, List.mem_cons_self⟩)
  · rw [zipped, List.filter_map]
    exact constructs_constructorFunction _
  · rw [zipped, List.filter_map, List.forall₂_map_left_iff, List.forall₂_map_right_iff]
    refine List.forall₂_same.2 fun entry inside => ?_
    obtain ⟨inside, optional⟩ := List.mem_filter.1 inside
    have parameter : entry.1 ∈ command.parameters :=
      ofParameters.nodes ▸ List.mem_map_of_mem inside
    exact sets_setterFunction optional fun raw refers =>
      h.text_ne_arguments arranges ofProtocol member succeeds declared parameter
        (ofParameters.uses entry inside) refers
  · rw [names]
    exact writes_perm entries

end Bundle.Generated

/-- The arguments of every command with parameters are built: each field is of one parameter, and is
written by the constructor or by one setter, with a value of its type. -/
theorem arguments_built {protocol : Protocol} {root : String} {files : List SourceFile}
    (h : generate protocol root = .ok files) :
    ∃ bundle : Bundle, bundle.Arranges protocol files ∧
      ∀ entry ∈ bundle.packages, ∀ command ∈ entry.1.commands, command.parameters ≠ [] →
        ∃ fields constructor setters, Builds entry.2 command fields constructor setters := by
  obtain ⟨bundle, graph, exemptions, shared, arranges, generated⟩ := generate_eq_ok h
  refine ⟨bundle, arranges, fun entry found command member some_ => ?_⟩
  obtain ⟨node, parameter⟩ := List.exists_mem_of_ne_nil _ some_
  exact generated.builds arranges found member (Site.hasArguments_of_mem parameter)

theorem arguments_built_sampleProtocol :
    ∃ files, generate sampleProtocol "r" = .ok files ∧
      ∃ bundle : Bundle, bundle.Arranges sampleProtocol files ∧
        ∀ entry ∈ bundle.packages, ∀ command ∈ entry.1.commands, command.parameters ≠ [] →
          ∃ fields constructor setters, Builds entry.2 command fields constructor setters := by
  obtain ⟨files, generates⟩ := sampleProtocol_generates
  exact ⟨files, generates, arguments_built generates⟩

end Bindings
