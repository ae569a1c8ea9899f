import Bindings.Proofs.Protocol.Nodes
import Bindings.Resolution.Exemptions
import Mathlib.Data.List.Forall2

/-! Protocols without their documentation.

What is left says what the bindings do. Of a description it keeps whether it states that a value is
encoded, since this decides on the type of the value.
-/

set_option autoImplicit false

namespace Bindings

def encodingOnly (description : Option String) : Option String :=
  if description.any Text.statesBase64 then some "base64-encoded" else none

mutual
def TypeNode.undocumented : TypeNode → TypeNode
  | ⟨id, name, kind, reference, items, properties, literals, optional, _, _, description⟩ =>
    ⟨id, name, kind, reference, TypeNode.itemUndocumented items,
      TypeNode.listUndocumented properties, literals, optional, false, false,
      encodingOnly description⟩

def TypeNode.itemUndocumented : Option TypeNode → Option TypeNode
  | none => none
  | some node => some node.undocumented

def TypeNode.listUndocumented : List TypeNode → List TypeNode
  | [] => []
  | node :: nodes => node.undocumented :: TypeNode.listUndocumented nodes
end

def Command.undocumented (command : Command) : Command where
  name := command.name
  parameters := command.parameters.map TypeNode.undocumented
  returns := command.returns.map TypeNode.undocumented
  redirect := command.redirect

def Event.undocumented (event : Event) : Event where
  name := event.name
  parameters := event.parameters.map TypeNode.undocumented

def Domain.undocumented (domain : Domain) : Domain where
  name := domain.name
  types := domain.types.map TypeNode.undocumented
  commands := domain.commands.map Command.undocumented
  events := domain.events.map Event.undocumented

/-- A protocol without descriptions, without notes on experimental and deprecated parts, and without
the dependencies of domains. -/
def Protocol.undocumented (protocol : Protocol) : Protocol where
  version := protocol.version
  domains := protocol.domains.map Domain.undocumented

mutual
def TypeNode.innerNames : TypeNode → List String
  | ⟨_, _, _, _, items, properties, _, _, _, _, _⟩ =>
    TypeNode.itemNames items ++ TypeNode.listNames properties

def TypeNode.itemNames : Option TypeNode → List String
  | none => []
  | some node => node.innerNames

def TypeNode.listNames : List TypeNode → List String
  | [] => []
  | node :: nodes => node.name.getD "" :: (node.innerNames ++ TypeNode.listNames nodes)
end

/-- The names that a domain gives: its own, and those of types, commands, events, properties and
parameters. -/
def Domain.givenNames (domain : Domain) : List String :=
  domain.name ::
    (domain.types.flatMap (fun type => type.id.getD "" :: type.innerNames)
      ++ domain.commands.flatMap (fun command => command.name ::
          (TypeNode.listNames command.parameters ++ TypeNode.listNames command.returns))
      ++ domain.events.flatMap fun event => event.name :: TypeNode.listNames event.parameters)

def Protocol.givenNames (protocol : Protocol) : List String :=
  protocol.domains.flatMap (·.givenNames)

theorem any_encodingOnly (description : Option String) :
    (encodingOnly description).any Text.statesBase64 = description.any Text.statesBase64 := by
  rw [encodingOnly]
  split
  · next states =>
    rw [states]
    decide
  · next silent => exact (eq_false_of_ne_true silent).symm

theorem encodingOnly_eq_iff {first second : Option String} :
    encodingOnly first = encodingOnly second ↔
      first.any Text.statesBase64 = second.any Text.statesBase64 := by
  constructor
  · intro same
    rw [← any_encodingOnly first, same, any_encodingOnly]
  · intro same
    rw [encodingOnly, encodingOnly, same]

namespace TypeNode

theorem listUndocumented_eq_map (nodes : List TypeNode) :
    listUndocumented nodes = nodes.map undocumented := by
  induction nodes with
  | nil => rfl
  | cons node nodes ih => rw [listUndocumented, ih, List.map_cons]

section Fields

variable (node : TypeNode)

@[simp] theorem undocumented_id : node.undocumented.id = node.id := by
  cases node; rw [undocumented]

@[simp] theorem undocumented_name : node.undocumented.name = node.name := by
  cases node; rw [undocumented]

@[simp] theorem undocumented_kind : node.undocumented.kind = node.kind := by
  cases node; rw [undocumented]

@[simp] theorem undocumented_reference : node.undocumented.reference = node.reference := by
  cases node; rw [undocumented]

@[simp] theorem undocumented_items : node.undocumented.items = node.items.map undocumented := by
  obtain ⟨_, _, _, _, items, _, _, _, _, _, _⟩ := node
  rw [undocumented]
  cases items <;> rfl

@[simp] theorem undocumented_properties :
    node.undocumented.properties = node.properties.map undocumented := by
  cases node; rw [undocumented, listUndocumented_eq_map]

@[simp] theorem undocumented_literals : node.undocumented.literals = node.literals := by
  cases node; rw [undocumented]

@[simp] theorem undocumented_optional : node.undocumented.optional = node.optional := by
  cases node; rw [undocumented]

@[simp] theorem undocumented_description :
    node.undocumented.description = encodingOnly node.description := by
  cases node; rw [undocumented]

@[simp] theorem undocumented_label : node.undocumented.label = node.label := by
  simp [label]

@[simp] theorem undocumented_ident (domain : String) :
    node.undocumented.ident domain = node.ident domain := by
  simp [ident]

@[simp] theorem undocumented_fieldIdent : node.undocumented.fieldIdent = node.fieldIdent := by
  simp [fieldIdent]

@[simp] theorem undocumented_wireName : node.undocumented.wireName = node.wireName := by
  simp [wireName]

@[simp] theorem undocumented_shape (domain : String) :
    node.undocumented.shape domain = node.shape domain := by
  have plain (kind : Kind) : node.undocumented.plainShape kind = node.plainShape kind := by
    cases kind with
    | string => rw [plainShape, plainShape, undocumented_description, any_encodingOnly]
    | object =>
      rw [plainShape, plainShape, undocumented_properties, List.isEmpty_map, isDeclared, isDeclared,
        undocumented_id]
    | _ => rfl
  simp [shape, isTimestamp, plain]

end Fields

theorem itemReferences_undocumented {items : Option TypeNode}
    (each : ∀ item, items = some item → item.undocumented.references = item.references) :
    itemReferences (items.map undocumented) = itemReferences items := by
  cases items with
  | none => rfl
  | some item => exact each item rfl

theorem listReferences_undocumented {nodes : List TypeNode}
    (each : ∀ node ∈ nodes, node.undocumented.references = node.references) :
    listReferences (nodes.map undocumented) = listReferences nodes := by
  rw [listReferences_eq_flatMap, listReferences_eq_flatMap, List.flatMap_map]
  exact List.flatMap_congr each

@[simp] theorem undocumented_references (node : TypeNode) :
    node.undocumented.references = node.references := by
  induction node using induction with
  | inherits node ofItem ofProperty =>
    rw [references_eq, references_eq, undocumented_reference, undocumented_items,
      undocumented_properties, itemReferences_undocumented ofItem,
      listReferences_undocumented ofProperty]

theorem innerNames_eq (node : TypeNode) :
    node.innerNames = itemNames node.items ++ listNames node.properties := by
  cases node; rw [innerNames]

theorem listNames_eq_flatMap (nodes : List TypeNode) :
    listNames nodes = nodes.flatMap fun node => node.name.getD "" :: node.innerNames := by
  induction nodes with
  | nil => rfl
  | cons node nodes ih => rw [listNames, ih, List.flatMap_cons, List.cons_append]

@[simp] theorem undocumented_innerNames (node : TypeNode) :
    node.undocumented.innerNames = node.innerNames := by
  induction node using induction with
  | inherits node ofItem ofProperty =>
    have items : itemNames (node.items.map undocumented) = itemNames node.items := by
      cases found : node.items with
      | none => rfl
      | some item => exact ofItem item found
    rw [innerNames_eq, innerNames_eq, undocumented_items, undocumented_properties, items,
      listNames_eq_flatMap, listNames_eq_flatMap, List.flatMap_map]
    refine congrArg _ (List.flatMap_congr fun property member => ?_)
    rw [undocumented_name, ofProperty property member]

theorem listNames_properties (node : TypeNode) : listNames node.properties ⊆ node.innerNames := by
  rw [innerNames_eq]
  exact List.subset_append_right _ _

theorem names_subset_listNames {node : TypeNode} {nodes : List TypeNode} (member : node ∈ nodes) :
    node.name.getD "" :: node.innerNames ⊆ listNames nodes := by
  rw [listNames_eq_flatMap]
  exact fun name inside => List.mem_flatMap.2 ⟨node, member, inside⟩

theorem listNames_undocumented (nodes : List TypeNode) :
    listNames (nodes.map undocumented) = listNames nodes := by
  simp [listNames_eq_flatMap, List.flatMap_map]

end TypeNode

theorem Command.undocumented_hasArguments (command : Command) :
    command.undocumented.hasArguments = command.hasArguments := by
  rw [hasArguments, hasArguments, undocumented, List.isEmpty_map]

theorem Command.undocumented_hasReply (command : Command) :
    command.undocumented.hasReply = command.hasReply := by
  rw [hasReply, hasReply, undocumented, List.isEmpty_map]

namespace Domain

theorem undocumented_ownCommands (domain : Domain) :
    domain.undocumented.ownCommands = domain.ownCommands.map Command.undocumented := by
  rw [ownCommands, undocumented, List.filter_map]
  rfl

theorem undocumented_nodes (domain : Domain) :
    domain.undocumented.nodes = domain.nodes.map TypeNode.undocumented := by
  simp [nodes, undocumented, Command.undocumented, Event.undocumented, List.map_flatMap,
    List.flatMap_map]

theorem undocumented_references (domain : Domain) :
    domain.undocumented.references = domain.references := by
  rw [references, references, undocumented_nodes]
  exact TypeNode.listReferences_undocumented fun node _ => node.undocumented_references

theorem undocumented_givenNames (domain : Domain) :
    domain.undocumented.givenNames = domain.givenNames := by
  simp [givenNames, undocumented, Command.undocumented, Event.undocumented, List.flatMap_map,
    TypeNode.listNames_undocumented]

section Names

variable {domain : Domain}

theorem name_mem_givenNames : domain.name ∈ domain.givenNames := List.mem_cons_self

theorem type_names_subset {node : TypeNode} (member : node ∈ domain.types) :
    node.id.getD "" :: node.innerNames ⊆ domain.givenNames := by
  refine fun name inside => List.mem_cons_of_mem _ ?_
  exact List.mem_append_left _ (List.mem_append_left _ (List.mem_flatMap.2 ⟨node, member, inside⟩))

theorem command_names_subset {command : Command} (member : command ∈ domain.commands) :
    command.name :: (TypeNode.listNames command.parameters ++ TypeNode.listNames command.returns) ⊆
      domain.givenNames := by
  refine fun name inside => List.mem_cons_of_mem _ ?_
  exact List.mem_append_left _ (List.mem_append_right _ (List.mem_flatMap.2 ⟨_, member, inside⟩))

theorem event_names_subset {event : Event} (member : event ∈ domain.events) :
    event.name :: TypeNode.listNames event.parameters ⊆ domain.givenNames := by
  refine fun name inside => List.mem_cons_of_mem _ ?_
  exact List.mem_append_right _ (List.mem_flatMap.2 ⟨event, member, inside⟩)

end Names

theorem undocumented_type? (domain : Domain) (id : String) :
    domain.undocumented.type? id = (domain.type? id).map TypeNode.undocumented := by
  rw [type?, undocumented, List.find?_map]
  simp only [Function.comp_def, TypeNode.undocumented_id]
  rfl

end Domain

namespace Protocol

theorem undocumented_domain? (protocol : Protocol) (name : String) :
    protocol.undocumented.domain? name = (protocol.domain? name).map Domain.undocumented := by
  rw [domain?, undocumented, List.find?_map]
  rfl

theorem undocumented_givenNames (protocol : Protocol) :
    protocol.undocumented.givenNames = protocol.givenNames := by
  simp [givenNames, undocumented, List.flatMap_map, Domain.undocumented_givenNames]

/-- References lead to the same types without their documentation. -/
theorem undocumented_graph (protocol : Protocol) :
    ImportGraph.ofProtocol protocol.undocumented = ImportGraph.ofProtocol protocol := by
  have found (domain name : String) :
      ((protocol.undocumented.domain? domain).bind (·.type? name)).isNone =
        ((protocol.domain? domain).bind (·.type? name)).isNone := by
    rw [undocumented_domain?]
    cases protocol.domain? domain with
    | none => rfl
    | some other => simp [Domain.undocumented_type?]
  have reference (domain : String) : ImportGraph.addReference protocol.undocumented domain =
      ImportGraph.addReference protocol domain := by
    funext graph raw
    simp only [ImportGraph.addReference, found]
  have domain (graph : ImportGraph) (domain : Domain) :
      ImportGraph.addReferences protocol.undocumented graph domain.undocumented =
        ImportGraph.addReferences protocol graph domain := by
    rw [ImportGraph.addReferences, Domain.undocumented_references, reference]
    rfl
  rw [ImportGraph.ofProtocol, undocumented, List.foldlM_map]
  exact congrArg (List.foldlM · _ protocol.domains) (funext fun graph => funext (domain graph))

theorem undocumented_exemptions (protocol : Protocol) :
    Exemptions.ofProtocol protocol.undocumented = Exemptions.ofProtocol protocol := by
  have type (domain : String) (exemptions : Exemptions) (node : TypeNode) :
      Exemptions.addType domain exemptions node.undocumented =
        Exemptions.addType domain exemptions node := by
    rw [Exemptions.addType, Exemptions.addType, TypeNode.undocumented_id,
      TypeNode.undocumented_shape]
  have domain (exemptions : Exemptions) (domain : Domain) :
      Exemptions.addTypes exemptions domain.undocumented =
        Exemptions.addTypes exemptions domain := by
    rw [Exemptions.addTypes, Domain.undocumented, List.foldlM_map]
    exact congrArg (List.foldlM · _ domain.types)
      (funext fun found => funext (type domain.name found))
  rw [Exemptions.ofProtocol, Exemptions.ofProtocol, undocumented, List.foldlM_map]
  exact congrArg (fun step => List.foldlM step _ protocol.domains >>= _)
    (funext fun found => funext (domain found))

end Protocol

end Bindings
