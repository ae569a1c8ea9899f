import Bindings.Proofs.Json.Reading
import Bindings.Proofs.Json.Records
import Bindings.Proofs.Protocol.Nodes

/-! A protocol description comes back from its own text. -/

set_option autoImplicit false

namespace Bindings

open Json

theorem TypeNode.listToJson_eq (nodes : List TypeNode) :
    TypeNode.listToJson nodes = Values.ofList (nodes.map TypeNode.toJson) := by
  induction nodes with
  | nil => rfl
  | cons node nodes ih => rw [TypeNode.listToJson, ih, List.map_cons, Values.ofList]

theorem nodeList_eq (nodes : List TypeNode) : nodeList nodes = .ofList TypeNode.toJson nodes := by
  rw [nodeList, TypeNode.listToJson_eq, Value.ofList]

theorem TypeNode.itemsToJson_eq (items : Option TypeNode) :
    TypeNode.itemsToJson items = items.map TypeNode.toJson := by
  cases items <;> rfl

section Texts

theorem isNumberless_ofList {α : Type} {f : α → Value} {xs : List α}
    (plain : ∀ x ∈ xs, (f x).isNumberless = true) : (Value.ofList f xs).isNumberless = true := by
  rw [Value.ofList, Value.isNumberless]
  induction xs with
  | nil => rfl
  | cons x xs ih =>
    rw [List.map_cons, Values.ofList, Values.isNumberless, plain x List.mem_cons_self,
      ih fun other member => plain other (List.mem_cons_of_mem x member), Bool.and_self]

theorem isNumberless_members {entries : List (String × Option Value)}
    (plain : ∀ entry ∈ entries, ∀ v ∈ entry.2, v.isNumberless = true) :
    (Value.object (members entries)).isNumberless = true := by
  rw [Value.isNumberless]
  induction entries with
  | nil => rfl
  | cons entry entries ih =>
    obtain ⟨key, held⟩ := entry
    have later := ih fun other member => plain other (List.mem_cons_of_mem _ member)
    cases held with
    | none => exact later
    | some v =>
      rw [members, Pairs.isNumberless, plain _ List.mem_cons_self v rfl, later, Bool.and_self]

theorem isNumberless_textList (texts : List String) : (textList texts).isNumberless = true :=
  isNumberless_ofList fun _ _ => rfl

/-- Descriptions hold texts, flags and lists, but no number. -/
theorem TypeNode.isNumberless (node : TypeNode) : node.toJson.isNumberless = true := by
  induction node using TypeNode.induction with
  | inherits node items properties =>
    obtain ⟨id, name, kind, reference, _, _, literals, optional, deprecated, experimental,
      description⟩ := node
    rw [TypeNode.toJson, TypeNode.itemsToJson_eq]
    have inner := isNumberless_ofList properties
    rw [← nodeList_eq, nodeList] at inner
    refine isNumberless_members ?_
    simpa [Value.isNumberless, isNumberless_textList] using ⟨items, fun _ => inner⟩

theorem isNumberless_nodeList (nodes : List TypeNode) : (nodeList nodes).isNumberless = true := by
  rw [nodeList_eq]
  exact isNumberless_ofList fun node _ => node.isNumberless

theorem Command.isNumberless (command : Command) : command.toJson.isNumberless = true :=
  isNumberless_members (by simp [Value.isNumberless, isNumberless_nodeList])

theorem Event.isNumberless (event : Event) : event.toJson.isNumberless = true :=
  isNumberless_members (by simp [Value.isNumberless, isNumberless_nodeList])

theorem Domain.isNumberless (domain : Domain) : domain.toJson.isNumberless = true := by
  have commands : (Value.ofList Command.toJson domain.commands).isNumberless = true :=
    isNumberless_ofList fun command _ => command.isNumberless
  have events : (Value.ofList Event.toJson domain.events).isNumberless = true :=
    isNumberless_ofList fun event _ => event.isNumberless
  exact isNumberless_members (by
    simp [Value.isNumberless, isNumberless_nodeList, isNumberless_textList, commands, events])

theorem Version.isNumberless (version : Version) : version.toJson.isNumberless = true :=
  isNumberless_members (by simp [Value.isNumberless])

theorem Protocol.isNumberless (protocol : Protocol) : protocol.toJson.isNumberless = true := by
  have domains : (Value.ofList Domain.toJson protocol.domains).isNumberless = true :=
    isNumberless_ofList fun domain _ => domain.isNumberless
  exact isNumberless_members (by simp [domains, Version.isNumberless])

end Texts

section Drafts

theorem readText_draft (s : String) : readText (Value.string s).draft = .ok s := rfl

theorem textList_reads {texts : List String} {depth : Nat} (fits : (textList texts).depth ≤ depth) :
    readScalars readText depth (textList texts).draft = .ok texts :=
  readScalars_ofList (fun s _ => readText_draft s) fits

/-- Only an absent value is written as none at all. -/
theorem TypeNode.readOptional_eq (read : Read TypeNode) (node : TypeNode) :
    readOptional read node.toJson.draft = (read node.toJson.draft).map some := by
  cases node
  rw [TypeNode.toJson]
  rfl

theorem TypeNode.read_succ {depth : Nat}
    (each : ∀ node : TypeNode, node.toJson.depth ≤ depth →
      TypeNode.read depth node.toJson.draft = .ok node)
    (all : ∀ nodes, (nodeList nodes).depth ≤ depth →
      TypeNode.readAll depth (nodeList nodes).draft = .ok nodes)
    (node : TypeNode) (fits : node.toJson.depth ≤ depth + 1) :
    TypeNode.read (depth + 1) node.toJson.draft = .ok node := by
  obtain ⟨id, name, kind, reference, items, properties, literals, optional, deprecated,
    experimental, description⟩ := node
  rw [TypeNode.toJson, TypeNode.itemsToJson_eq] at fits ⊢
  rw [TypeNode.read]
  refine Restores.read ?_ (by simp [TypeNode.record, field])
  refine .optionalText rfl <| .optionalText rfl <| .optionalText rfl <| .optionalText rfl <|
    .option (fun item held => ?_) rfl <| .list (fun held => ?_) rfl <| .list (fun held => ?_) rfl <|
    .flag <| .flag <| .flag <| .optionalText rfl <| .nil _
  · rw [TypeNode.readOptional_eq, each item (depth_le_of_mem fits "items" (by simp [held]))]
    rfl
  · exact all properties (depth_le_of_mem fits "properties" (by simp [held, nodeList]))
  · exact textList_reads (depth_le_of_mem fits "enum" (by simp [held]))

theorem nodeList_reads {depth : Nat}
    (each : ∀ node : TypeNode, node.toJson.depth ≤ depth →
      TypeNode.read depth node.toJson.draft = .ok node)
    (nodes : List TypeNode) (fits : (nodeList nodes).depth ≤ depth + 1) :
    TypeNode.readAll (depth + 1) (nodeList nodes).draft = .ok nodes := by
  rw [nodeList_eq] at fits ⊢
  rw [TypeNode.readAll]
  exact readList_ofList fun node member =>
    each node (Nat.le_of_lt_succ (Nat.lt_of_lt_of_le (depth_lt_ofList member) fits))

/-- Type nodes are read as long as they do not nest deeper than the reader may go. -/
theorem TypeNode.reads (depth : Nat) :
    (∀ node : TypeNode, node.toJson.depth ≤ depth →
      TypeNode.read depth node.toJson.draft = .ok node) ∧
    ∀ nodes, (nodeList nodes).depth ≤ depth →
      TypeNode.readAll depth (nodeList nodes).draft = .ok nodes := by
  induction depth with
  | zero =>
    refine ⟨fun node fits => ?_, fun nodes fits => ?_⟩
    · cases node
      rw [TypeNode.toJson] at fits
      cases fits
    · cases fits
  | succ depth ih => exact ⟨TypeNode.read_succ ih.1 ih.2, nodeList_reads ih.1⟩

section Bounded
variable {depth : Nat}

theorem Command.reads {command : Command} (fits : command.toJson.depth ≤ depth + 1) :
    (Command.record depth).read command.toJson.draft = .ok command := by
  have nodes (nodes : List TypeNode) := (TypeNode.reads depth).2 nodes
  refine Restores.read ?_ (by simp [Command.record, field])
  exact .text <| .optionalText rfl <| .flag <| .flag <|
    .value (nodes _ (depth_le_of_mem fits "parameters" (by simp))) <|
    .value (nodes _ (depth_le_of_mem fits "returns" (by simp))) <| .optionalText rfl <| .nil _

theorem Event.reads {event : Event} (fits : event.toJson.depth ≤ depth + 1) :
    (Event.record depth).read event.toJson.draft = .ok event := by
  have nodes (nodes : List TypeNode) := (TypeNode.reads depth).2 nodes
  refine Restores.read ?_ (by simp [Event.record, field])
  exact .text <| .optionalText rfl <| .flag <| .flag <|
    .value (nodes _ (depth_le_of_mem fits "parameters" (by simp))) <| .nil _

theorem Version.reads (version : Version) :
    Version.record.read version.toJson.draft = .ok version := by
  refine Restores.read ?_ (by simp [Version.record, field])
  exact .text <| .text <| .nil _

theorem Domain.reads {domain : Domain} (fits : domain.toJson.depth ≤ depth + 1) :
    (Domain.record depth).read domain.toJson.draft = .ok domain := by
  have commands : (Value.ofList Command.toJson domain.commands).depth ≤ depth :=
    depth_le_of_mem fits "commands" (by simp)
  have events : (Value.ofList Event.toJson domain.events).depth ≤ depth :=
    depth_le_of_mem fits "events" (by simp)
  refine Restores.read ?_ (by simp [Domain.record, field])
  exact .text <| .optionalText rfl <| .flag <| .flag <|
    .value (textList_reads (depth_le_of_mem fits "dependencies" (by simp))) <|
    .value ((TypeNode.reads depth).2 _ (depth_le_of_mem fits "types" (by simp))) <|
    .value (readList_ofList fun command member => Command.reads (by
      have := depth_lt_ofList (f := Command.toJson) member
      omega)) <|
    .value (readList_ofList fun event member => Event.reads (by
      have := depth_lt_ofList (f := Event.toJson) member
      omega)) <| .nil _

theorem Protocol.reads {protocol : Protocol} (fits : protocol.toJson.depth ≤ depth + 1) :
    (Protocol.record depth).read protocol.toJson.draft = .ok protocol := by
  have domains : (Value.ofList Domain.toJson protocol.domains).depth ≤ depth :=
    depth_le_of_mem fits "domains" (by simp)
  refine Restores.read ?_ (by simp [Protocol.record, field])
  refine .option (fun version _ => ?_) rfl <|
    .value (readList_ofList fun domain member => Domain.reads (by
      have := depth_lt_ofList (f := Domain.toJson) member
      omega)) <| .nil _
  change (Version.record.read version.toJson.draft).map some = _
  rw [Version.reads]
  rfl

end Bounded

end Drafts

/-- A description that nests no deeper than the reader may go comes back from its own text. -/
theorem Protocol.ofText_text (protocol : Protocol) (fits : protocol.toJson.depth ≤ 127) :
    Protocol.ofText protocol.text = .ok protocol := by
  have reads : (Protocol.record (depthLimit - 1)).read protocol.toJson.draft = .ok protocol :=
    Protocol.reads fits
  rw [Protocol.ofText, Protocol.text, ofText_valueText protocol.isNumberless, Document.read, reads]
  rfl

def nestedProtocol : Protocol where
  version := some { major := "1", minor := "" }
  domains :=
    [{ name := "D\"\\\n\x01é\u2028"
       types := [{
        id := some "T"
        properties := [{ name := some "", kind := some "array", items := some { items := some {} } }]
        literals := ["a", ""] }]
       commands := [{ name := "c", returns := [{ reference := some "D.T", optional := true }] }]
       events := [{ name := "e", deprecated := true }] }]

theorem Protocol.ofText_text_nested : nestedProtocol.toJson.depth ≤ 127 ∧
    Protocol.ofText nestedProtocol.text = .ok nestedProtocol := by
  have fits : nestedProtocol.toJson.depth ≤ 127 := by decide +kernel
  exact ⟨fits, nestedProtocol.ofText_text fits⟩

end Bindings
