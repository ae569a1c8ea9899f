import Bindings.Proofs.Protocol.Nodes
import Bindings.Proofs.Threading
import Mathlib.Data.List.Basic
import Mathlib.Order.Basic

/-! References at their addresses.

An address leads from the outside in, by the position of a node among its like and by the part of the
declaration that it is in. In the order of a dictionary the references of a protocol stand as they are
written: a node before its items, its items before its properties.
-/

set_option autoImplicit false

namespace Bindings

/-- Where a reference stands in a type node: the node's own at the empty address, the others below 0 for
the items, and below 1 and the position of a property. -/
inductive TypeNode.RefersAt : TypeNode → List Nat → String → Prop where
  | own {node : TypeNode} {raw : String} (given : node.reference = some raw) :
      TypeNode.RefersAt node [] raw
  | item {node item : TypeNode} {address : List Nat} {raw : String}
      (given : node.items = some item) (inside : TypeNode.RefersAt item address raw) :
      TypeNode.RefersAt node (0 :: address) raw
  | property {node property : TypeNode} {i : Nat} {address : List Nat} {raw : String}
      (given : node.properties[i]? = some property)
      (inside : TypeNode.RefersAt property address raw) :
      TypeNode.RefersAt node (1 :: i :: address) raw

/-- Where a reference stands in a domain: below 0 in a declared type, below 1 in a command, and there
in a parameter before the returned values, below 2 in an event. -/
inductive Domain.RefersAt (domain : Domain) : List Nat → String → Prop where
  | type {i : Nat} {node : TypeNode} {address : List Nat} {raw : String}
      (given : domain.types[i]? = some node) (inside : node.RefersAt address raw) :
      Domain.RefersAt domain (0 :: i :: address) raw
  | parameter {i j : Nat} {command : Command} {node : TypeNode} {address : List Nat} {raw : String}
      (found : domain.commands[i]? = some command) (given : command.parameters[j]? = some node)
      (inside : node.RefersAt address raw) :
      Domain.RefersAt domain (1 :: i :: 0 :: j :: address) raw
  | returned {i j : Nat} {command : Command} {node : TypeNode} {address : List Nat} {raw : String}
      (found : domain.commands[i]? = some command) (given : command.returns[j]? = some node)
      (inside : node.RefersAt address raw) :
      Domain.RefersAt domain (1 :: i :: 1 :: j :: address) raw
  | event {i j : Nat} {event : Event} {node : TypeNode} {address : List Nat} {raw : String}
      (found : domain.events[i]? = some event) (given : event.parameters[j]? = some node)
      (inside : node.RefersAt address raw) :
      Domain.RefersAt domain (2 :: i :: j :: address) raw

inductive Protocol.RefersAt (protocol : Protocol) : List Nat → String × String → Prop where
  | domain {i : Nat} {domain : Domain} {address : List Nat} {raw : String}
      (given : protocol.domains[i]? = some domain) (inside : domain.RefersAt address raw) :
      Protocol.RefersAt protocol (i :: address) (domain.name, raw)

variable {α β γ : Type}

/-- The values are those at the addresses, in the order of the addresses. -/
def Enumerates (At : List Nat → β → Prop) (values : List β) : Prop :=
  ∃ entries : List (List Nat × β), entries.map (·.2) = values ∧
    entries.Pairwise (fun first second => first.1 < second.1) ∧
    ∀ address value, At address value ↔ (address, value) ∈ entries

def Below (n : Nat) (At : List Nat → β → Prop) (address : List Nat) (value : β) : Prop :=
  ∃ rest, address = n :: rest ∧ At rest value

def Among (n : Nat) (At : α → List Nat → β → Prop) (xs : List α) (address : List Nat) (value : β) :
    Prop :=
  ∃ i x, xs[i]? = some x ∧ Below (i + n) (At x) address value

section Enumerates
variable {At At' : List Nat → β → Prop} {values others : List β}

theorem Enumerates.of_iff (same : ∀ address value, At' address value ↔ At address value)
    (enumerates : Enumerates At values) : Enumerates At' values := by
  obtain ⟨entries, listed, ordered, members⟩ := enumerates
  exact ⟨entries, listed, ordered, fun address value => (same address value).trans (members _ _)⟩

theorem enumerates_toList (given : Option β) :
    Enumerates (fun address value => address = [] ∧ given = some value) given.toList := by
  refine ⟨given.toList.map (([], ·)), ?_, ?_, fun address value => ?_⟩
  · rw [List.map_map]
    exact List.map_id _
  · cases given <;> simp
  · simp [and_comm, eq_comm]

theorem enumerates_nil : Enumerates (fun _ (_ : β) => False) [] :=
  ⟨[], rfl, .nil, fun _ _ => by simp⟩

theorem Enumerates.below (enumerates : Enumerates At values) (n : Nat) :
    Enumerates (Below n At) values := by
  obtain ⟨entries, listed, ordered, members⟩ := enumerates
  refine ⟨entries.map fun entry => (n :: entry.1, entry.2), ?_, ?_, fun address value => ?_⟩
  · rw [List.map_map, ← listed]
    rfl
  · rw [List.pairwise_map]
    exact ordered.imp fun before => List.cons_lt_cons_iff.2 (.inr ⟨rfl, before⟩)
  · simp only [Below, members, List.mem_map, Prod.exists, Prod.mk.injEq]
    constructor
    · rintro ⟨rest, rfl, inside⟩
      exact ⟨rest, value, inside, rfl, rfl⟩
    · rintro ⟨rest, _, inside, rfl, rfl⟩
      exact ⟨rest, rfl, inside⟩

theorem Enumerates.map (enumerates : Enumerates At values) (f : β → γ) :
    Enumerates (fun address value => ∃ source, At address source ∧ f source = value)
      (values.map f) := by
  obtain ⟨entries, rfl, ordered, members⟩ := enumerates
  refine ⟨entries.map fun entry => (entry.1, f entry.2), ?_, ?_, fun address value => ?_⟩
  · simp only [List.map_map, Function.comp_def]
  · exact List.pairwise_map.2 ordered
  · simp only [members, List.mem_map, Prod.exists, Prod.mk.injEq]
    constructor
    · rintro ⟨source, inside, rfl⟩
      exact ⟨address, source, inside, rfl, rfl⟩
    · rintro ⟨_, source, inside, rfl, rfl⟩
      exact ⟨source, inside, rfl⟩

theorem Enumerates.append (left : Enumerates At values) (right : Enumerates At' others)
    (apart : ∀ {address address' value value'}, At address value → At' address' value' →
      address < address') :
    Enumerates (fun address value => At address value ∨ At' address value) (values ++ others) := by
  obtain ⟨entries, rfl, ordered, members⟩ := left
  obtain ⟨entries', rfl, ordered', members'⟩ := right
  refine ⟨entries ++ entries', List.map_append, ?_, fun address value => ?_⟩
  · refine List.pairwise_append.2 ⟨ordered, ordered', fun first inside second inside' => ?_⟩
    exact apart ((members _ _).2 inside) ((members' _ _).2 inside')
  · exact (or_congr (members _ _) (members' _ _)).trans List.mem_append.symm

theorem Below.lt {m n : Nat} {address address' : List Nat} {value value' : β}
    (before : m < n) (first : Below m At address value) (second : Below n At' address' value') :
    address < address' := by
  obtain ⟨rest, rfl, -⟩ := first
  obtain ⟨rest', rfl, -⟩ := second
  exact List.cons_lt_cons_iff.2 (.inl before)

theorem Enumerates.flatMap {At : α → List Nat → β → Prop} {f : α → List β} {xs : List α}
    (each : ∀ x ∈ xs, Enumerates (At x) (f x)) (n : Nat) :
    Enumerates (Among n At xs) (xs.flatMap f) := by
  induction xs generalizing n with
  | nil => exact enumerates_nil.of_iff fun address value => by simp [Among]
  | cons x xs ih =>
    obtain ⟨now, later⟩ := List.forall_mem_cons.1 each
    rw [List.flatMap_cons]
    refine ((now.below n).append (ih later (n + 1)) ?_).of_iff fun address value => ?_
    · rintro address address' value value' first ⟨i, y, -, second⟩
      exact first.lt (by omega) second
    · constructor
      · rintro ⟨_ | i, y, given, below⟩
        · obtain rfl := Option.some.inj given
          exact .inl (by rwa [Nat.zero_add] at below)
        · exact .inr ⟨i, y, given, by rwa [Nat.add_right_comm] at below⟩
      · rintro (below | ⟨i, y, given, below⟩)
        · exact ⟨0, x, rfl, by rwa [Nat.zero_add]⟩
        · exact ⟨i + 1, y, given, by rwa [Nat.add_right_comm]⟩

/-- The first value that satisfies `Q`, in the order of the addresses. -/
theorem Enumerates.firstWith_iff (enumerates : Enumerates At values) {P Q : β → Prop} :
    FirstWith P Q values ↔ ∃ address value, At address value ∧ Q value ∧
      ∀ earlier other, At earlier other → earlier < address → P other := by
  obtain ⟨entries, rfl, ordered, members⟩ := enumerates
  simp only [members]
  clear members
  induction entries with
  | nil => simp [FirstWith]
  | cons entry entries ih =>
    obtain ⟨start, later⟩ := List.pairwise_cons.1 ordered
    rw [List.map_cons, FirstWith, ih later]
    constructor
    · rintro (now | ⟨passes, address, value, inside, found, before⟩)
      · refine ⟨entry.1, entry.2, List.mem_cons_self, now, fun earlier other member less => ?_⟩
        -- Nothing stands before the first address.
        rcases List.mem_cons.1 member with rfl | member
        · exact absurd less (List.lt_irrefl _)
        · exact absurd less (List.lt_asymm (start _ member))
      · refine ⟨address, value, List.mem_cons_of_mem entry inside, found, ?_⟩
        intro earlier other member less
        rcases List.mem_cons.1 member with rfl | member
        · exact passes
        · exact before earlier other member less
    · rintro ⟨address, value, inside, found, before⟩
      rcases List.mem_cons.1 inside with rfl | inside
      · exact .inl found
      · refine .inr ⟨before entry.1 entry.2 List.mem_cons_self (start _ inside), address, value,
          inside, found, ?_⟩
        exact fun earlier other member => before earlier other (List.mem_cons_of_mem entry member)

theorem Enumerates.forall_iff (enumerates : Enumerates At values) {P : β → Prop} :
    (∀ value ∈ values, P value) ↔ ∀ address value, At address value → P value := by
  obtain ⟨entries, rfl, -, members⟩ := enumerates
  simp only [members, List.forall_mem_map, Prod.forall]

theorem Enumerates.mem_iff (enumerates : Enumerates At values) {value : β} :
    value ∈ values ↔ ∃ address, At address value := by
  obtain ⟨entries, rfl, -, members⟩ := enumerates
  simp only [members, List.mem_map, Prod.exists, exists_eq_right]

end Enumerates

namespace TypeNode

theorem refersAt_iff {node : TypeNode} {address : List Nat} {raw : String} :
    node.RefersAt address raw ↔ ((address = [] ∧ node.reference = some raw) ∨
      Below 0 (fun address raw => ∃ item, node.items = some item ∧ item.RefersAt address raw)
        address raw) ∨
      Below 1 (Among 0 RefersAt node.properties) address raw := by
  constructor
  · intro refers
    cases refers with
    | own given => exact .inl (.inl ⟨rfl, given⟩)
    | item given inside => exact .inl (.inr ⟨_, rfl, _, given, inside⟩)
    | property given inside => exact .inr ⟨_, rfl, _, _, given, _, rfl, inside⟩
  · rintro ((⟨rfl, given⟩ | ⟨_, rfl, _, given, inside⟩) |
      ⟨_, rfl, i, _, given, _, rfl, inside⟩)
    · exact .own given
    · exact .item given inside
    · exact .property given inside

/-- The references of a node, in the order of their addresses. -/
theorem enumerates_references (node : TypeNode) : Enumerates node.RefersAt node.references := by
  induction node using TypeNode.induction with
  | inherits node inItems inProperties =>
    have items : Enumerates
        (fun address raw => ∃ item, node.items = some item ∧ item.RefersAt address raw)
        (itemReferences node.items) := by
      cases given : node.items with
      | none => exact enumerates_nil.of_iff fun address raw => by simp
      | some item =>
        refine (inItems item given).of_iff fun address raw => ?_
        simp only [Option.some.injEq, exists_eq_left']
    have properties := Enumerates.flatMap inProperties 0
    rw [references_eq, listReferences_eq_flatMap]
    refine (((enumerates_toList node.reference).append (items.below 0) ?_).append
      (properties.below 1) ?_).of_iff fun address raw => refersAt_iff
    · rintro address address' raw raw' ⟨rfl, -⟩ ⟨rest, rfl, -⟩
      exact List.nil_lt_cons 0 rest
    · rintro address address' raw raw' (⟨rfl, -⟩ | item) property
      · obtain ⟨rest, rfl, -⟩ := property
        exact List.nil_lt_cons 1 rest
      · exact item.lt Nat.zero_lt_one property

end TypeNode

namespace Domain

theorem references_eq (domain : Domain) :
    domain.references = domain.types.flatMap TypeNode.references ++
      domain.commands.flatMap (fun command => command.parameters.flatMap TypeNode.references ++
        command.returns.flatMap TypeNode.references) ++
      domain.events.flatMap (fun event => event.parameters.flatMap TypeNode.references) := by
  simp only [references, nodes, TypeNode.listReferences_eq_flatMap, List.flatMap_append,
    List.flatMap_assoc]

theorem refersAt_iff {domain : Domain} {address : List Nat} {raw : String} :
    domain.RefersAt address raw ↔
      (Below 0 (Among 0 TypeNode.RefersAt domain.types) address raw ∨
        Below 1 (Among 0 (fun command address raw =>
          Below 0 (Among 0 TypeNode.RefersAt command.parameters) address raw ∨
            Below 1 (Among 0 TypeNode.RefersAt command.returns) address raw)
          domain.commands) address raw) ∨
      Below 2 (Among 0 (fun event => Among 0 TypeNode.RefersAt event.parameters)
        domain.events) address raw := by
  constructor
  · intro refers
    cases refers with
    | type given inside => exact .inl (.inl ⟨_, rfl, _, _, given, _, rfl, inside⟩)
    | parameter found given inside =>
      exact .inl (.inr ⟨_, rfl, _, _, found, _, rfl, .inl ⟨_, rfl, _, _, given, _, rfl, inside⟩⟩)
    | returned found given inside =>
      exact .inl (.inr ⟨_, rfl, _, _, found, _, rfl, .inr ⟨_, rfl, _, _, given, _, rfl, inside⟩⟩)
    | event found given inside =>
      exact .inr ⟨_, rfl, _, _, found, _, rfl, _, _, given, _, rfl, inside⟩
  · rintro ((⟨_, rfl, i, _, given, _, rfl, inside⟩ | ⟨_, rfl, i, _, found, _, rfl, inCommand⟩) |
      ⟨_, rfl, i, _, found, _, rfl, j, _, given, _, rfl, inside⟩)
    · exact .type given inside
    · rcases inCommand with ⟨_, rfl, j, _, given, _, rfl, inside⟩ |
        ⟨_, rfl, j, _, given, _, rfl, inside⟩
      · exact .parameter found given inside
      · exact .returned found given inside
    · exact .event found given inside

/-- The references of a domain, in the order of their addresses. -/
theorem enumerates_references (domain : Domain) :
    Enumerates domain.RefersAt domain.references := by
  have listed : ∀ nodes : List TypeNode,
      Enumerates (Among 0 TypeNode.RefersAt nodes) (nodes.flatMap TypeNode.references) :=
    fun nodes => .flatMap (fun node _ => node.enumerates_references) 0
  have commands := Enumerates.flatMap (fun command (_ : command ∈ domain.commands) =>
    ((listed command.parameters).below 0).append ((listed command.returns).below 1)
      (Below.lt Nat.zero_lt_one)) 0
  have events := Enumerates.flatMap (fun event (_ : event ∈ domain.events) =>
    listed event.parameters) 0
  rw [references_eq]
  refine ((((listed domain.types).below 0).append (commands.below 1) ?_).append
    (events.below 2) ?_).of_iff fun address raw => refersAt_iff
  · exact Below.lt Nat.zero_lt_one
  · rintro address address' raw raw' (type | command) event
    · exact type.lt Nat.zero_lt_two event
    · exact command.lt Nat.one_lt_two event

end Domain

namespace Protocol

def references (protocol : Protocol) : List (String × String) :=
  protocol.domains.flatMap fun domain => domain.references.map (domain.name, ·)

theorem enumerates_references (protocol : Protocol) :
    Enumerates protocol.RefersAt protocol.references := by
  have domains := Enumerates.flatMap (fun domain (_ : domain ∈ protocol.domains) =>
    domain.enumerates_references.map (domain.name, ·)) 0
  refine domains.of_iff fun address entry => ?_
  constructor
  · rintro ⟨given, inside⟩
    exact ⟨_, _, given, _, rfl, _, inside, rfl⟩
  · rintro ⟨i, domain, given, _, rfl, _, inside, rfl⟩
    exact .domain given inside

end Protocol

end Bindings
