import Bindings.Proofs.Resolution.Exempt
import Mathlib.Data.List.Sort

/-! The graph and the registry of a protocol depend on what is added to them, not on the order.

Both are kept sorted and without repetition, so that each of them is determined by what it holds.
What it holds is said in terms of the members of a protocol alone.
-/

set_option autoImplicit false

namespace Bindings

theorem pairwise_insertSorted {x : String} {ys : List String} (ordered : ys.Pairwise (· < ·)) :
    (insertSorted x ys).Pairwise (· < ·) := by
  induction ys with
  | nil => simp [insertSorted]
  | cons y ys ih =>
    obtain ⟨first, later⟩ := List.pairwise_cons.1 ordered
    rw [insertSorted]
    split
    · next before =>
      refine List.pairwise_cons.2 ⟨fun z member => ?_, ordered⟩
      rcases List.mem_cons.1 member with rfl | member
      · exact before
      · exact lt_trans before (first z member)
    · next notBefore =>
      split
      · exact ordered
      · next distinct =>
        refine List.pairwise_cons.2 ⟨fun z member => ?_, ih later⟩
        rcases mem_insertSorted.1 member with rfl | member
        · exact lt_of_le_of_ne (not_lt.1 notBefore) (Ne.symm distinct)
        · exact first z member

namespace ImportGraph

/-- Besides the nodes, the imports of each node are in strict order. -/
structure Canonical (graph : ImportGraph) : Prop where
  wellFormed : graph.WellFormed
  sorted : ∀ entry ∈ graph.nodes, entry.2.Pairwise (· < ·)

section
variable {graph : ImportGraph}

theorem sorted_alter {name : String} {f : List String → List String}
    {nodes : List (String × List String)} (fresh : (f []).Pairwise (· < ·))
    (keeps : ∀ {imports : List String}, imports.Pairwise (· < ·) → (f imports).Pairwise (· < ·))
    (sorted : ∀ entry ∈ nodes, entry.2.Pairwise (· < ·)) :
    ∀ entry ∈ alter name f nodes, entry.2.Pairwise (· < ·) := by
  induction nodes with
  | nil => simpa [alter] using fresh
  | cons head rest ih =>
    obtain ⟨node, imports⟩ := head
    obtain ⟨now, later⟩ := List.forall_mem_cons.1 sorted
    rw [alter]
    split
    · exact List.forall_mem_cons.2 ⟨fresh, sorted⟩
    · split
      · exact List.forall_mem_cons.2 ⟨keeps now, later⟩
      · exact List.forall_mem_cons.2 ⟨now, ih later⟩

theorem canonical_addDomain (canonical : graph.Canonical) (name : String) :
    (graph.addDomain name).Canonical where
  wellFormed := wellFormed_addDomain canonical.wellFormed name
  sorted := sorted_alter .nil id canonical.sorted

theorem canonical_addEdge (canonical : graph.Canonical) (source target : String) :
    (graph.addEdge source target).Canonical where
  wellFormed := wellFormed_addEdge canonical.wellFormed source target
  sorted := sorted_alter (pairwise_insertSorted .nil) pairwise_insertSorted
    (canonical_addDomain canonical target).sorted

theorem canonical_empty : Canonical {} where
  wellFormed := wellFormed_empty
  sorted := fun _ member => nomatch member

theorem imports_eq_of_mem (ordered : graph.names.Pairwise (· < ·)) {entry : String × List String}
    (member : entry ∈ graph.nodes) : graph.imports entry.1 = entry.2 := by
  obtain ⟨nodes⟩ := graph
  rw [names] at ordered
  rw [imports]
  induction nodes with
  | nil => cases member
  | cons head rest ih =>
    rw [List.map_cons, List.pairwise_cons] at ordered
    rcases List.mem_cons.1 member with rfl | member
    · rw [List.lookup_cons, BEq.rfl]
      rfl
    · have above := ordered.1 entry.1 (List.mem_map_of_mem member)
      have skipped : (entry.1 == head.1) = false := by simpa using above.ne'
      rw [List.lookup_cons, skipped]
      exact ih ordered.2 member

theorem nodes_eq_map (ordered : graph.names.Pairwise (· < ·)) :
    graph.nodes = graph.names.map fun name => (name, graph.imports name) := by
  rw [names, List.map_map]
  refine (List.map_id graph.nodes).symm.trans (List.map_congr_left fun entry member => ?_)
  simp [imports_eq_of_mem ordered member]

theorem Canonical.imports (canonical : graph.Canonical) (name : String) :
    (graph.imports name).Pairwise (· < ·) := by
  rw [ImportGraph.imports]
  cases found : graph.nodes.lookup name with
  | none => exact .nil
  | some imports =>
    obtain ⟨before, after, split, -⟩ := List.lookup_eq_some_iff.1 found
    exact canonical.sorted (name, imports) (split ▸ by simp)

/-- Graphs with the same nodes and edges are the same. -/
theorem Canonical.ext {first second : ImportGraph} (left : first.Canonical)
    (right : second.Canonical) (names : ∀ name, name ∈ first.names ↔ name ∈ second.names)
    (edges : ∀ source target, target ∈ first.imports source ↔ target ∈ second.imports source) :
    first = second := by
  -- A list in strict order is determined by its members: first the nodes, then the imports of each.
  have sameNames : first.names = second.names :=
    left.wellFormed.ordered.eq_of_mem_iff right.wellFormed.ordered names
  have sameImports : first.imports = second.imports :=
    funext fun name => (left.imports name).eq_of_mem_iff (right.imports name) (edges name)
  have sameNodes : first.nodes = second.nodes := by
    rw [nodes_eq_map left.wellFormed.ordered, nodes_eq_map right.wellFormed.ordered, sameNames,
      sameImports]
  cases first
  cases second
  exact congrArg ImportGraph.mk sameNodes

end

section
variable {protocol : Protocol} {graph before after : ImportGraph} {domain : Domain}
  {owner raw source target : String}

def Leads (owner raw target : String) : Prop :=
  ∃ reference, Reference.resolve raw owner = .ok reference ∧
    (∃ package, reference.scope = .package package) ∧ reference.domain = target

def Passes (protocol : Protocol) (owner raw : String) : Prop :=
  ∃ reference node, Reference.resolve raw owner = .ok reference ∧
    protocol.target? reference = some node

structure Within (protocol : Protocol) (graph : ImportGraph) : Prop where
  canonical : graph.Canonical
  declared : ∀ name ∈ graph.names, name ∈ protocol.domains.map (·.name)

theorem exists_addReference_eq_ok_iff :
    (∃ after, addReference protocol owner before raw = .ok after) ↔
      Passes protocol owner raw := by
  constructor
  · rintro ⟨after, h⟩
    obtain ⟨reference, node, resolved, declared, -⟩ := addReference_eq_ok h
    exact ⟨reference, node, resolved, declared⟩
  · rintro ⟨reference, node, resolved, declared⟩
    rw [Protocol.target?] at declared
    simp only [addReference, resolved, bind, Except.bind, declared]
    split
    · contradiction
    · split
      · exact ⟨_, rfl⟩
      · exact ⟨_, rfl⟩

/-- The graph of a protocol can be built as soon as every reference names a declared type. -/
theorem exists_ofProtocol_eq_ok_iff :
    (∃ graph, ofProtocol protocol = .ok graph) ↔
      ∀ domain ∈ protocol.domains, ∀ raw ∈ domain.references,
        Passes protocol domain.name raw :=
  exists_foldlM_eq_ok_iff fun _ _ =>
    exists_foldlM_eq_ok_iff fun _ _ => exists_addReference_eq_ok_iff

theorem within_addReference (member : owner ∈ protocol.domains.map (·.name))
    (within : before.Within protocol) (h : addReference protocol owner before raw = .ok after) :
    after.Within protocol ∧ (target ∈ after.imports source ↔
      target ∈ before.imports source ∨ owner = source ∧ Leads owner raw target) := by
  obtain ⟨reference, node, resolved, found, ⟨leads, rfl⟩ | ⟨stays, rfl⟩⟩ := addReference_eq_ok h
  · -- The target is declared somewhere, so that the new node is the name of a domain.
    obtain ⟨other, declared, name, -⟩ := Protocol.owner_of_target found
    refine ⟨⟨canonical_addEdge within.canonical owner reference.domain, ?_⟩, ?_⟩
    · intro node inside
      rcases names_addEdge.1 inside with rfl | rfl | inside
      · exact member
      · exact name ▸ List.mem_map_of_mem declared
      · exact within.declared node inside
    · rw [mem_imports_addEdge within.canonical.wellFormed, or_comm]
      refine or_congr_right ⟨?_, ?_⟩
      · rintro ⟨rfl, rfl⟩
        exact ⟨rfl, reference, resolved, leads, rfl⟩
      · rintro ⟨rfl, again, same, -, rfl⟩
        obtain rfl := Except.ok.inj (resolved.symm.trans same)
        exact ⟨rfl, rfl⟩
  · refine ⟨within, (or_iff_left ?_).symm⟩
    rintro ⟨-, again, same, ⟨package, scope⟩, -⟩
    obtain rfl := Except.ok.inj (resolved.symm.trans same)
    exact stays package scope

theorem within_addReferences (member : domain ∈ protocol.domains)
    (within : before.Within protocol) (h : addReferences protocol before domain = .ok after) :
    after.Within protocol ∧ (target ∈ after.imports source ↔ target ∈ before.imports source ∨
      domain.name = source ∧ ∃ raw ∈ domain.references, Leads domain.name raw target) := by
  have listed : domain.name ∈ protocol.domains.map (·.name) := List.mem_map_of_mem member
  have begun : (before.addDomain domain.name).Within protocol := by
    refine ⟨canonical_addDomain within.canonical domain.name, fun name inside => ?_⟩
    rcases names_addDomain.1 inside with rfl | inside
    · exact listed
    · exact within.declared name inside
  have each := foldlM_collects_within (I := Within protocol)
    (P := fun graph => target ∈ graph.imports source)
    (fun _ grown step => within_addReference listed grown step) begun h
  rw [imports_addDomain within.canonical.wellFormed] at each
  refine ⟨each.1, each.2.trans (or_congr_right ?_)⟩
  constructor
  · rintro ⟨raw, inside, same, leads⟩
    exact ⟨same, raw, inside, leads⟩
  · rintro ⟨same, raw, inside, leads⟩
    exact ⟨raw, inside, same, leads⟩

/-- The nodes of the graph of a protocol are its domains, and its edges are the references that lead
from one package to another. -/
theorem ofProtocol_exact (h : ofProtocol protocol = .ok graph) :
    graph.Canonical ∧ (∀ name, name ∈ graph.names ↔ name ∈ protocol.domains.map (·.name)) ∧
      ∀ source target, target ∈ graph.imports source ↔ ∃ domain ∈ protocol.domains,
        domain.name = source ∧ ∃ raw ∈ domain.references, Leads domain.name raw target := by
  have begun : Within protocol {} := ⟨canonical_empty, fun _ inside => nomatch inside⟩
  have each := fun source target => foldlM_collects_within (I := Within protocol)
    (P := fun graph => target ∈ graph.imports source)
    (fun member grown step => within_addReferences member grown step) begun h
  have within := (each "" "").1
  refine ⟨within.canonical, fun name => ⟨within.declared name, fun declared => ?_⟩, ?_⟩
  · obtain ⟨domain, member, rfl⟩ := List.mem_map.1 declared
    exact ((ofProtocol_eq_ok h).2 domain member).1
  · intro source target
    rw [(each source target).2, or_iff_right]
    exact fun edge => nomatch edge

end

end ImportGraph

namespace Exemptions

variable {exemptions before after : Exemptions}

def Sorted (exemptions : Exemptions) : Prop := exemptions.names.Pairwise (· < ·)

theorem sorted_insert (sorted : before.Sorted) (name : String) : (before.insert name).Sorted :=
  pairwise_insertSorted sorted

theorem sorted_addType {domain : String} {type : TypeNode}
    (h : addType domain before type = .ok after) (sorted : before.Sorted) : after.Sorted := by
  rw [addType] at h
  cases declared : type.id with
  | none =>
    rw [declared] at h
    cases h
    exact sorted
  | some id =>
    rw [declared] at h
    obtain ⟨shape, -, rest⟩ := bind_eq_ok.1 h
    cases pure_eq_ok.1 rest
    split
    · exact sorted_insert sorted _
    · exact sorted

theorem sorted_insertAll (sorted : before.Sorted) (names : List String) :
    (names.foldl insert before).Sorted := by
  induction names generalizing before with
  | nil => exact sorted
  | cons first names ih => exact ih (sorted_insert sorted first)

theorem sorted_ofProtocol {protocol : Protocol} (h : ofProtocol protocol = .ok exemptions) :
    exemptions.Sorted := by
  obtain ⟨declared, added, rest⟩ := bind_eq_ok.1 h
  cases pure_eq_ok.1 rest
  have sorted : declared.Sorted :=
    foldlM_invariant (fun _ step => foldlM_invariant (fun _ step => sorted_addType step) step)
      added .nil
  exact sorted_insertAll sorted sharedTargets

theorem ext_of_sorted {first second : Exemptions} (left : first.Sorted) (right : second.Sorted)
    (same : ∀ name, name ∈ first.names ↔ name ∈ second.names) : first = second := by
  cases first
  cases second
  exact congrArg Exemptions.mk (List.Pairwise.eq_of_mem_iff left right same)

def Shaped (domain : String) (type : TypeNode) : Prop :=
  type.id.isSome → ∃ shape, type.shape domain = .ok shape

theorem exists_addType_eq_ok_iff {domain : String} {type : TypeNode} :
    (∃ after, addType domain before type = .ok after) ↔ Shaped domain type := by
  rw [addType, Shaped]
  cases declared : type.id with
  | none => simp
  | some id =>
    simp only [bind_eq_ok, pure_eq_ok, Option.isSome_some, forall_const]
    constructor
    · rintro ⟨after, shape, shaped, -⟩
      exact ⟨shape, shaped⟩
    · rintro ⟨shape, shaped⟩
      exact ⟨_, shape, shaped, rfl⟩

theorem exists_ofProtocol_eq_ok_iff {protocol : Protocol} :
    (∃ exemptions, ofProtocol protocol = .ok exemptions) ↔
      ∀ domain ∈ protocol.domains, ∀ type ∈ domain.types, Shaped domain.name type := by
  have declared : (∃ last, protocol.domains.foldlM addTypes ({} : Exemptions) = .ok last) ↔
      ∀ domain ∈ protocol.domains, ∀ type ∈ domain.types, Shaped domain.name type :=
    exists_foldlM_eq_ok_iff fun _ _ => exists_foldlM_eq_ok_iff fun _ _ => exists_addType_eq_ok_iff
  rw [← declared]
  simp only [ofProtocol, bind_eq_ok, pure_eq_ok]
  constructor
  · rintro ⟨exemptions, last, added, -⟩
    exact ⟨last, added⟩
  · rintro ⟨last, added⟩
    exact ⟨_, last, added, rfl⟩

end Exemptions

end Bindings
