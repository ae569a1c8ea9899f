import Bindings.Resolution.ImportGraph
import Mathlib.Data.String.Basic

/-! The edges of an import graph as it grows.

The look-up of a node is exact only while the nodes are in order, so the order is
an invariant of every operation, and with it that all targets of edges are nodes.
-/

set_option autoImplicit false

namespace Bindings.ImportGraph

/-- The nodes are in strict order, and no edge leaves the graph. -/
structure WellFormed (graph : ImportGraph) : Prop where
  ordered : graph.names.Pairwise (· < ·)
  closed : ∀ {source target}, target ∈ graph.imports source → target ∈ graph.names

section Alter
variable {name other : String} {f : List String → List String} {nodes : List (String × List String)}

theorem mem_names_alter :
    other ∈ (alter name f nodes).map (·.1) ↔ other = name ∨ other ∈ nodes.map (·.1) := by
  induction nodes with
  | nil => simp [alter]
  | cons head rest ih =>
    obtain ⟨node, imports⟩ := head
    rw [alter]
    split
    · simp
    · split
      · next same => simp [same]
      · rw [List.map_cons, List.mem_cons, ih, List.map_cons, List.mem_cons]
        exact or_left_comm

theorem ordered_alter (ordered : (nodes.map (·.1)).Pairwise (· < ·)) :
    ((alter name f nodes).map (·.1)).Pairwise (· < ·) := by
  induction nodes with
  | nil => simp [alter]
  | cons head rest ih =>
    obtain ⟨node, imports⟩ := head
    obtain ⟨first, later⟩ := List.pairwise_cons.1 ordered
    rw [alter]
    split
    · next before =>
      refine List.pairwise_cons.2 ⟨fun other member => ?_, ordered⟩
      rcases List.mem_cons.1 member with rfl | member
      · exact before
      · exact lt_trans before (first other member)
    · next notBefore =>
      split
      · exact ordered
      · next distinct =>
        refine List.pairwise_cons.2 ⟨fun other member => ?_, ih later⟩
        rcases mem_names_alter.1 member with rfl | member
        · exact lt_of_le_of_ne (not_lt.1 notBefore) (Ne.symm distinct)
        · exact first other member

theorem lookup_alter_of_ne (distinct : other ≠ name) :
    (alter name f nodes).lookup other = nodes.lookup other := by
  have skipped : (other == name) = false := by simpa using distinct
  induction nodes with
  | nil => simp only [alter, List.lookup_cons, skipped]
  | cons head rest ih =>
    obtain ⟨node, imports⟩ := head
    rw [alter]
    split
    · simp only [List.lookup_cons, skipped]
    · split
      · next same => simp only [List.lookup_cons, ← same, skipped]
      · simp only [List.lookup_cons, ih]

private theorem lookup_eq_none_of_below (below : ∀ other ∈ nodes.map (·.1), name < other) :
    nodes.lookup name = none := by
  rw [List.lookup_eq_none_iff]
  intro entry member
  simpa using (below entry.1 (List.mem_map_of_mem member)).ne

theorem lookup_alter_self (ordered : (nodes.map (·.1)).Pairwise (· < ·)) :
    (alter name f nodes).lookup name = some (f ((nodes.lookup name).getD [])) := by
  induction nodes with
  | nil => simp [alter]
  | cons head rest ih =>
    obtain ⟨node, imports⟩ := head
    obtain ⟨first, later⟩ := List.pairwise_cons.1 ordered
    rw [alter]
    split
    · next before =>
      have absent : ((node, imports) :: rest).lookup name = none := by
        refine lookup_eq_none_of_below fun other member => ?_
        rcases List.mem_cons.1 member with rfl | member
        · exact before
        · exact lt_trans before (first other member)
      simp [absent]
    · split
      · next same => simp [same]
      · next distinct =>
        have skipped : (name == node) = false := by simpa using distinct
        simp only [List.lookup_cons, skipped, ih later]

end Alter

theorem names_addDomain {graph : ImportGraph} {name other : String} :
    other ∈ (graph.addDomain name).names ↔ other = name ∨ other ∈ graph.names :=
  mem_names_alter

theorem imports_addDomain {graph : ImportGraph} (wf : graph.WellFormed) (name other : String) :
    (graph.addDomain name).imports other = graph.imports other := by
  by_cases same : other = name
  · subst same
    simp [imports, addDomain, lookup_alter_self wf.ordered]
  · simp [imports, addDomain, lookup_alter_of_ne same]

theorem wellFormed_addDomain {graph : ImportGraph} (wf : graph.WellFormed) (name : String) :
    (graph.addDomain name).WellFormed where
  ordered := ordered_alter wf.ordered
  closed := by
    intro source target edge
    rw [imports_addDomain wf] at edge
    exact names_addDomain.2 (.inr (wf.closed edge))

theorem names_addEdge {graph : ImportGraph} {source target other : String} :
    other ∈ (graph.addEdge source target).names ↔
      other = source ∨ other = target ∨ other ∈ graph.names := by
  rw [addEdge, names, mem_names_alter, ← names, names_addDomain]

theorem mem_imports_addEdge {graph : ImportGraph} (wf : graph.WellFormed)
    {source target node other : String} :
    other ∈ (graph.addEdge source target).imports node ↔
      node = source ∧ other = target ∨ other ∈ graph.imports node := by
  have grown := wellFormed_addDomain wf target
  by_cases same : node = source
  · subst same
    have found : (graph.addEdge node target).imports node =
        insertSorted target ((graph.addDomain target).imports node) := by
      simp [imports, addEdge, lookup_alter_self grown.ordered]
    rw [found, mem_insertSorted, imports_addDomain wf]
    simp
  · have kept : (graph.addEdge source target).imports node =
        (graph.addDomain target).imports node := by
      simp [imports, addEdge, lookup_alter_of_ne same]
    rw [kept, imports_addDomain wf]
    simp [same]

theorem wellFormed_addEdge {graph : ImportGraph} (wf : graph.WellFormed) (source target : String) :
    (graph.addEdge source target).WellFormed where
  ordered := ordered_alter (wellFormed_addDomain wf target).ordered
  closed := by
    intro node other edge
    rcases (mem_imports_addEdge wf).1 edge with ⟨-, rfl⟩ | edge
    · exact names_addEdge.2 (.inr (.inl rfl))
    · exact names_addEdge.2 (.inr (.inr (wf.closed edge)))

theorem wellFormed_empty : WellFormed {} where
  ordered := .nil
  closed := fun edge => nomatch edge

end Bindings.ImportGraph
