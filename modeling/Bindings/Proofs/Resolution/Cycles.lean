import Bindings.Proofs.Resolution.Ranking
import Mathlib.Data.List.Chain
import Mathlib.Logic.Relation

/-! The search for a closed path finds one whenever there is one.

The search is stated once more without a bound on its depth. What it reports is read off its path,
which is a chain of imports; that it reports something is due to the ranks of what is finished.
-/

set_option autoImplicit false

namespace Bindings.ImportGraph

inductive Addition where
  | domain (name : String)
  | edge (source target : String)
  deriving DecidableEq

def extend (graph : ImportGraph) : Addition → ImportGraph
  | .domain name => graph.addDomain name
  | .edge source target => graph.addEdge source target

def ofAdditions (additions : List Addition) : ImportGraph := additions.foldl extend {}

def Edge (graph : ImportGraph) (source target : String) : Prop := target ∈ graph.imports source

/-- The search through the nodes `pending` below `path`, with `done` finished before: it ends with a
closed path or with all that is finished. -/
inductive Searches (graph : ImportGraph) :
    (path done pending : List String) → Except (List String) (List String) → Prop where
  | nil {path done : List String} : Searches graph path done [] (.ok done)
  | closes {path done earlier later rest : List String} {node : String}
      (split : path = earlier ++ node :: later) (first : node ∉ earlier) :
      Searches graph path done (node :: rest) (.error (node :: later ++ [node]))
  | known {path done rest : List String} {node : String}
      {outcome : Except (List String) (List String)} (off : node ∉ path) (finished : node ∈ done)
      (others : Searches graph path done rest outcome) :
      Searches graph path done (node :: rest) outcome
  | fails {path done rest cycle : List String} {node : String} (off : node ∉ path)
      (fresh : node ∉ done)
      (below : Searches graph (path ++ [node]) done (graph.imports node) (.error cycle)) :
      Searches graph path done (node :: rest) (.error cycle)
  | finishes {path done after rest : List String} {node : String}
      {outcome : Except (List String) (List String)} (off : node ∉ path) (fresh : node ∉ done)
      (below : Searches graph (path ++ [node]) done (graph.imports node) (.ok after))
      (others : Searches graph path (node :: after) rest outcome) :
      Searches graph path done (node :: rest) outcome

def closedPath? : Except (List String) (List String) → Option (List String)
  | .error path => some path
  | .ok _ => none

/-- A path along `Edge` that ends where it began and visits no node twice in between. -/
structure Closed (Edge : String → String → Prop) (path : List String) : Prop where
  returns : ∃ start middle, path = start :: middle ++ [start]
  edges : path.IsChain Edge
  distinct : path.dropLast.Nodup

section Additions
variable {graph : ImportGraph} {additions : List Addition}

theorem wellFormed_extend (wf : graph.WellFormed) (addition : Addition) :
    (graph.extend addition).WellFormed := by
  cases addition with
  | domain name => exact wellFormed_addDomain wf name
  | edge source target => exact wellFormed_addEdge wf source target

theorem mem_imports_extend (wf : graph.WellFormed) {addition : Addition} {source target : String} :
    target ∈ (graph.extend addition).imports source ↔
      target ∈ graph.imports source ∨ addition = .edge source target := by
  cases addition with
  | domain name => simp [extend, imports_addDomain wf]
  | edge first second => simp [extend, mem_imports_addEdge wf, or_comm, eq_comm]

theorem foldl_extend (wf : graph.WellFormed) (additions : List Addition) :
    (additions.foldl extend graph).WellFormed ∧ ∀ source target,
      target ∈ (additions.foldl extend graph).imports source ↔
        target ∈ graph.imports source ∨ .edge source target ∈ additions := by
  induction additions generalizing graph with
  | nil => exact ⟨wf, fun source target => by simp⟩
  | cons addition additions ih =>
    obtain ⟨kept, edges⟩ := ih (wellFormed_extend wf addition)
    refine ⟨kept, fun source target => ?_⟩
    rw [List.foldl_cons, edges, mem_imports_extend wf, or_assoc, List.mem_cons, @eq_comm _ addition]

theorem wellFormed_ofAdditions (additions : List Addition) : (ofAdditions additions).WellFormed :=
  (foldl_extend wellFormed_empty additions).1

/-- The edges of a graph are those that have been added to it. -/
theorem mem_imports_ofAdditions {source target : String} :
    target ∈ (ofAdditions additions).imports source ↔ .edge source target ∈ additions := by
  rw [ofAdditions, (foldl_extend wellFormed_empty additions).2, or_iff_right]
  exact fun edge => nomatch edge

end Additions

section Search
variable {graph : ImportGraph} {path done pending cycle : List String}

theorem takeWhile_ne {node : String} {before after : List String} (first : node ∉ before) :
    (before ++ node :: after).takeWhile (· != node) = before := by
  have passed : ∀ other ∈ before, (other != node) = true := by
    intro other member
    simpa using ne_of_mem_of_not_mem member first
  rw [List.takeWhile_append_of_pos passed, List.takeWhile_cons]
  simp

/-- The bound on the depth of the search is never met: with as much fuel, each search ends. -/
theorem searches_foldlM (wf : graph.WellFormed) {fuel : Nat} (inside : pending ⊆ graph.names)
    (nodup : path.Nodup) (among : path ⊆ graph.names)
    (enough : graph.names.length < fuel + path.length) :
    graph.Searches path.reverse done pending (pending.foldlM (graph.visit fuel path) done) := by
  induction fuel generalizing path done pending with
  | zero =>
    -- A path as long as the fuel would hold a node twice.
    have bound : path.length ≤ graph.names.length := (nodup.subperm among).length_le
    omega
  | succ fuel ih =>
    induction pending generalizing done with
    | nil => exact .nil
    | cons node rest others =>
      obtain ⟨member, later⟩ := List.cons_subset.1 inside
      rw [List.foldlM_cons, visit]
      by_cases open_ : node ∈ path
      · rw [if_pos (List.contains_iff_mem.2 open_)]
        obtain ⟨below, above, rfl, last⟩ := List.eq_append_cons_of_mem open_
        have once : node ∉ above.reverse := by
          rw [List.mem_reverse]
          exact (List.nodup_cons.1 (List.nodup_append.1 nodup).2.1).1
        rw [takeWhile_ne last]
        exact .closes (by simp) once
      · have off : node ∉ path.reverse := by simpa using open_
        rw [if_neg (by simpa using open_)]
        by_cases known : node ∈ done
        · rw [if_pos (List.contains_iff_mem.2 known)]
          exact .known off known (others later)
        · rw [if_neg (by simpa using known)]
          have targets : graph.imports node ⊆ graph.names := fun target edge => wf.closed edge
          have below : graph.Searches (node :: path).reverse done (graph.imports node)
              ((graph.imports node).foldlM (graph.visit fuel (node :: path)) done) :=
            ih targets (List.nodup_cons.2 ⟨open_, nodup⟩) (List.cons_subset.2 ⟨member, among⟩)
              (by rw [List.length_cons]; omega)
          rw [List.reverse_cons] at below
          cases searched : (graph.imports node).foldlM (graph.visit fuel (node :: path)) done with
          | error cycle => exact .fails off known (searched ▸ below)
          | ok after => exact .finishes off known (searched ▸ below) (others later)

/-- A search ends in one way only. -/
theorem Searches.unique {first second : Except (List String) (List String)}
    (one : graph.Searches path done pending first)
    (other : graph.Searches path done pending second) : first = second := by
  induction one generalizing second with
  | nil =>
    cases other
    rfl
  | @closes path done earlier later rest node split notBefore =>
    have open_ : node ∈ path := split ▸ List.mem_append_right _ List.mem_cons_self
    cases other with
    | @closes _ _ earlier' later' _ _ again notBefore' =>
      have same : earlier = earlier' := by
        have cut : path.takeWhile (· != node) = earlier := by rw [split, takeWhile_ne notBefore]
        rw [← cut, again, takeWhile_ne notBefore']
      rw [split, same, List.append_cancel_left_eq] at again
      rw [(List.cons.inj again).2]
    | known off => exact absurd open_ off
    | fails off => exact absurd open_ off
    | finishes off => exact absurd open_ off
  | known off finished others ih =>
    cases other with
    | closes split => exact absurd (split ▸ List.mem_append_right _ List.mem_cons_self) off
    | known _ _ others => exact ih others
    | fails _ fresh => exact absurd finished fresh
    | finishes _ fresh => exact absurd finished fresh
  | fails off fresh below ih =>
    cases other with
    | closes split => exact absurd (split ▸ List.mem_append_right _ List.mem_cons_self) off
    | known _ finished => exact absurd finished fresh
    | fails _ _ below => exact ih below
    | finishes _ _ below => cases ih below
  | finishes off fresh below others ihBelow ih =>
    cases other with
    | closes split => exact absurd (split ▸ List.mem_append_right _ List.mem_cons_self) off
    | known _ finished => exact absurd finished fresh
    | fails _ _ below => cases ihBelow below
    | finishes _ _ below others =>
      obtain rfl := Except.ok.inj (ihBelow below)
      exact ih others

/-- What a search reports is a closed path, if its own path is one of imports that goes on to all
that is pending. -/
theorem Searches.closed {outcome : Except (List String) (List String)}
    (h : graph.Searches path done pending outcome) (failed : outcome = .error cycle)
    (nodup : path.Nodup) (chain : ∀ node ∈ pending, (path ++ [node]).IsChain graph.Edge) :
    Closed graph.Edge cycle := by
  induction h with
  | nil => cases failed
  | @closes path done earlier later rest node split first =>
    cases failed
    have whole := chain node List.mem_cons_self
    rw [split] at nodup whole
    refine ⟨⟨node, later, rfl⟩, ?_, ?_⟩
    · rw [List.append_assoc] at whole
      exact whole.right_of_append
    · rw [List.dropLast_concat]
      exact (List.nodup_append.1 nodup).2.1
  | known off finished others ih =>
    exact ih failed nodup fun node member => chain node (List.mem_cons_of_mem _ member)
  | @fails path done rest cycle node off fresh below ih =>
    refine ih failed (List.nodup_append.2 ⟨nodup, by simp, ?_⟩) fun target edge => ?_
    · intro other inside again member
      rw [List.mem_singleton.1 member]
      exact ne_of_mem_of_not_mem inside off
    · have reached := chain node List.mem_cons_self
      rw [List.isChain_append]
      exact ⟨reached, .singleton target, by simpa [Edge] using edge⟩
  | @finishes path done after rest node outcome off fresh below others ihBelow ih =>
    exact ih failed nodup fun node member => chain node (List.mem_cons_of_mem _ member)

theorem transGen_of_isChain {Edge : String → String → Prop} {first last : String}
    {middle : List String} (chain : (first :: middle ++ [last]).IsChain Edge) :
    Relation.TransGen Edge first last := by
  induction middle generalizing first with
  | nil => exact .single (by simpa using chain)
  | cons next middle ih =>
    obtain ⟨edge, rest⟩ := List.isChain_cons_cons.1 chain
    exact .head edge (ih rest)

theorem Closed.exists_transGen {Edge : String → String → Prop} (closed : Closed Edge path) :
    ∃ node, Relation.TransGen Edge node node := by
  obtain ⟨node, middle, rfl⟩ := closed.returns
  exact ⟨node, transGen_of_isChain closed.edges⟩

end Search

section Built
variable {graph : ImportGraph} {path : List String}

theorem searches_names (wf : graph.WellFormed) :
    ∃ outcome, graph.Searches [] [] graph.names outcome ∧
      graph.findCycle? = closedPath? outcome := by
  have ended : graph.Searches ([] : List String).reverse [] graph.names
      (graph.names.foldlM (graph.visit (graph.nodes.length + 1) []) []) :=
    searches_foldlM wf (List.Subset.refl _) List.nodup_nil (List.nil_subset _) (by simp [names])
  refine ⟨_, ended, ?_⟩
  rw [findCycle?]
  split
  · next cycle found => rw [found, closedPath?]
  · next done found => rw [found, closedPath?]

theorem closed_of_findCycle? (wf : graph.WellFormed) (found : graph.findCycle? = some path) :
    Closed graph.Edge path := by
  obtain ⟨outcome, searches, same⟩ := searches_names wf
  cases outcome with
  | ok done =>
    rw [found] at same
    cases same
  | error cycle =>
    rw [found] at same
    cases same
    exact searches.closed rfl List.nodup_nil fun node _ => List.isChain_singleton node

theorem mem_names_of_edge {source target : String} (edge : graph.Edge source target) :
    source ∈ graph.names := by
  rw [Edge, imports] at edge
  cases found : graph.nodes.lookup source with
  | none =>
    rw [found] at edge
    cases edge
  | some imports =>
    obtain ⟨before, after, split, -⟩ := List.lookup_eq_some_iff.1 found
    rw [names, split]
    simp

/-- Where the search reports nothing, imports only lead down in the order of what is finished, and no
node is reached again. -/
theorem findCycle?_eq_none_iff (wf : graph.WellFormed) :
    graph.findCycle? = none ↔ ∀ node, ¬Relation.TransGen graph.Edge node node := by
  constructor
  · intro nothing
    obtain ⟨done, finished, all⟩ := finished_of_findCycle?_eq_none wf nothing
    have descends : ∀ {source target}, Relation.TransGen graph.Edge source target →
        rank done target < rank done source := by
      intro source target chain
      have step : ∀ {source target}, graph.Edge source target →
          rank done target < rank done source :=
        fun edge => finished.rank_lt (all _ (mem_names_of_edge edge)) edge
      induction chain with
      | single edge => exact step edge
      | tail _ edge ih => exact (step edge).trans ih
    exact fun node chain => lt_irrefl _ (descends chain)
  · intro acyclic
    cases found : graph.findCycle? with
    | none => rfl
    | some path =>
      obtain ⟨node, chain⟩ := (closed_of_findCycle? wf found).exists_transGen
      exact absurd chain (acyclic node)

theorem check_eq_error_iff {error : Error} :
    graph.check = .error error ↔
      ∃ path, graph.findCycle? = some path ∧ error = .importCycle path := by
  rw [check]
  cases graph.findCycle? with
  | none => simp
  | some path => simp [eq_comm]

end Built

/-- Of every graph that can be built: its edges are those added to it; the search for a closed path
ends, and in one way only; it reports nothing exactly if no node is reached from itself, and otherwise a
closed path that visits no node twice; and the check fails with just what is reported. -/
theorem cycles_found (additions : List Addition) :
    let graph := ofAdditions additions
    (∀ source target, graph.Edge source target ↔ .edge source target ∈ additions) ∧
      (∃ outcome, (∀ other, graph.Searches [] [] graph.names other ↔ other = outcome) ∧
        graph.findCycle? = closedPath? outcome) ∧
      (graph.findCycle? = none ↔ ∀ node, ¬Relation.TransGen graph.Edge node node) ∧
      (∀ path, graph.findCycle? = some path → Closed graph.Edge path) ∧
      ∀ error, graph.check = .error error ↔
        ∃ path, graph.findCycle? = some path ∧ error = .importCycle path := by
  intro graph
  have wf : graph.WellFormed := wellFormed_ofAdditions additions
  obtain ⟨outcome, searches, same⟩ := searches_names wf
  refine ⟨fun _ _ => mem_imports_ofAdditions, ⟨outcome, fun other => ⟨?_, ?_⟩, same⟩,
    findCycle?_eq_none_iff wf, fun _ => closed_of_findCycle? wf, fun _ => check_eq_error_iff⟩
  · exact fun again => again.unique searches
  · rintro rfl
    exact searches

end Bindings.ImportGraph
