import Bindings.Proofs.Resolution.Edges
import Bindings.Proofs.Threading
import Mathlib.Data.List.Perm.Subperm

/-! A graph in which the search finds no cycle has its nodes ranked by their imports.

The search finishes a node after everything the node imports, so the finished nodes,
latest first, are a list in which imports only point towards the end.
-/

set_option autoImplicit false

namespace Bindings.ImportGraph

/-- Every node is finished once, after all that it imports. -/
inductive Finished (graph : ImportGraph) : List String → Prop where
  | nil : Finished graph []
  | cons {node : String} {done : List String} (fresh : node ∉ done)
      (imports : ∀ target ∈ graph.imports node, target ∈ done) (earlier : Finished graph done) :
      Finished graph (node :: done)

/-- The search from nodes below `path` has gone from `before` to `after`: more is finished, all of
it in order, and nothing that is still being searched. -/
structure Progress (graph : ImportGraph) (path before after : List String) : Prop where
  finished : Finished graph after
  keeps : ∀ node ∈ before, node ∈ after
  avoids : ∀ node ∈ after, node ∈ before ∨ node ∉ path

theorem Progress.refl {graph : ImportGraph} {path done : List String}
    (finished : Finished graph done) : Progress graph path done done :=
  ⟨finished, fun _ member => member, fun _ member => .inl member⟩

theorem Progress.trans {graph : ImportGraph} {path first second third : List String}
    (before : Progress graph path first second) (after : Progress graph path second third) :
    Progress graph path first third where
  finished := after.finished
  keeps := fun node member => after.keeps node (before.keeps node member)
  avoids := fun node member => (after.avoids node member).elim (before.avoids node) .inr

/-- Searching one node after the other makes progress if searching each of them does. -/
theorem progress_foldlM {graph : ImportGraph} {path : List String}
    {search : List String → String → Except (List String) (List String)} {nodes : List String}
    (each : ∀ node ∈ nodes, ∀ {before after}, Finished graph before →
      search before node = .ok after → Progress graph path before after ∧ node ∈ after)
    {before after : List String} (finished : Finished graph before)
    (h : nodes.foldlM search before = .ok after) :
    Progress graph path before after ∧ ∀ node ∈ nodes, node ∈ after := by
  induction nodes generalizing before with
  | nil =>
    cases h
    exact ⟨.refl finished, fun _ member => nomatch member⟩
  | cons node nodes ih =>
    rw [List.foldlM_cons] at h
    cases searched : search before node with
    | error cycle => simp [searched, bind, Except.bind] at h
    | ok next =>
      simp only [searched, bind, Except.bind] at h
      obtain ⟨now, reached⟩ := each node List.mem_cons_self finished searched
      obtain ⟨later, others⟩ :=
        ih (fun other member => each other (List.mem_cons_of_mem node member)) now.finished h
      refine ⟨now.trans later, fun other member => ?_⟩
      rcases List.mem_cons.1 member with rfl | member
      · exact later.keeps _ reached
      · exact others other member

/-- The search from a node finishes it. The fuel outlasts any path, because a path holds no node
twice. -/
theorem progress_visit {graph : ImportGraph} (wf : graph.WellFormed) {fuel : Nat}
    {path before after : List String} {node : String} (member : node ∈ graph.names)
    (nodup : path.Nodup) (inside : path ⊆ graph.names)
    (enough : graph.names.length < fuel + path.length) (finished : Finished graph before)
    (h : graph.visit fuel path before node = .ok after) :
    Progress graph path before after ∧ node ∈ after := by
  induction fuel generalizing path before after node with
  | zero =>
    -- A path as long as the fuel would hold a node twice.
    have bound : path.length ≤ graph.names.length := (nodup.subperm inside).length_le
    omega
  | succ fuel ih =>
    rw [visit] at h
    split at h
    · cases h
    · next notOnPath =>
      have open_ : node ∉ path := by simpa using notOnPath
      split at h
      · next known =>
        cases h
        exact ⟨.refl finished, by simpa using known⟩
      · next unknown =>
        cases searched : (graph.imports node).foldlM (graph.visit fuel (node :: path)) before with
        | error cycle => simp [searched, bind, Except.bind] at h
        | ok done =>
          simp only [searched, bind, Except.bind, pure, Except.pure, Except.ok.injEq] at h
          subst h
          -- The node itself is on the path below, so the search there cannot finish it.
          have below : ∀ target ∈ graph.imports node, ∀ {before after}, Finished graph before →
              graph.visit fuel (node :: path) before target = .ok after →
              Progress graph (node :: path) before after ∧ target ∈ after := by
            intro target edge before after finished
            refine ih (wf.closed edge) (List.nodup_cons.2 ⟨open_, nodup⟩) ?_ ?_ finished
            · exact List.cons_subset.2 ⟨member, inside⟩
            · rw [List.length_cons]
              omega
          obtain ⟨progress, imported⟩ := progress_foldlM below finished searched
          have fresh : node ∉ done := fun found =>
            (progress.avoids node found).elim (by simpa using unknown) (· List.mem_cons_self)
          refine ⟨⟨.cons fresh imported progress.finished, ?_, ?_⟩, List.mem_cons_self⟩
          · exact fun other old => List.mem_cons_of_mem node (progress.keeps other old)
          · intro other found
            rcases List.mem_cons.1 found with rfl | found
            · exact .inr open_
            · exact (progress.avoids other found).imp_right
                fun off onPath => off (List.mem_cons_of_mem node onPath)

/-- Without a cycle, the nodes can be finished in some order. -/
theorem finished_of_findCycle?_eq_none {graph : ImportGraph} (wf : graph.WellFormed)
    (acyclic : graph.findCycle? = none) :
    ∃ done, Finished graph done ∧ ∀ node ∈ graph.names, node ∈ done := by
  rw [findCycle?] at acyclic
  split at acyclic
  · cases acyclic
  · next done searched =>
    have each : ∀ node ∈ graph.names, ∀ {before after}, Finished graph before →
        graph.visit (graph.nodes.length + 1) [] before node = .ok after →
        Progress graph [] before after ∧ node ∈ after := by
      intro node member before after finished
      refine progress_visit wf member List.nodup_nil (List.nil_subset _) ?_ finished
      simp [names]
    obtain ⟨progress, all⟩ := progress_foldlM each .nil searched
    exact ⟨done, progress.finished, all⟩

/-- What is finished imports only what is finished. -/
theorem Finished.closed {graph : ImportGraph} {done : List String} (finished : Finished graph done)
    {source target : String} (member : source ∈ done) (edge : target ∈ graph.imports source) :
    target ∈ done := by
  induction finished with
  | nil => cases member
  | cons _ imports _ ih =>
    rcases List.mem_cons.1 member with rfl | member
    · exact List.mem_cons_of_mem _ (imports target edge)
    · exact List.mem_cons_of_mem _ (ih member)

/-- The rank of a node: how much was finished when it was, itself included. -/
def rank (done : List String) (node : String) : Nat := (done.dropWhile (· != node)).length

theorem rank_cons_self (node : String) (done : List String) :
    rank (node :: done) node = done.length + 1 := by
  simp [rank]

theorem rank_cons_of_ne {node other : String} (distinct : node ≠ other) (done : List String) :
    rank (node :: done) other = rank done other := by
  simp [rank, distinct]

theorem rank_le_length (done : List String) (node : String) : rank done node ≤ done.length :=
  (List.dropWhile_sublist _).length_le

theorem Finished.rank_lt {graph : ImportGraph} {done : List String} (finished : Finished graph done)
    {source target : String} (member : source ∈ done) (edge : target ∈ graph.imports source) :
    rank done target < rank done source := by
  induction finished with
  | nil => cases member
  | @cons node done fresh imports earlier ih =>
    have skips : ∀ {other}, other ∈ done → rank (node :: done) other = rank done other := by
      intro other found
      exact rank_cons_of_ne (ne_of_mem_of_not_mem found fresh).symm done
    -- A target is finished before its source, so the head of the list is never the target.
    rcases List.mem_cons.1 member with rfl | member
    · rw [rank_cons_self, skips (imports target edge)]
      have bound := rank_le_length done target
      omega
    · rw [skips member, skips (earlier.closed member edge)]
      exact ih member

/-- A graph that passes the check has its nodes ranked by their imports. -/
theorem ranking_of_check {graph : ImportGraph} (wf : graph.WellFormed)
    (passed : graph.check = .ok ()) :
    ∃ rank : String → Nat, ∀ {source target}, source ∈ graph.names →
      target ∈ graph.imports source → rank target < rank source := by
  have acyclic : graph.findCycle? = none := by
    rw [check] at passed
    split at passed
    · cases passed
    · assumption
  obtain ⟨done, finished, all⟩ := finished_of_findCycle?_eq_none wf acyclic
  exact ⟨rank done, fun member edge => finished.rank_lt (all _ member) edge⟩

end Bindings.ImportGraph
