import Bindings.Protocol.Merge
import Mathlib.Data.List.Sort
import Mathlib.Data.String.Basic

/-! Merging documents at once or in stages.

The domains of merged documents are in the order of their names, and those of one name in the order
of the documents. Only one list is both, so what is merged first makes no difference.
-/

set_option autoImplicit false

namespace Bindings

/-- Domains in the order of the code points of their names, where those of one name stand as they
were given. -/
structure StablySorted (given sorted : List Domain) : Prop where
  ordered : sorted.Pairwise fun a b => a.name.toList ≤ b.name.toList
  permuted : sorted.Perm given
  kept : ∀ name, sorted.filter (·.name == name) = given.filter (·.name == name)

section Sorting

theorem name_le_trans (a b c : Domain) : decide (a.name ≤ b.name) = true →
    decide (b.name ≤ c.name) = true → decide (a.name ≤ c.name) = true := by
  simpa using le_trans

theorem name_le_total (a b : Domain) :
    (decide (a.name ≤ b.name) || decide (b.name ≤ a.name)) = true := by
  simpa using le_total a.name b.name

theorem sortByName_perm (domains : List Domain) : (sortByName domains).Perm domains :=
  List.mergeSort_perm domains _

theorem sortByName_pairwise (domains : List Domain) :
    (sortByName domains).Pairwise fun a b => a.name ≤ b.name := by
  have sorted := List.pairwise_mergeSort name_le_trans name_le_total domains
  exact sorted.imp of_decide_eq_true

/-- Domains that are in order stay as they are. -/
theorem sortByName_of_pairwise {domains : List Domain}
    (sorted : domains.Pairwise fun a b => a.name ≤ b.name) : sortByName domains = domains := by
  refine List.mergeSort_of_pairwise (sorted.imp ?_)
  intro a b le
  exact decide_eq_true le

/-- Sorting does not touch the order among the domains of one name. -/
theorem filter_sortByName (domains : List Domain) (name : String) :
    (sortByName domains).filter (·.name == name) = domains.filter (·.name == name) := by
  have alike : (domains.filter (·.name == name)).Pairwise
      fun a b => decide (a.name ≤ b.name) = true := by
    refine List.pairwise_of_forall_mem_list fun a left b right => ?_
    have same : a.name = b.name := by
      simp only [List.mem_filter, beq_iff_eq] at left right
      rw [left.2, right.2]
    exact decide_eq_true same.le
  have inside : (domains.filter (·.name == name)).Sublist (sortByName domains) :=
    List.sublist_mergeSort name_le_trans name_le_total alike List.filter_sublist
  -- Both lists hold the same domains, so the one inside the other is all of it.
  have held := inside.filter (·.name == name)
  rw [List.filter_filter] at held
  simp only [Bool.and_self] at held
  exact (held.eq_of_length ((sortByName_perm domains).filter _).length_eq.symm).symm

theorem stablySorted_sortByName (domains : List Domain) :
    StablySorted domains (sortByName domains) where
  ordered := (sortByName_pairwise domains).imp String.le_iff_toList_le.1
  permuted := sortByName_perm domains
  kept := filter_sortByName domains

theorem head_le_of_pairwise {x y : Domain} {rest : List Domain}
    (sorted : (x :: rest).Pairwise fun a b => a.name.toList ≤ b.name.toList)
    (member : y ∈ x :: rest) : x.name ≤ y.name := by
  rcases List.mem_cons.1 member with rfl | later
  · exact le_rfl
  · exact String.le_iff_toList_le.2 (List.rel_of_pairwise_cons sorted later)

/-- The order of the names and that among each name leave no choice. -/
theorem eq_of_ordered {first second : List Domain}
    (left : first.Pairwise fun a b => a.name.toList ≤ b.name.toList)
    (right : second.Pairwise fun a b => a.name.toList ≤ b.name.toList)
    (same : ∀ name, first.filter (·.name == name) = second.filter (·.name == name)) :
    first = second := by
  induction first generalizing second with
  | nil =>
    cases second with
    | nil => rfl
    | cons y second => simpa using same y.name
  | cons x first ih =>
    cases second with
    | nil => simpa using same x.name
    | cons y second =>
      -- Each of the two heads is somewhere in the other list, and so not before its head.
      have before : x.name ≤ y.name := by
        have member : y ∈ (x :: first).filter (·.name == y.name) := by simp [same]
        exact head_le_of_pairwise left (List.mem_filter.1 member).1
      have after : y.name ≤ x.name := by
        have member : x ∈ (y :: second).filter (·.name == x.name) := by simp [← same]
        exact head_le_of_pairwise right (List.mem_filter.1 member).1
      have heads : x = y := by
        have both := same x.name
        simp only [List.filter_cons, le_antisymm after before, beq_self_eq_true, if_true] at both
        exact (List.cons.inj both).1
      subst heads
      refine congrArg (x :: ·) (ih left.of_cons right.of_cons fun name => ?_)
      have both := same name
      rw [List.filter_cons, List.filter_cons] at both
      split at both
      · exact (List.cons.inj both).2
      · exact both

theorem stablySorted_iff {given sorted : List Domain} :
    StablySorted given sorted ↔ sorted = sortByName given := by
  constructor
  · intro h
    have other := stablySorted_sortByName given
    exact eq_of_ordered h.ordered other.ordered fun name => (h.kept name).trans (other.kept name).symm
  · rintro rfl
    exact stablySorted_sortByName given

/-- Parts may be sorted before the whole. -/
theorem sortByName_append (first second : List Domain) :
    sortByName (sortByName first ++ sortByName second) = sortByName (first ++ second) := by
  refine stablySorted_iff.1 ⟨?_, ?_, fun name => ?_⟩
  · exact (stablySorted_sortByName _).ordered
  · exact (sortByName_perm _).trans ((sortByName_perm first).append (sortByName_perm second))
  · rw [filter_sortByName, List.filter_append, filter_sortByName, filter_sortByName,
      List.filter_append]

end Sorting

namespace Protocol

/-- Among domains of one name, that of the first document which has it is found. -/
theorem domain?_merge (documents : List Protocol) (name : String) :
    (merge documents).domain? name = documents.findSome? (·.domain? name) := by
  rw [domain?, ← List.head?_filter, merge, filter_sortByName, List.head?_filter,
    List.find?_flatMap]
  rfl

theorem merge_append (first second : List Protocol) :
    merge (first ++ second) = merge [merge first, merge second] := by
  have versions : (first ++ second).findSome? (·.version) =
      [merge first, merge second].findSome? (·.version) := by
    rw [List.findSome?_append, List.findSome?_cons, List.findSome?_singleton]
    cases found : first.findSome? (·.version) <;> simp [merge, found]
  have domains : sortByName ((first ++ second).flatMap (·.domains)) =
      sortByName ([merge first, merge second].flatMap (·.domains)) := by
    rw [List.flatMap_append, ← sortByName_append]
    simp [merge]
  rw [merge, versions, domains]
  rfl

/-- Merged documents have the first version that is present and their domains stably sorted by name,
whether they are merged at once or in two parts. -/
theorem merge_stable (documents : List Protocol) :
    (∀ version, (merge documents).version = some version ↔
      ∃ before document after, documents = before ++ document :: after ∧
        document.version = some version ∧ ∀ earlier ∈ before, earlier.version = none) ∧
    (∀ domains, StablySorted (documents.flatMap (·.domains)) domains ↔
      domains = (merge documents).domains) ∧
    ∀ first second, merge (first ++ second) = merge [merge first, merge second] :=
  ⟨fun _ => List.findSome?_eq_some_iff, fun _ => stablySorted_iff, merge_append⟩

end Protocol

end Bindings
