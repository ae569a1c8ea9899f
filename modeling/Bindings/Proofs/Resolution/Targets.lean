import Bindings.Proofs.Protocol.Nodes
import Bindings.Proofs.Resolution.Edges
import Bindings.Proofs.Threading

/-! What the graph of a protocol has established once it is built.

Every reference has been resolved and has a declared target, and where it leads to
another package there is an edge for it.
-/

set_option autoImplicit false

namespace Bindings

def Protocol.target? (protocol : Protocol) (reference : Reference) : Option TypeNode :=
  (protocol.domain? reference.domain).bind (·.type? reference.name)

namespace ImportGraph

/-- A reference that has passed: it resolves, its target is declared, and a target in another
package is behind an edge. -/
structure Admits (protocol : Protocol) (graph : ImportGraph) (domain raw : String)
    (reference : Reference) : Prop where
  resolved : Reference.resolve raw domain = .ok reference
  declared : ∃ node, protocol.target? reference = some node
  edge : ∀ package, reference.scope = .package package →
    reference.domain ∈ graph.imports domain

structure Grows (before after : ImportGraph) : Prop where
  wellFormed : before.WellFormed → after.WellFormed
  names : ∀ name ∈ before.names, name ∈ after.names
  imports : before.WellFormed → ∀ {source target}, target ∈ before.imports source →
    target ∈ after.imports source

theorem Grows.refl (graph : ImportGraph) : Grows graph graph :=
  ⟨id, fun _ member => member, fun _ _ _ edge => edge⟩

theorem Grows.trans {first second third : ImportGraph} (before : Grows first second)
    (after : Grows second third) : Grows first third where
  wellFormed wf := after.wellFormed (before.wellFormed wf)
  names name member := after.names name (before.names name member)
  imports wf _ _ edge := after.imports (before.wellFormed wf) (before.imports wf edge)

theorem grows_addDomain (graph : ImportGraph) (name : String) :
    Grows graph (graph.addDomain name) where
  wellFormed wf := wellFormed_addDomain wf name
  names _ member := names_addDomain.2 (.inr member)
  imports wf source target edge := by rwa [imports_addDomain wf]

theorem grows_addEdge (graph : ImportGraph) (source target : String) :
    Grows graph (graph.addEdge source target) where
  wellFormed wf := wellFormed_addEdge wf source target
  names _ member := names_addEdge.2 (.inr (.inr member))
  imports wf _ _ edge := (mem_imports_addEdge wf).2 (.inr edge)

theorem Admits.grows {protocol : Protocol} {before after : ImportGraph} {domain raw : String}
    {reference : Reference} (wf : before.WellFormed) (grown : Grows before after)
    (admits : Admits protocol before domain raw reference) :
    Admits protocol after domain raw reference :=
  ⟨admits.resolved, admits.declared,
    fun package scope => grown.imports wf (admits.edge package scope)⟩

section
variable {protocol : Protocol}

/-- A reference that can be added has a declared target, and only one that leads to another
package adds an edge. -/
theorem addReference_eq_ok {domain raw : String} {before after : ImportGraph}
    (h : addReference protocol domain before raw = .ok after) :
    ∃ reference node, Reference.resolve raw domain = .ok reference ∧
      protocol.target? reference = some node ∧
      ((∃ package, reference.scope = .package package) ∧
          after = before.addEdge domain reference.domain ∨
        (∀ package, reference.scope ≠ .package package) ∧ after = before) := by
  obtain ⟨reference, resolved, rest⟩ := bind_eq_ok.1 h
  rw [← Protocol.target?] at rest
  cases target : protocol.target? reference with
  | none =>
    simp only [target, Option.isNone_none, if_true] at rest
    cases rest
  | some node =>
    simp only [target, Option.isNone_some, Bool.false_eq_true, if_false] at rest
    refine ⟨reference, node, resolved, target, ?_⟩
    split at rest
    · next package scope => exact .inl ⟨⟨package, scope⟩, (pure_eq_ok.1 rest).symm⟩
    · next other => exact .inr ⟨other, (pure_eq_ok.1 rest).symm⟩

theorem admits_addReference {domain raw : String} {before after : ImportGraph}
    (wf : before.WellFormed) (h : addReference protocol domain before raw = .ok after) :
    Grows before after ∧ ∃ reference, Admits protocol after domain raw reference := by
  obtain ⟨reference, node, resolved, target, ⟨-, rfl⟩ | ⟨stays, rfl⟩⟩ := addReference_eq_ok h
  · refine ⟨grows_addEdge before domain reference.domain, reference, resolved, ⟨node, target⟩, ?_⟩
    exact fun _ _ => (mem_imports_addEdge wf).2 (.inl ⟨rfl, rfl⟩)
  · refine ⟨.refl _, reference, resolved, ⟨node, target⟩, ?_⟩
    exact fun package scope => absurd scope (stays package)

/-- Additions in turn: what each of them establishes still holds at the end. -/
private theorem additions_eq_ok {α : Type} (Established : ImportGraph → α → Prop)
    {add : ImportGraph → α → Except Error ImportGraph} {xs : List α}
    (stays : ∀ {before after x}, before.WellFormed → Grows before after → Established before x →
      Established after x)
    (adds : ∀ {before after x}, before.WellFormed → add before x = .ok after →
      Grows before after ∧ Established after x)
    {before after : ImportGraph} (wf : before.WellFormed) (h : xs.foldlM add before = .ok after) :
    Grows before after ∧ ∀ x ∈ xs, Established after x := by
  -- Every addition leads to a larger graph, in which what was established so far stays.
  induction xs generalizing before with
  | nil =>
    cases h
    exact ⟨.refl _, fun _ member => nomatch member⟩
  | cons x xs ih =>
    rw [List.foldlM_cons] at h
    obtain ⟨next, added, rest⟩ := bind_eq_ok.1 h
    obtain ⟨now, holds⟩ := adds wf added
    obtain ⟨later, others⟩ := ih (now.wellFormed wf) rest
    refine ⟨now.trans later, fun y member => ?_⟩
    rcases List.mem_cons.1 member with rfl | member
    · exact stays (now.wellFormed wf) later holds
    · exact others y member

/-- What is established for a domain: it is a node, and all of its references are admitted. -/
def Covers (protocol : Protocol) (graph : ImportGraph) (domain : Domain) : Prop :=
  domain.name ∈ graph.names ∧
    ∀ raw ∈ domain.references, ∃ reference, Admits protocol graph domain.name raw reference

theorem Covers.grows {before after : ImportGraph} {domain : Domain} (wf : before.WellFormed)
    (grown : Grows before after) (covers : Covers protocol before domain) :
    Covers protocol after domain := by
  refine ⟨grown.names _ covers.1, fun raw member => ?_⟩
  obtain ⟨reference, admits⟩ := covers.2 raw member
  exact ⟨reference, admits.grows wf grown⟩

theorem covers_addReferences {domain : Domain} {before after : ImportGraph}
    (wf : before.WellFormed) (h : addReferences protocol before domain = .ok after) :
    Grows before after ∧ Covers protocol after domain := by
  have begun := grows_addDomain before domain.name
  have each := additions_eq_ok
    (fun graph raw => ∃ reference, Admits protocol graph domain.name raw reference)
    (fun wf grown => fun ⟨reference, admits⟩ => ⟨reference, admits.grows wf grown⟩)
    admits_addReference (begun.wellFormed wf) h
  exact ⟨begun.trans each.1, each.1.names _ (names_addDomain.2 (.inl rfl)), each.2⟩

/-- The graph of a protocol is well formed and covers all of its domains. -/
theorem ofProtocol_eq_ok {graph : ImportGraph} (h : ofProtocol protocol = .ok graph) :
    graph.WellFormed ∧ ∀ domain ∈ protocol.domains, Covers protocol graph domain := by
  have whole := additions_eq_ok (Covers protocol) Covers.grows covers_addReferences
    wellFormed_empty h
  exact ⟨whole.1.wellFormed wellFormed_empty, whole.2⟩

end

end ImportGraph

/-- What resolving says about a reference: both halves are there, and only the first point divides
them. -/
theorem Reference.resolve_eq_ok {raw owner : String} {reference : Reference} :
    Reference.resolve raw owner = .ok reference ↔
      (parts raw owner).1 ≠ "" ∧ (parts raw owner).2 ≠ "" ∧
        '.' ∉ (parts raw owner).2.toList ∧
        reference = locate (parts raw owner).1 (parts raw owner).2 owner := by
  rw [resolve]
  split
  next domain name same =>
  rw [same]
  split
  · next bad =>
    simp only [Bool.or_eq_true, String.isEmpty_iff, List.contains_iff_mem] at bad
    simp only [reduceCtorEq, false_iff]
    rintro ⟨some_, some_', undivided, -⟩
    exact bad.elim (·.elim some_ some_') undivided
  · next good =>
    simp only [Bool.or_eq_true, String.isEmpty_iff, List.contains_iff_mem, not_or] at good
    simp [good, eq_comm]

/-- What a reference leads to, by where its type is found. -/
theorem Reference.locate_cases (domain name owner : String) :
    (domain = owner ∧ locate domain name owner =
      ⟨.own, Name.withoutDomain (Name.exported domain) (Name.exported name), domain, name⟩) ∨
    (domain ≠ owner ∧ (∃ shared, sharedFor? owner (domain ++ "." ++ name) = some shared ∧
      locate domain name owner = ⟨.shared, shared.ident, domain, name⟩)) ∨
    (domain ≠ owner ∧ sharedFor? owner (domain ++ "." ++ name) = none ∧
      locate domain name owner = ⟨.package (Name.package domain),
        Name.withoutDomain (Name.exported domain) (Name.exported name), domain, name⟩) := by
  rw [locate]
  split
  · next same => exact .inl ⟨same, rfl⟩
  · next other =>
    cases found : sharedFor? owner (domain ++ "." ++ name) with
    | some shared => exact .inr (.inl ⟨other, shared, rfl, rfl⟩)
    | none => exact .inr (.inr ⟨other, rfl, rfl⟩)

/-- The domain that declares the target of a reference. -/
theorem Protocol.owner_of_target {protocol : Protocol} {reference : Reference} {node : TypeNode}
    (h : protocol.target? reference = some node) :
    ∃ owner ∈ protocol.domains, owner.name = reference.domain ∧
      owner.type? reference.name = some node := by
  obtain ⟨owner, found, declared⟩ := Option.bind_eq_some_iff.1 h
  exact ⟨owner, List.mem_of_find?_eq_some found, by simpa using List.find?_some found, declared⟩

end Bindings
