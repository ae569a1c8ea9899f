import Bindings.Emission.Output
import Bindings.Proofs.Emission.Packages
import Bindings.Proofs.Resolution.Targets

/-! Why generation may still fail once the graph of a protocol is built.

All references have been read by then. Each later stage reads some of them again, and none of them
can be the reason for a failure.
-/

set_option autoImplicit false

namespace Bindings

open Emission
open Go (NameScope)

variable {σ α β : Type}

def Reads (result : Except Error α) : Prop :=
  ∀ owner raw, result ≠ .error (.invalidReference owner raw)

/-- The graph reads all references of all domains. -/
theorem resolves_of_ofProtocol {protocol : Protocol} {graph : ImportGraph}
    (built : ImportGraph.ofProtocol protocol = .ok graph) :
    ∀ domain ∈ protocol.domains, ∀ raw ∈ domain.references, ∃ reference,
      Reference.resolve raw domain.name = .ok reference := by
  intro domain member raw inside
  obtain ⟨-, covers⟩ := ImportGraph.ofProtocol_eq_ok built
  obtain ⟨reference, admits⟩ := (covers domain member).2 raw inside
  exact ⟨reference, admits.resolved⟩

namespace Reads

theorem ok (a : α) : Reads (.ok a) := by
  intro owner raw same
  cases same

theorem error {e : Error} (other : ∀ owner raw, e ≠ .invalidReference owner raw) :
    Reads (.error e : Except Error α) := by
  intro owner raw same
  exact other owner raw (Except.error.inj same)

theorem bind {x : Except Error α} {f : α → Except Error β} (first : Reads x)
    (later : ∀ a, x = .ok a → Reads (f a)) : Reads (x >>= f) := by
  intro owner raw failed
  rcases bind_eq_error.1 failed with failed | ⟨a, done, failed⟩
  · exact first owner raw failed
  · exact later a done owner raw failed

theorem thread {step : σ → α → Except Error (σ × β)} {first : σ} {xs : List α}
    (each : ∀ s, ∀ x ∈ xs, Reads (step s x)) : Reads (Bindings.thread step first xs) := by
  intro owner raw failed
  obtain ⟨s, x, member, failed⟩ := thread_error failed
  exact each s x member owner raw failed

theorem foldlM {step : σ → α → Except Error σ} {first : σ} {xs : List α}
    (each : ∀ s, ∀ x ∈ xs, Reads (step s x)) : Reads (xs.foldlM step first) := by
  induction xs generalizing first with
  | nil => exact ok first
  | cons x xs ih =>
    rw [List.foldlM_cons]
    refine bind (each first x List.mem_cons_self) fun s _ => ?_
    exact ih fun s y member => each s y (List.mem_cons_of_mem x member)

theorem mapM {f : α → Except Error β} {xs : List α} (each : ∀ x ∈ xs, Reads (f x)) :
    Reads (xs.mapM f) := by
  induction xs with
  | nil => exact ok []
  | cons x xs ih =>
    rw [List.mapM_cons]
    refine bind (each x List.mem_cons_self) fun y _ => ?_
    exact bind (ih fun z member => each z (List.mem_cons_of_mem x member)) fun ys _ => ok _

theorem declare (scope : NameScope) (ident : String) : Reads (scope.declare ident) := by
  intro owner raw failed
  rw [NameScope.declare] at failed
  split at failed <;> cases failed

theorem declareAll (scope : NameScope) (idents : List String) : Reads (scope.declareAll idents) :=
  foldlM fun scope ident _ => declare scope ident

theorem shape (node : TypeNode) (domain : String) : Reads (node.shape domain) := by
  intro owner raw failed
  rw [TypeNode.shape] at failed
  split at failed
  · cases failed
  · split at failed
    · cases failed
    · split at failed
      · cases failed
      · split at failed
        · cases failed
        · split at failed <;> cases failed

theorem optionally {emit : NameScope → Except Error (NameScope × Chunk)} {scope : NameScope}
    {has : Bool} {later : NameScope × Chunk → Except Error β} (first : Reads (emit scope))
    (rest : ∀ emitted, Reads (later emitted)) :
    Reads (if has = true then emit scope >>= later else .ok (scope, {}) >>= later) := by
  cases has with
  | true => exact bind first fun emitted _ => rest emitted
  | false => exact rest (scope, {})

section Use

variable {site : Site} {references : List String}

theorem referenceUse {raw : String}
    (resolves : ∃ reference, Reference.resolve raw site.domain = .ok reference) :
    Reads (site.referenceUse raw) := by
  obtain ⟨reference, resolved⟩ := resolves
  rw [Site.referenceUse]
  split
  · exact error fun _ _ => Error.noConfusion
  · rw [resolved]
    refine bind (ok reference) fun _ _ => ?_
    dsimp only
    split <;> exact ok _

theorem fieldUses {owner : String} {scope : NameScope} {nodes : List TypeNode}
    (each : ∀ node ∈ nodes, Reads (site.use node)) : Reads (site.fieldUses owner scope nodes) := by
  induction nodes generalizing scope with
  | nil => exact ok _
  | cons node nodes ih =>
    refine bind (declare scope node.fieldIdent) fun next _ => ?_
    refine bind (each node List.mem_cons_self) fun use _ => ?_
    refine bind (ih fun other member => ?_) fun _ _ => ok _
    exact each other (List.mem_cons_of_mem node member)

variable (resolves : ∀ raw ∈ references, ∃ reference,
  Reference.resolve raw site.domain = .ok reference)

include resolves

theorem use {node : TypeNode} (sub : node.references ⊆ references) : Reads (site.use node) := by
  induction node using TypeNode.induction with
  | inherits node ofItem ofProperty =>
    obtain ⟨id, name, kind, reference, items, properties, literals, optional, deprecated,
      experimental, description⟩ := node
    rw [Site.use]
    refine bind (shape _ site.domain) fun found shaped => ?_
    cases found with
    | reference =>
      obtain ⟨raw, same⟩ := TypeNode.reference_of_shape shaped
      cases same
      exact referenceUse (resolves raw (sub (TypeNode.mem_references_self rfl)))
    | sequence =>
      refine bind ?_ fun element _ => ?_
      · cases items with
        | none => exact ok none
        | some item =>
          have inner := ofItem item rfl fun raw inside =>
            sub (TypeNode.mem_references_item rfl inside)
          exact bind inner fun _ _ => ok _
      · cases element with
        | none => exact error fun _ _ => Error.noConfusion
        | some element => exact ok _
    | record =>
      refine bind (fieldUses fun property member => ?_) fun _ _ => ok _
      exact ofProperty property member fun raw inside =>
        sub (TypeNode.mem_references_property member inside)
    | _ => exact ok _

theorem structFields {nodes : List TypeNode} {owner : String}
    (sub : TypeNode.listReferences nodes ⊆ references) : Reads (site.structFields nodes owner) :=
  fieldUses fun _ member => use resolves fun _ inside =>
    sub (TypeNode.references_subset member inside)

theorem definition {node : TypeNode} {ident : String} {doc : Go.Doc} {scope : NameScope}
    (sub : node.references ⊆ references) : Reads (site.definition node ident doc scope) := by
  refine bind (shape node site.domain) fun found _ => ?_
  cases found with
  | enumeration =>
    refine bind ?_ fun _ _ => ok _
    rw [Site.declareEnum]
    split
    · exact error fun _ _ => Error.noConfusion
    · exact declareAll _ _
  | timestamp unit => exact ok _
  | raw => exact ok _
  | record =>
    have inner := List.Subset.trans node.properties_references_subset sub
    exact bind (structFields resolves inner) fun _ _ => ok _
  | _ => exact bind (use resolves sub) fun _ _ => ok _

theorem structDecl {scope : NameScope} {ident doc : String} {nodes : List TypeNode}
    (sub : TypeNode.listReferences nodes ⊆ references) :
    Reads (site.structDecl scope ident doc nodes) :=
  bind (declare scope ident) fun _ _ => bind (structFields resolves sub) fun _ _ => ok _

theorem arguments {domain : Domain} {command : Command} {scope : NameScope}
    (sub : TypeNode.listReferences command.parameters ⊆ references) :
    Reads (site.arguments domain command scope) := by
  have within {p : TypeNode → Bool} : ∀ node ∈ command.parameters.filter p,
      node.references ⊆ references := fun node member raw inside =>
    sub (TypeNode.references_subset (List.mem_filter.1 member).1 inside)
  refine bind (structDecl resolves sub) fun struct _ => ?_
  refine bind (declare _ _) fun scope _ => ?_
  refine bind (mapM fun node member => ?_) fun required _ => ?_
  · exact bind (use resolves (within node member)) fun _ _ => ok _
  · refine bind (thread fun methods node member => ?_) fun _ _ => ok _
    refine bind (declare methods _) fun _ _ => ?_
    exact bind (use resolves (within node member)) fun _ _ => ok _

theorem commandTypes {domain : Domain} {command : Command} {scope : NameScope}
    (parameters : TypeNode.listReferences command.parameters ⊆ references)
    (returns : TypeNode.listReferences command.returns ⊆ references) :
    Reads (site.commandTypes domain scope command) := by
  have reply (scope : NameScope) : Reads (site.reply domain command scope) :=
    structDecl resolves returns
  unfold Site.commandTypes
  refine optionally (arguments resolves parameters) fun emitted => ?_
  exact optionally (reply emitted.1) fun _ => ok _

theorem eventTypes {domain : Domain} {event : Event} {scope : NameScope}
    (sub : TypeNode.listReferences event.parameters ⊆ references) :
    Reads (site.eventTypes domain scope event) :=
  bind (declareAll _ _) fun _ _ => bind (structFields resolves sub) fun _ _ => ok _

end Use

theorem typeStep {site : Site} {state : SharedPackage × NameScope} {node : TypeNode}
    (resolves : ∀ raw ∈ node.references, ∃ reference,
      Reference.resolve raw site.domain = .ok reference) : Reads (site.typeStep state node) := by
  have within := List.Subset.refl node.references
  refine bind (bind (declare _ _) fun scope _ => ?_) fun emitted _ => ?_
  · split
    · exact ok _
    · exact definition resolves within
  · refine bind ?_ fun _ _ => ok _
    rw [Site.share]
    split
    · exact ok _
    · refine bind (declare _ _) fun _ _ => ?_
      refine bind ?_ fun _ _ => ok _
      -- The shared site reads references for the same domain.
      exact definition (by exact resolves) within

theorem domainPackage {root : String} {exemptions : Exemptions} {shared : SharedPackage}
    {domain : Domain} (resolves : ∀ raw ∈ domain.references, ∃ reference,
      Reference.resolve raw domain.name = .ok reference) :
    Reads (Emission.domainPackage root exemptions shared domain) := by
  have within : ∀ raw ∈ domain.references, ∃ reference,
      Reference.resolve raw (domainSite root exemptions domain).domain = .ok reference := resolves
  refine bind (declareAll _ _) fun scope _ => ?_
  refine bind ?_ fun ⟨⟨shared, declared⟩, types⟩ _ => ?_
  · refine thread fun state node member => typeStep fun raw inside => resolves raw ?_
    exact Domain.mem_references.2 ⟨node, Domain.mem_nodes_type member, inside⟩
  refine bind ?_ fun ⟨commanded, commands⟩ _ => ?_
  · refine thread fun scope command member => commandTypes within ?_ ?_
    · exact Domain.references_subset fun node => Domain.mem_nodes_parameter member
    · exact Domain.references_subset fun node => Domain.mem_nodes_return member
  refine bind ?_ fun ⟨evented, events⟩ _ => ?_
  · refine thread fun scope event member => eventTypes within ?_
    exact Domain.references_subset fun node => Domain.mem_nodes_event member
  refine bind ?_ fun ⟨methods, invocations⟩ _ => ?_
  · refine thread fun methods command _ => ?_
    exact bind (declare _ _) fun _ _ => ok _
  refine bind ?_ fun _ _ => ok _
  refine thread fun scopes event _ => ?_
  exact bind (declare _ _) fun _ _ => bind (declare _ _) fun _ _ => ok _

theorem exemptions (protocol : Protocol) : Reads (Exemptions.ofProtocol protocol) := by
  refine bind (foldlM fun found domain _ => foldlM fun found node _ => ?_) fun _ _ => ok _
  rw [Exemptions.addType]
  split
  · exact ok _
  · exact bind (shape node _) fun _ _ => ok _

theorem rootFiles (root : String) (version : Option Version) (domains : List Domain) :
    Reads (Emission.rootFiles root version domains) := by
  refine bind ?_ fun ⟨started, client⟩ _ => ?_
  · exact bind (declareAll _ _) fun _ _ => ok _
  refine bind ?_ fun ⟨contracted, contracts⟩ _ => ?_
  · refine bind ?_ fun _ _ => ok _
    refine thread fun scope domain _ => ?_
    exact bind (declare _ _) fun _ _ => bind (declareAll _ _) fun _ _ => ok _
  refine bind ?_ fun ⟨named, names⟩ _ => ?_
  · exact bind (declareAll _ _) fun _ _ => ok _
  refine bind ?_ fun _ _ => ok _
  exact bind (declare _ _) fun _ _ => ok _

theorem check (graph : ImportGraph) : Reads graph.check := by
  rw [ImportGraph.check]
  split
  · exact error fun _ _ => Error.noConfusion
  · exact ok ()

theorem emitDomains {protocol : Protocol} {root : String} {exemptions : Exemptions}
    (resolves : ∀ domain ∈ protocol.domains, ∀ raw ∈ domain.references, ∃ reference,
      Reference.resolve raw domain.name = .ok reference) :
    Reads (Bindings.emitDomains protocol root exemptions) :=
  thread fun _ domain member => domainPackage (resolves domain (List.mem_mergeSort.1 member))

/-- Only the graph can find that a reference is malformed. -/
theorem generate {protocol : Protocol} {graph : ImportGraph}
    (built : ImportGraph.ofProtocol protocol = .ok graph) (root : String) :
    Reads (Bindings.generate protocol root) := by
  have resolves := resolves_of_ofProtocol built
  refine bind ?_ fun found _ => ?_
  · rw [prepare, built]
    refine bind (ok graph) fun graph _ => ?_
    exact bind (check graph) fun _ _ => exemptions protocol
  · refine bind (emitDomains resolves) fun emitted _ => ?_
    exact bind (rootFiles root _ _) fun _ _ => ok _

end Reads

end Bindings
