import Bindings.Proofs.Emission.Packages

/-! What a package depends on outside its domain.

The other domains of a protocol reach a package through the exempt types alone, and only as far as its
references ask for them. The shared package is handed on from domain to domain, but no package reads it.
-/

set_option autoImplicit false

namespace Bindings

def Exemptions.AgreeOn (domain : String) (references : List String) (first second : Exemptions) :
    Prop :=
  ∀ raw ∈ references, ∀ reference, Reference.resolve raw domain = .ok reference →
    first.covers reference = second.covers reference

namespace Emission

open Go (NameScope)

namespace Site

def exempting (site : Site) (other : Exemptions) : Site := { site with exemptions := other }

variable {site : Site} {other : Exemptions}

theorem fieldUses_exempting {owner : String} {scope : NameScope} {nodes : List TypeNode}
    (each : ∀ node ∈ nodes, (site.exempting other).use node = site.use node) :
    (site.exempting other).fieldUses owner scope nodes = site.fieldUses owner scope nodes := by
  induction nodes generalizing scope with
  | nil => rfl
  | cons node nodes ih =>
    rw [fieldUses, fieldUses, each node List.mem_cons_self]
    refine bind_congr fun next => bind_congr fun use => ?_
    rw [ih fun later member => each later (List.mem_cons_of_mem node member)]

variable {references : List String}
  (agree : Exemptions.AgreeOn site.domain references site.exemptions other)

include agree

theorem referenceUse_exempting {raw : String} (member : raw ∈ references) :
    (site.exempting other).referenceUse raw = site.referenceUse raw := by
  obtain ⟨domain, root, exemptions, shared⟩ := site
  cases shared with
  | some ident => rfl
  | none =>
    rw [exempting, referenceUse, referenceUse]
    cases resolved : Reference.resolve raw domain with
    | error e => rfl
    | ok reference =>
      have same : exemptions.covers reference = other.covers reference :=
        agree raw member reference resolved
      simp only [bind, Except.bind, same]

theorem use_exempting {node : TypeNode} (sub : node.references ⊆ references) :
    (site.exempting other).use node = site.use node := by
  induction node using TypeNode.induction with
  | inherits node ofItem ofProperty =>
    obtain ⟨id, name, kind, reference, items, properties, literals, optional, deprecated,
      experimental, description⟩ := node
    rw [use, use]
    change (TypeNode.shape _ site.domain >>= _) = _
    cases shaped : TypeNode.shape _ site.domain with
    | error e => rfl
    | ok found =>
      cases found with
      | reference =>
        obtain ⟨raw, same⟩ := TypeNode.reference_of_shape shaped
        cases same
        exact referenceUse_exempting agree (sub (TypeNode.mem_references_self rfl))
      | sequence =>
        cases items with
        | none => rfl
        | some item =>
          have inner := ofItem item rfl fun raw inside =>
            sub (TypeNode.mem_references_item rfl inside)
          change (itemUse _ (some item) >>= _) = (itemUse _ (some item) >>= _)
          rw [itemUse, itemUse, inner]
          rfl
      | record =>
        have inner : (site.exempting other).fieldUses "" (fieldScope site.domain "") properties =
            site.fieldUses "" (fieldScope site.domain "") properties :=
          fieldUses_exempting fun property member => ofProperty property member fun raw inside =>
            sub (TypeNode.mem_references_property member inside)
        change ((site.exempting other).fieldUses "" (fieldScope site.domain "") properties >>= _) =
          (site.fieldUses "" (fieldScope site.domain "") properties >>= _)
        rw [inner]
      | _ => rfl

theorem structFields_exempting {nodes : List TypeNode} (owner : String)
    (sub : TypeNode.listReferences nodes ⊆ references) :
    (site.exempting other).structFields nodes owner = site.structFields nodes owner :=
  fieldUses_exempting fun _ member => use_exempting agree fun _ inside =>
    sub (TypeNode.references_subset member inside)

theorem definition_exempting {node : TypeNode} {ident : String} {doc : Go.Doc}
    {scope : NameScope} (sub : node.references ⊆ references) :
    (site.exempting other).definition node ident doc scope =
      site.definition node ident doc scope := by
  have fields := structFields_exempting agree ident
    (List.Subset.trans node.properties_references_subset sub)
  rw [definition, definition, use_exempting agree sub, fields]
  rfl

theorem declared_exempting {node : TypeNode} {scope : NameScope}
    (sub : node.references ⊆ references) :
    (site.exempting other).declared scope node = site.declared scope node := by
  rw [declared, declared]
  refine bind_congr fun accepted => ?_
  rw [definition_exempting agree sub]
  rfl

theorem structDecl_exempting {scope : NameScope} {ident doc : String} {nodes : List TypeNode}
    (sub : TypeNode.listReferences nodes ⊆ references) :
    (site.exempting other).structDecl scope ident doc nodes =
      site.structDecl scope ident doc nodes := by
  rw [structDecl, structDecl, structFields_exempting agree _ sub]

theorem arguments_exempting {domain : Domain} {command : Command} {scope : NameScope}
    (sub : TypeNode.listReferences command.parameters ⊆ references) :
    (site.exempting other).arguments domain command scope =
      site.arguments domain command scope := by
  have within {p : TypeNode → Bool} : ∀ node ∈ command.parameters.filter p,
      (site.exempting other).use node = site.use node := fun node member =>
    use_exempting agree fun raw inside =>
      sub (TypeNode.references_subset (List.mem_filter.1 member).1 inside)
  have required : (command.parameters.filter (!·.optional)).mapM
      ((site.exempting other).requiredParam command.arguments) =
        (command.parameters.filter (!·.optional)).mapM (site.requiredParam command.arguments) :=
    mapM_congr fun node member => by rw [requiredParam, requiredParam, within node member]
  have setters (methods : NameScope) : thread ((site.exempting other).setter command) methods
      (command.parameters.filter (·.optional)) =
        thread (site.setter command) methods (command.parameters.filter (·.optional)) :=
    thread_congr fun node member methods => by rw [setter, setter, within node member]
  rw [arguments, arguments, structDecl_exempting agree sub, required, setters]

theorem commandTypes_exempting {domain : Domain} {command : Command} {scope : NameScope}
    (parameters : TypeNode.listReferences command.parameters ⊆ references)
    (returns : TypeNode.listReferences command.returns ⊆ references) :
    (site.exempting other).commandTypes domain scope command =
      site.commandTypes domain scope command := by
  have reply : (site.exempting other).reply domain command = site.reply domain command :=
    funext fun scope => structDecl_exempting agree returns
  rw [commandTypes, commandTypes, arguments_exempting agree parameters, reply]

theorem eventTypes_exempting {domain : Domain} {event : Event} {scope : NameScope}
    (sub : TypeNode.listReferences event.parameters ⊆ references) :
    (site.exempting other).eventTypes domain scope event = site.eventTypes domain scope event := by
  rw [eventTypes, eventTypes, structFields_exempting agree _ sub]
  rfl

end Site

section Runs

variable {root : String} {domain : Domain} {first second : Exemptions} {run other : PackageRun}
  {before after before' after' : SharedPackage}

/-- The types of a run, without the shared package. -/
theorem PackageRun.Succeeds.declarations (h : run.Succeeds root first before after domain) :
    thread (domainSite root first domain).declared run.reserved domain.types =
      .ok (run.declared, run.types) :=
  thread_view Prod.snd (fun step => (Site.typeStep_eq_ok step).1) h.types

/-- Two runs for a domain, between any states of the shared package, emit the same files as soon as
the exempt types agree on the references of the domain. -/
theorem PackageRun.Succeeds.files_eq (h : run.Succeeds root first before after domain)
    (h' : other.Succeeds root second before' after' domain)
    (agree : first.AgreeOn domain.name domain.references second) :
    run.files root domain = other.files root domain := by
  have reserved : run.reserved = other.reserved :=
    Except.ok.inj (h.reserves.symm.trans h'.reserves)
  -- The second run emits where the first one does, with other types exempt.
  let site := domainSite root first domain
  have types : (run.declared, run.types) = (other.declared, other.types) := by
    have same : thread (site.exempting second).declared run.reserved domain.types =
        thread site.declared run.reserved domain.types := by
      refine thread_congr fun node member scope => site.declared_exempting agree fun raw inside => ?_
      exact Domain.mem_references.2 ⟨node, Domain.mem_nodes_type member, inside⟩
    exact Except.ok.inj
      (h.declarations.symm.trans (same.symm.trans (reserved ▸ h'.declarations)))
  obtain ⟨declared, types⟩ := Prod.mk.inj types
  have commands : (run.commanded, run.commands) = (other.commanded, other.commands) := by
    have same : thread ((site.exempting second).commandTypes domain) run.declared domain.commands =
        thread (site.commandTypes domain) run.declared domain.commands := by
      refine thread_congr fun command member scope => site.commandTypes_exempting agree ?_ ?_
      · exact Domain.references_subset fun node => Domain.mem_nodes_parameter member
      · exact Domain.references_subset fun node => Domain.mem_nodes_return member
    exact Except.ok.inj (h.commands.symm.trans (same.symm.trans (declared ▸ h'.commands)))
  obtain ⟨commanded, commands⟩ := Prod.mk.inj commands
  have events : (run.evented, run.events) = (other.evented, other.events) := by
    have same : thread ((site.exempting second).eventTypes domain) run.commanded domain.events =
        thread (site.eventTypes domain) run.commanded domain.events := by
      refine thread_congr fun event member scope => site.eventTypes_exempting agree ?_
      exact Domain.references_subset fun node => Domain.mem_nodes_event member
    exact Except.ok.inj (h.events.symm.trans (same.symm.trans (commanded ▸ h'.events)))
  rw [PackageRun.files, PackageRun.files, types, commands, (Prod.mk.inj events).2]

end Runs

end Emission

end Bindings
