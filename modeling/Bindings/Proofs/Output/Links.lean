import Bindings.Proofs.Emission.Typing
import Bindings.Proofs.Output.Bundle
import Bindings.Proofs.Output.Failures
import Bindings.Proofs.Resolution.Redirects

/-! Every reference is linked to a declaration.

The identifier at a use and the one of the declaration are computed apart, the first from a raw
reference, the second from the declared type. They meet because the graph has found a declared type
for every reference, and because no domain and no type is declared twice.
-/

set_option autoImplicit false

namespace Bindings

open Emission
open Go (SourceFile TypeExpr)

/-- A reference of a domain and the type it is emitted as, with the declaration of that type: in
`types.go` of the domain itself or of the domain that the reference names, or in the shared one. -/
inductive Bundle.Links (bundle : Bundle) (root : String) (domain : Domain) (raw : String) :
    TypeExpr → Prop
  | own {files : DomainFiles} {name : String} {node : TypeNode}
      (parts : Reference.parts raw domain.name = (domain.name, name))
      (target : domain.type? name = some node) (package : (domain, files) ∈ bundle.packages)
      (declared : node.ident domain.name ∈ files.types.typeNames) :
      Links bundle root domain raw (.named (node.ident domain.name))
  | package {owner : Domain} {files : DomainFiles} {name : String} {node : TypeNode}
      (other : owner.name ≠ domain.name)
      (parts : Reference.parts raw domain.name = (owner.name, name))
      (target : owner.type? name = some node) (package : (owner, files) ∈ bundle.packages)
      (declared : node.ident owner.name ∈ files.types.typeNames) :
      Links bundle root domain raw
        (.imported (Imports.domain root owner.package) (node.ident owner.name))
  | shared {owner : Domain} {files : DomainFiles} {name ident : String} {node : TypeNode}
      (other : owner.name ≠ domain.name)
      (parts : Reference.parts raw domain.name = (owner.name, name))
      (target : owner.type? name = some node) (package : (owner, files) ∈ bundle.packages)
      (redirected : sharedIdent? owner.name name = some ident)
      (declared : ident ∈ bundle.sharedTypes.typeNames) :
      Links bundle root domain raw (.imported (Imports.internal root) ident)

section Declarations

variable {site : Site} {node : TypeNode} {scope next : Go.NameScope} {chunk : Chunk}

theorem Emission.Site.typeName_of_declared (h : site.declared scope node = .ok (next, chunk)) :
    ∃ item ∈ chunk.items, item.decl.typeName? = some (node.ident site.domain) := by
  obtain ⟨accepted, -, ⟨shared, -, -, rfl⟩ | ⟨-, defines⟩⟩ := declared_eq_ok h
  · exact ⟨_, List.mem_cons_self, rfl⟩
  · obtain ⟨type, found⟩ := defines.type
    exact ⟨_, found, rfl⟩

/-- Every type of a domain has its step. -/
theorem Emission.PackageRun.Succeeds.typeStep {run : PackageRun} {root : String}
    {exemptions : Exemptions} {before after : SharedPackage} {domain : Domain}
    (h : run.Succeeds root exemptions before after domain) (member : node ∈ domain.types) :
    ∃ s t chunk, (domainSite root exemptions domain).typeStep s node = .ok (t, chunk) ∧
      chunk.items ⊆ (run.files root domain).types.items ∧
      t.1.chunk.items ⊆ after.chunk.items := by
  obtain ⟨chunk, found, s, t, step, later⟩ := exists_of_mem_left h.typeSteps.2 member
  exact ⟨s, t, chunk, step, Chunk.items_subset_concat found, later⟩

/-- A type that is not shared is defined in its own package. -/
theorem Emission.PackageRun.Succeeds.defines {run : PackageRun} {root : String}
    {exemptions : Exemptions} {before after : SharedPackage} {domain : Domain}
    (h : run.Succeeds root exemptions before after domain) (member : node ∈ domain.types)
    (alone : sharedIdent? domain.name (node.id.getD "") = none) :
    ∃ accepted next chunk,
      (domainSite root exemptions domain).Defines node (node.ident domain.name)
        (typeDoc node (node.ident domain.name)) accepted next chunk ∧
      chunk.items ⊆ (run.files root domain).types.items := by
  obtain ⟨s, t, chunk, step, sub, -⟩ := h.typeStep member
  obtain ⟨accepted, -, ⟨shared, present, -, -⟩ | ⟨-, defines⟩⟩ :=
    Site.declared_eq_ok (Site.typeStep_eq_ok step).1
  · rw [domainSite, alone] at present
    cases present
  · exact ⟨accepted, t.2, chunk, defines, sub⟩

theorem Domain.type?_eq_some {domain : Domain} {name : String} {node : TypeNode}
    (h : domain.type? name = some node) : node ∈ domain.types ∧ node.id = some name := by
  exact ⟨List.mem_of_find?_eq_some h, by simpa using List.find?_some h⟩

end Declarations

namespace Bundle.Generated

variable {bundle : Bundle} {protocol : Protocol} {root : String} {graph : ImportGraph}
  {exemptions : Exemptions} {shared : SharedPackage} {files : List SourceFile}
  {domain owner : Domain}

/-- No two domains have the same name: their interfaces would share an identifier. -/
theorem eq_of_name (h : bundle.Generated protocol root graph exemptions shared)
    (first : domain ∈ protocol.domains) (second : owner ∈ protocol.domains)
    (same : domain.name = owner.name) : domain = owner := by
  refine List.inj_on_of_nodup_map h.idents_nodup first second ?_
  rw [Domain.ident, Domain.ident, same]

theorem run_of_package (h : bundle.Generated protocol root graph exemptions shared)
    {package : DomainFiles} (found : (owner, package) ∈ bundle.packages) :
    ∃ run : PackageRun, ∃ before after, run.Succeeds root exemptions before after owner ∧
      package = run.files root owner ∧ after.chunk.items ⊆ shared.chunk.items :=
  h.packages (owner, package) found

/-- The declaration of a type in its own package. -/
theorem typeName_mem (h : bundle.Generated protocol root graph exemptions shared)
    {package : DomainFiles} (found : (owner, package) ∈ bundle.packages) {node : TypeNode}
    (member : node ∈ owner.types) : node.ident owner.name ∈ package.types.typeNames := by
  obtain ⟨run, before, after, succeeds, rfl, -⟩ := h.run_of_package found
  obtain ⟨s, t, chunk, step, sub, -⟩ := succeeds.typeStep member
  obtain ⟨item, inside, declares⟩ := Site.typeName_of_declared (Site.typeStep_eq_ok step).1
  exact Go.SourceFile.mem_typeNames (sub inside) declares

/-- A shared type is defined in the shared package, from where its own domain declares it. -/
theorem shared_defines (h : bundle.Generated protocol root graph exemptions shared)
    {package : DomainFiles} (found : (owner, package) ∈ bundle.packages) {node : TypeNode}
    (member : node ∈ owner.types) {ident : String}
    (redirected : sharedIdent? owner.name (node.id.getD "") = some ident) :
    ∃ accepted next chunk,
      Site.Defines { domainSite root exemptions owner with shared := some ident } node ident
        (typeDoc node ident) accepted next chunk ∧
      chunk.items ⊆ bundle.sharedTypes.items := by
  obtain ⟨run, before, after, succeeds, -, later⟩ := h.run_of_package found
  obtain ⟨s, t, chunk, step, -, kept⟩ := succeeds.typeStep member
  rcases Site.share_eq_ok (Site.typeStep_eq_ok step).2 with
    ⟨absent, -⟩ | ⟨ident', accepted, next, added, present, -, defines, same⟩
  · rw [domainSite, redirected] at absent
    cases absent
  · obtain rfl : ident = ident' := by
      rw [domainSite, redirected] at present
      exact Option.some.inj present
    refine ⟨accepted, next, added, defines, ?_⟩
    rw [h.sharedTypes]
    refine List.Subset.trans ?_ (List.Subset.trans kept later)
    rw [same]
    exact List.subset_append_right _ _

/-- The definition of a shared type in the shared package, which follows no reference. -/
theorem shared_mem (h : bundle.Generated protocol root graph exemptions shared)
    {package : DomainFiles} (found : (owner, package) ∈ bundle.packages) {node : TypeNode}
    (member : node ∈ owner.types) {ident : String}
    (redirected : sharedIdent? owner.name (node.id.getD "") = some ident) :
    ∃ doc type, ⟨.type doc ident type, true⟩ ∈ bundle.sharedTypes.items ∧
      Typed owner.name (fun _ _ => False) node type := by
  obtain ⟨accepted, next, chunk, defines, sub⟩ := h.shared_defines found member redirected
  -- The site of a shared definition rejects every reference.
  have defined : ∃ type, ⟨.type (typeDoc node ident).lines ident type, true⟩ ∈ chunk.items ∧
      Typed owner.name (fun _ _ => False) node type := by
    refine defines.typed ?_ (List.Subset.refl _)
    intro raw use _ used
    obtain ⟨alone, -⟩ := Site.referenceUse_eq_ok used
    cases alone
  obtain ⟨type, inside, typed⟩ := defined
  exact ⟨_, type, sub inside, typed⟩

theorem sharedTypes_nodup (h : bundle.Generated protocol root graph exemptions shared) :
    bundle.sharedTypes.names.Nodup := by
  rw [h.sharedTypes]
  exact Go.NameScope.nodup_of_declareAll_nil rfl h.sound.adds.declares

/-- A reference that emission follows is linked. -/
theorem links (h : bundle.Generated protocol root graph exemptions shared)
    (arranges : bundle.Arranges protocol files) (member : domain ∈ protocol.domains) {raw : String}
    (inside : raw ∈ domain.references) {use : TypeUse}
    (used : (domainSite root exemptions domain).referenceUse raw = .ok use) :
    bundle.Links root domain raw use.type := by
  have followed : ∃ reference, Reference.resolve raw domain.name = .ok reference ∧
      use.type = reference.type root := by
    obtain ⟨-, reference, resolved, rfl⟩ := Site.referenceUse_eq_ok used
    exact ⟨reference, resolved, rfl⟩
  obtain ⟨reference, resolved, same⟩ := followed
  rw [same]
  obtain ⟨-, covers⟩ := ImportGraph.ofProtocol_eq_ok h.built
  obtain ⟨found, admits⟩ := (covers domain member).2 raw inside
  obtain rfl : reference = found := Except.ok.inj (resolved.symm.trans admits.resolved)
  -- The declared type that the graph has found is the one whose step declares an identifier.
  obtain ⟨node, target⟩ := admits.declared
  obtain ⟨owner, declared, name, type⟩ := Protocol.owner_of_target target
  obtain ⟨ofOwner, id⟩ := Domain.type?_eq_some type
  obtain ⟨package, listed⟩ := arranges.exists_package declared
  have typeName := h.typeName_mem listed ofOwner
  have ident : node.ident owner.name =
      Name.withoutDomain (Name.exported reference.domain) (Name.exported reference.name) := by
    rw [TypeNode.ident, id, name, Option.getD_some]
  obtain ⟨parts, ⟨own, scope, spelled⟩ | ⟨other, scope, redirected⟩ | ⟨other, scope, spelled⟩⟩ :=
    Reference.resolve_cases resolved
  · obtain rfl : owner = domain := h.eq_of_name declared member (name.trans own)
    have named : reference.type root = .named (node.ident owner.name) := by
      rw [Reference.type, scope, ident, spelled, own]
    rw [named]
    exact .own (by rw [parts, own]) type listed typeName
  · have named : reference.type root = .imported (Imports.internal root) reference.ident := by
      rw [Reference.type, scope]
    have lookup : sharedIdent? owner.name reference.name = some reference.ident := by
      rw [name, redirected]
    obtain ⟨doc, definition, defined, -⟩ :=
      h.shared_mem listed ofOwner (by rw [id, Option.getD_some, lookup])
    rw [named]
    exact .shared (name ▸ other) (by rw [parts, name]) type listed lookup
      (Go.SourceFile.mem_typeNames defined rfl)
  · have named : reference.type root =
        .imported (Imports.domain root owner.package) (node.ident owner.name) := by
      rw [Reference.type, scope, ident, spelled, Domain.package, name]
    rw [named]
    exact .package (name ▸ other) (by rw [parts, name]) type listed typeName

end Bundle.Generated

def DeclaresStruct (domain : String) (link : String → TypeExpr → Prop) (nodes : List TypeNode)
    (ident : String) (file : SourceFile) : Prop :=
  ∃ doc fields, ⟨.type doc ident (.struct fields), true⟩ ∈ file.items ∧
    FieldsTyped domain link nodes fields

/-- All places of a domain package at which the type of a node is emitted. A shared type is a name
of the one definition in the shared package; every other one is declared in place. -/
structure Bundle.Linked (bundle : Bundle) (root : String) (domain : Domain) (files : DomainFiles) :
    Prop where
  types : ∀ node ∈ domain.types, sharedIdent? domain.name (node.id.getD "") = none →
    ∃ doc type, ⟨.type doc (node.ident domain.name) type, true⟩ ∈ files.types.items ∧
      Typed domain.name (bundle.Links root domain) node type
  aliases : ∀ node ∈ domain.types, ∀ ident,
    sharedIdent? domain.name (node.id.getD "") = some ident →
      (∃ doc, files.types.declaring (node.ident domain.name) =
        [.synonym doc (node.ident domain.name) (.imported (Imports.internal root) ident)]) ∧
      ∃ doc type, bundle.sharedTypes.declaring ident = [.type doc ident type] ∧
        Typed domain.name (fun _ _ => False) node type
  arguments : ∀ command ∈ domain.commands, command.hasArguments = true →
    DeclaresStruct domain.name (bundle.Links root domain) command.parameters command.arguments
      files.commands
  constructs : ∀ command ∈ domain.commands, command.hasArguments = true → ∃ f,
    ⟨.function f, true⟩ ∈ files.commands.items ∧ f.name = "New" ++ command.arguments ∧
      List.Forall₂ (fun node param => ∃ type, (param.type = type ∨ param.type = .pointer type) ∧
          Typed domain.name (bundle.Links root domain) node type)
        (command.parameters.filter (!·.optional)) f.signature.params
  setters : ∀ command ∈ domain.commands, ∀ node ∈ command.parameters, node.optional = true →
    ∃ f param, ⟨.function f, true⟩ ∈ files.commands.items ∧ f.name = "Set" ++ node.fieldIdent ∧
      f.owner? = some command.arguments ∧ f.signature.params = [param] ∧
      Typed domain.name (bundle.Links root domain) node param.type
  replies : ∀ command ∈ domain.commands, command.hasReply = true →
    DeclaresStruct domain.name (bundle.Links root domain) command.returns command.reply
      files.commands
  events : ∀ event ∈ domain.events,
    DeclaresStruct domain.name (bundle.Links root domain) event.parameters event.reply files.events

namespace Bundle.Generated

variable {bundle : Bundle} {protocol : Protocol} {root : String} {graph : ImportGraph}
  {exemptions : Exemptions} {shared : SharedPackage} {files : List SourceFile} {domain : Domain}
  {package : DomainFiles}

/-- A shared type has one declaration on either side: a name in its own package, and the definition
in the shared one. -/
theorem aliased (h : bundle.Generated protocol root graph exemptions shared)
    (found : (domain, package) ∈ bundle.packages) {node : TypeNode} (member : node ∈ domain.types)
    {ident : String} (redirected : sharedIdent? domain.name (node.id.getD "") = some ident) :
    (∃ doc, package.types.declaring (node.ident domain.name) =
        [.synonym doc (node.ident domain.name) (.imported (Imports.internal root) ident)]) ∧
      ∃ doc type, bundle.sharedTypes.declaring ident = [.type doc ident type] ∧
        Typed domain.name (fun _ _ => False) node type := by
  refine ⟨?_, ?_⟩
  · obtain ⟨run, before, after, succeeds, rfl, -⟩ := h.run_of_package found
    obtain ⟨s, t, chunk, step, sub, -⟩ := succeeds.typeStep member
    obtain ⟨accepted, -, ⟨ident', present, -, rfl⟩ | ⟨absent, -⟩⟩ :=
      Site.declared_eq_ok (Site.typeStep_eq_ok step).1
    · obtain rfl : ident = ident' := by
        rw [domainSite, redirected] at present
        exact Option.some.inj present
      exact ⟨_, succeeds.declaring_files List.mem_cons_self (sub List.mem_cons_self)
        List.mem_cons_self⟩
    · rw [domainSite, redirected] at absent
      cases absent
  · obtain ⟨doc, type, inside, typed⟩ := h.shared_mem found member redirected
    exact ⟨doc, type,
      Go.SourceFile.declaring_eq_singleton h.sharedTypes_nodup inside List.mem_cons_self, typed⟩

/-- All places of a package follow the references of its domain. -/
theorem linked (h : bundle.Generated protocol root graph exemptions shared)
    (arranges : bundle.Arranges protocol files) (found : (domain, package) ∈ bundle.packages) :
    bundle.Linked root domain package := by
  have member : domain ∈ protocol.domains := arranges.mem_domains found
  obtain ⟨run, before, after, succeeds, same, -⟩ := h.run_of_package found
  have follows : ∀ {raw use}, raw ∈ domain.references →
      (domainSite root exemptions domain).referenceUse raw = .ok use →
      bundle.Links root domain raw use.type :=
    fun inside used => h.links arranges member inside used
  have typed {node : TypeNode} {use : TypeUse} (inside : node ∈ domain.nodes)
      (used : (domainSite root exemptions domain).use node = .ok use) :
      Typed domain.name (bundle.Links root domain) node use.type :=
    (Site.typed_of_use follows).1 used (TypeNode.references_subset inside)
  have fieldsTyped {owner : String} {nodes : List TypeNode} {uses : FieldUses}
      (sub : nodes ⊆ domain.nodes)
      (fields : (domainSite root exemptions domain).structFields nodes owner = .ok uses) :
      FieldsTyped domain.name (bundle.Links root domain) nodes uses.fields :=
    (Site.typed_of_use follows).2 fields (TypeNode.listReferences_subset sub)
  refine ⟨?_, fun node inside ident => h.aliased found inside, ?_, ?_, ?_, ?_, ?_⟩
  · intro node inside alone
    obtain ⟨accepted, next, chunk, defines, sub⟩ := succeeds.defines inside alone
    obtain ⟨type, declared, typed⟩ :=
      defines.typed follows (TypeNode.references_subset (Domain.mem_nodes_type inside))
    exact ⟨_, type, same ▸ sub declared, typed⟩
  · intro command inside has
    obtain ⟨doc, uses, fields, declared⟩ := (succeeds.declaresCommand inside).arguments has
    rw [same]
    exact ⟨_, _, declared,
      fieldsTyped (fun node => Domain.mem_nodes_parameter inside) fields⟩
  · intro command inside has
    obtain ⟨required, each, declared⟩ := (succeeds.declaresCommand inside).constructs has
    rw [same]
    refine ⟨_, declared, rfl, ?_⟩
    have within := (List.forall₂_and_left _ _).2
      ⟨fun node (member : node ∈ command.parameters.filter (!·.optional)) =>
        Domain.mem_nodes_parameter inside (List.mem_filter.1 member).1, each⟩
    refine List.forall₂_map_right_iff.2 (List.forall₂_map_right_iff.2 (within.imp ?_))
    rintro node entry ⟨ofDomain, mapped⟩
    obtain ⟨use, used, rfl⟩ := Site.requiredParam_eq_ok mapped
    exact ⟨use.type, Site.fieldType_cases node _ use, typed ofDomain used⟩
  · intro command inside node parameter optional
    obtain ⟨use, used, declared⟩ :=
      (succeeds.declaresCommand inside).setters node parameter optional
    rw [same]
    exact ⟨_, _, declared, rfl, rfl, rfl, typed (Domain.mem_nodes_parameter inside parameter) used⟩
  · intro command inside has
    obtain ⟨doc, uses, fields, declared⟩ := (succeeds.declaresCommand inside).reply has
    rw [same]
    exact ⟨_, _, declared, fieldsTyped (fun node => Domain.mem_nodes_return inside) fields⟩
  · intro event inside
    obtain ⟨doc, uses, fields, declared⟩ := (succeeds.declaresEvent inside).reply
    rw [same]
    exact ⟨_, _, declared, fieldsTyped (fun node => Domain.mem_nodes_event inside) fields⟩

end Bundle.Generated

/-- With its graph built, a protocol has no reference that emission could fail to read; and all that
emission yields is linked. -/
theorem references_linked (protocol : Protocol) (root : String) :
    (∀ graph, ImportGraph.ofProtocol protocol = .ok graph →
      (∀ domain ∈ protocol.domains, ∀ raw ∈ domain.references, ∃ reference,
        Reference.resolve raw domain.name = .ok reference) ∧
      ∀ owner raw, generate protocol root ≠ .error (.invalidReference owner raw)) ∧
    ∀ files, generate protocol root = .ok files → ∃ bundle : Bundle,
      bundle.Arranges protocol files ∧
        ∀ entry ∈ bundle.packages, bundle.Linked root entry.1 entry.2 := by
  refine ⟨fun graph built => ⟨resolves_of_ofProtocol built, Reads.generate built root⟩, ?_⟩
  intro files generated
  obtain ⟨bundle, graph, exemptions, shared, arranges, comes⟩ := generate_eq_ok generated
  exact ⟨bundle, arranges, fun entry found => comes.linked arranges found⟩

theorem references_linked_sampleProtocol : ∃ files graph,
    generate sampleProtocol "r" = .ok files ∧
      ImportGraph.ofProtocol sampleProtocol = .ok graph ∧
      (∀ domain ∈ sampleProtocol.domains, ∀ raw ∈ domain.references, ∃ reference,
        Reference.resolve raw domain.name = .ok reference) ∧
      ∃ bundle : Bundle, bundle.Arranges sampleProtocol files ∧
        ∀ entry ∈ bundle.packages, bundle.Linked "r" entry.1 entry.2 := by
  obtain ⟨files, generated⟩ := sampleProtocol_generates
  obtain ⟨bundle, graph, exemptions, shared, -, comes⟩ := generate_eq_ok generated
  obtain ⟨reads, links⟩ := references_linked sampleProtocol "r"
  exact ⟨files, graph, generated, comes.built, (reads graph comes.built).1, links files generated⟩

end Bindings
