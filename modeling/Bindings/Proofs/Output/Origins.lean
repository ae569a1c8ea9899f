import Bindings.Proofs.Emission.Holding
import Bindings.Proofs.Emission.Origins
import Bindings.Proofs.Output.Nullability

/-! Where the types that a bundle defines come from.

A type is known by the path of its package and its identifier. Each one that is defined somewhere comes
from a declared type, from a message, from a stream, from fixed source text, or is the client.
-/

set_option autoImplicit false

namespace Bindings

open Emission
open Go (Field SourceFile TypeExpr TypeName)

def Bundle.units (bundle : Bundle) (root : String) : List (String × List SourceFile) :=
  bundle.packages.map (fun entry => ((Imports.domain root entry.1.package).path, entry.2.list)) ++
    [((Imports.internal root).path, [bundle.sharedTypes, bundle.sharedErrors]),
     (root, bundle.top.list), ((Imports.testutil root).path, [bundle.transport])]

def Bundle.Defines (bundle : Bundle) (root : String) (name : TypeName) (type : TypeExpr) : Prop :=
  ∃ unit ∈ bundle.units root, unit.1 = name.path ∧
    ∃ file ∈ unit.2, (name.ident, type) ∈ file.definitions

def Bundle.Holds (bundle : Bundle) (root : String) (holder held : TypeName) : Prop :=
  ∃ type, bundle.Defines root holder type ∧ held ∈ type.held holder.path

def TypeNode.typeName (node : TypeNode) (root : String) (owner : Domain) : TypeName :=
  ⟨(Imports.domain root owner.package).path, node.ident owner.name⟩

@[simp] theorem TypeNode.typeName_path (node : TypeNode) (root : String) (owner : Domain) :
    (node.typeName root owner).path = (Imports.domain root owner.package).path := by
  rw [typeName]

@[simp] theorem TypeNode.typeName_ident (node : TypeNode) (root : String) (owner : Domain) :
    (node.typeName root owner).ident = node.ident owner.name := by
  rw [typeName]

/-- A name in the package of a domain that none of its declared types has. -/
structure Domain.Beside (domain : Domain) (root : String) (name : TypeName) : Prop where
  path : name.path = (Imports.domain root domain.package).path
  apart : ∀ node ∈ domain.types, node.ident domain.name ≠ name.ident

def Marked (ident : String) : Prop :=
  ∃ ending ∈ ["Args", "Reply", "Client"], ending.toList <:+ ident.toList

instance : DecidablePred Marked := fun _ => List.decidableBEx _ _

theorem marked_append {ending : String} (known : ending ∈ ["Args", "Reply", "Client"])
    (stem : String) : Marked (stem ++ ending) :=
  ⟨ending, known, stem.toList, String.toList_append.symm⟩

inductive Bundle.Origin (bundle : Bundle) (protocol : Protocol) (root : String) (name : TypeName)
    (type : TypeExpr) : Prop
  /-- A declared type is a name of a shared one, or is defined in place. -/
  | declared {owner : Domain} {node : TypeNode} (member : owner ∈ protocol.domains)
      (inside : node ∈ owner.types) (named : name = node.typeName root owner)
      (redirected : ∀ shared, sharedIdent? owner.name (node.id.getD "") = some shared →
        type = .imported (Imports.internal root) shared)
      (defined : sharedIdent? owner.name (node.id.getD "") = none →
        Defined protocol owner (bundle.Links root owner) node type)
  | message {owner : Domain} {nodes : List TypeNode} {fields : List Field}
      (member : owner ∈ protocol.domains) (beside : owner.Beside root name)
      (marked : Marked name.ident) (same : type = .struct fields)
      (expressed : FieldsExpressed protocol owner (bundle.Links root owner) .message nodes fields)
  | stream {owner : Domain} (member : owner ∈ protocol.domains) (beside : owner.Beside root name)
      (marked : Marked name.ident)
      (held : ∀ target ∈ type.held name.path, target = ⟨(Imports.rpcc root).path, "Stream"⟩)
  /-- The definition that a declared type is redirected to. -/
  | shared {owner : Domain} {node : TypeNode} (member : owner ∈ protocol.domains)
      (inside : node ∈ owner.types) (path : name.path = (Imports.internal root).path)
      (redirected : sharedIdent? owner.name (node.id.getD "") = some name.ident)
      (defined : Defined protocol owner (fun _ _ => False) node type)
  | fixed
      (path : name.path = (Imports.internal root).path ∨ name.path = (Imports.testutil root).path)
      (ident : name.ident ∈ ["OpError", "Transport", "codec", "pipe"])
      (held : ∀ target ∈ type.held name.path, target.ident ∈ predeclared ∨
        target ∈ [⟨"sync", "Mutex"⟩, ⟨"sync", "Once"⟩])
  | top (path : name.path = root) (ident : name.ident = "Client")
      (held : ∀ target ∈ type.held name.path,
        ∃ domain ∈ protocol.domains, target = ⟨root, domain.ident⟩)

namespace Bundle.Generated

variable {bundle : Bundle} {protocol : Protocol} {root : String} {graph : ImportGraph}
  {exemptions : Exemptions} {shared : SharedPackage} {files : List SourceFile} {domain : Domain}
  {package : DomainFiles} {file : SourceFile} {ident : String} {type : TypeExpr}

/-- What stands in another file of the package is named differently from all types. -/
theorem beside_of_other (h : bundle.Generated protocol root graph exemptions shared)
    (found : (domain, package) ∈ bundle.packages) (listed : file ∈ package.list.tail)
    (defined : (ident, type) ∈ file.definitions) :
    domain.Beside root ⟨(Imports.domain root domain.package).path, ident⟩ := by
  obtain ⟨run, before, after, succeeds, rfl, -⟩ := h.run_of_package found
  exact ⟨rfl, fun node inside => succeeds.ident_ne_of_other listed
    (SourceFile.mem_names_of_definition defined) inside⟩

section Package
variable (h : bundle.Generated protocol root graph exemptions shared)
  (arranges : bundle.Arranges protocol files) (found : (domain, package) ∈ bundle.packages)
include h arranges found

theorem origin_of_message {nodes : List TypeNode} (listed : file ∈ package.list.tail)
    (defined : (ident, type) ∈ file.definitions)
    (marked : Marked ident)
    (declares : DeclaresMessage protocol domain (bundle.Links root domain) nodes ident file) :
    bundle.Origin protocol root ⟨(Imports.domain root domain.package).path, ident⟩ type := by
  obtain ⟨doc, fields, declared, expressed⟩ := declares
  have only := SourceFile.definition_of_declaring declared defined
  exact .message (arranges.mem_domains found) (h.beside_of_other found listed defined)
    marked (Prod.mk.inj (List.mem_singleton.1 only)).2 expressed

theorem origin_of_client (defined : (ident, type) ∈ package.client.definitions) :
    bundle.Origin protocol root ⟨(Imports.domain root domain.package).path, ident⟩ type := by
  have listed : package.client ∈ package.list.tail := by simp [DomainFiles.list]
  have beside := h.beside_of_other found listed defined
  obtain ⟨run, before, after, succeeds, rfl, -⟩ := h.run_of_package found
  have inside : (ident, type) ∈ (clientChunk root domain).definitions := defined
  rw [definitions_clientChunk] at inside
  rcases List.mem_cons.1 inside with client | stream
  · obtain ⟨rfl, rfl⟩ := Prod.mk.inj client
    have marked : Marked "domainClient" := by decide
    refine .stream (arranges.mem_domains found) beside marked fun target held => ?_
    rw [TypeExpr.held, TypeExpr.held_pointer] at held
    cases held
  · obtain ⟨event, -, same⟩ := List.mem_map.1 stream
    obtain ⟨rfl, rfl⟩ := Prod.mk.inj same
    refine .stream (arranges.mem_domains found) beside (marked_append (by simp) _) fun target held => ?_
    rw [TypeExpr.held] at held
    exact TypeExpr.mem_held_imported.1 held

variable (plain : ∀ domain ∈ protocol.domains, '.' ∉ domain.name.toList)
include plain

theorem origin_of_types (defined : (ident, type) ∈ package.types.definitions) :
    bundle.Origin protocol root ⟨(Imports.domain root domain.package).path, ident⟩ type := by
  obtain ⟨run, before, after, succeeds, same, -⟩ := h.run_of_package found
  obtain ⟨node, inside, named, redirected⟩ := succeeds.definition_of_types (same ▸ defined)
  refine .declared (arranges.mem_domains found) inside (by rw [named]; rfl) redirected fun alone => ?_
  obtain ⟨doc, expr, declared, defines⟩ := (h.pointed arranges plain found).types node inside alone
  have only := SourceFile.definition_of_declaring declared (named ▸ defined)
  rw [(Prod.mk.inj (List.mem_singleton.1 only)).2]
  exact defines

theorem origin_of_package (listed : file ∈ package.list)
    (defined : (ident, type) ∈ file.definitions) :
    bundle.Origin protocol root ⟨(Imports.domain root domain.package).path, ident⟩ type := by
  have pointed := h.pointed arranges plain found
  obtain ⟨run, before, after, succeeds, same, -⟩ := h.run_of_package found
  simp only [DomainFiles.list, List.mem_cons, List.not_mem_nil, or_false] at listed
  rcases listed with rfl | rfl | rfl | rfl | rfl
  · exact h.origin_of_types arranges found plain defined
  · have listed : package.commands ∈ package.list.tail := by simp [DomainFiles.list]
    obtain ⟨command, inside, ⟨has, rfl⟩ | ⟨has, rfl⟩⟩ :=
      succeeds.definition_of_commands (same ▸ defined)
    · exact h.origin_of_message arranges found listed defined (marked_append (by simp) _)
        (pointed.arguments command inside has)
    · exact h.origin_of_message arranges found listed defined (marked_append (by simp) _)
        (pointed.replies command inside has)
  · have listed : package.events ∈ package.list.tail := by simp [DomainFiles.list]
    obtain ⟨event, inside, rfl⟩ := succeeds.definition_of_events (same ▸ defined)
    exact h.origin_of_message arranges found listed defined (marked_append (by simp) _)
      (pointed.events event inside)
  · exact h.origin_of_client arranges found defined
  · have inside : (ident, type) ∈ (testChunk root domain).definitions := by
      rw [same] at defined
      exact defined
    rw [definitions_testChunk] at inside
    cases inside

end Package

/-- Every shared definition is one that a declared type is redirected to. -/
theorem redirected_of_shared (h : bundle.Generated protocol root graph exemptions shared)
    (defined : (ident, type) ∈ bundle.sharedTypes.definitions) :
    ∃ owner ∈ protocol.domains, ∃ node ∈ owner.types,
      sharedIdent? owner.name (node.id.getD "") = some ident := by
  obtain ⟨lists, emitted⟩ := h.emitted
  rw [h.sharedTypes] at defined
  refine thread_invariant
    (I := fun s : SharedPackage => (ident, type) ∈ s.chunk.definitions →
      ∃ owner ∈ protocol.domains, ∃ node ∈ owner.types,
        sharedIdent? owner.name (node.id.getD "") = some ident)
    ?_ emitted (fun none_ => nomatch none_) defined
  intro before owner after list member step ih later
  obtain ⟨run, succeeds, -⟩ := domainPackage_eq_ok step
  rcases succeeds.definition_of_shared later with earlier | ⟨node, inside, redirected⟩
  · exact ih earlier
  · exact ⟨owner, List.mem_mergeSort.1 member, node, inside, redirected⟩

theorem origin_of_internal (h : bundle.Generated protocol root graph exemptions shared)
    (arranges : bundle.Arranges protocol files)
    (listed : file ∈ [bundle.sharedTypes, bundle.sharedErrors])
    (defined : (ident, type) ∈ file.definitions) :
    bundle.Origin protocol root ⟨(Imports.internal root).path, ident⟩ type := by
  simp only [List.mem_cons, List.not_mem_nil, or_false] at listed
  rcases listed with rfl | rfl
  · obtain ⟨owner, member, node, inside, redirected⟩ := h.redirected_of_shared defined
    obtain ⟨package, found⟩ := arranges.exists_package member
    obtain ⟨doc, expr, declared, defines⟩ := h.shared_defined found inside redirected
    have only := SourceFile.definition_of_declaring declared defined
    rw [(Prod.mk.inj (List.mem_singleton.1 only)).2]
    exact .shared member inside rfl redirected defines
  · have inside : (ident, type) ∈ opErrorSource.decl.definitions := by
      rw [h.sharedErrors] at defined
      simpa [SourceFile.definitions, opErrorFile] using defined
    rw [declares_opErrorSource.definitions] at inside
    obtain ⟨rfl, rfl⟩ := Prod.mk.inj (List.mem_singleton.1 inside)
    refine .fixed (.inl rfl) List.mem_cons_self fun target held => ?_
    simp only [TypeExpr.held, Field.listHeld, List.append_nil, List.mem_append,
      List.mem_singleton] at held
    rcases held with rfl | rfl | rfl <;> exact .inl (by simp [predeclared])

theorem origin_of_transport (h : bundle.Generated protocol root graph exemptions shared)
    (defined : (ident, type) ∈ bundle.transport.definitions) :
    bundle.Origin protocol root ⟨(Imports.testutil root).path, ident⟩ type := by
  have inside : (ident, type) ∈ transportSource.decl.definitions := by
    rw [h.transport] at defined
    simpa [SourceFile.definitions, transportFile, SourceFile.addImports, SourceFile.addImport]
      using defined
  rw [declares_transportSource.definitions] at inside
  simp only [List.mem_cons, List.not_mem_nil, or_false, Prod.mk.injEq] at inside
  rcases inside with ⟨rfl, rfl⟩ | ⟨rfl, rfl⟩ | ⟨rfl, rfl⟩ <;>
    refine .fixed (.inr rfl) (by simp) fun target held => ?_ <;>
    simp [TypeExpr.held, Field.listHeld] at held
  rcases held with rfl | rfl | rfl | rfl <;> simp [predeclared]

theorem origin_of_top (h : bundle.Generated protocol root graph exemptions shared)
    (listed : file ∈ bundle.top.list) (defined : (ident, type) ∈ file.definitions) :
    bundle.Origin protocol root ⟨root, ident⟩ type := by
  rw [h.top] at listed
  obtain ⟨rfl, rfl⟩ := definition_of_topFiles listed defined
  refine .top rfl rfl fun target held => ?_
  obtain ⟨field, inside, held⟩ := TypeExpr.mem_held_struct.1 held
  obtain ⟨domain, member, rfl⟩ := List.mem_map.1 inside
  exact ⟨domain, List.mem_mergeSort.1 member, TypeExpr.mem_held_named.1 held⟩

theorem origin (h : bundle.Generated protocol root graph exemptions shared)
    (arranges : bundle.Arranges protocol files)
    (plain : ∀ domain ∈ protocol.domains, '.' ∉ domain.name.toList) {name : TypeName}
    (defines : bundle.Defines root name type) : bundle.Origin protocol root name type := by
  obtain ⟨path, ident⟩ := name
  obtain ⟨⟨_, files⟩, listed, rfl, file, inside, defined⟩ := defines
  rcases List.mem_append.1 listed with package | single
  · obtain ⟨⟨domain, package⟩, found, same⟩ := List.mem_map.1 package
    cases same
    exact h.origin_of_package arranges found plain inside defined
  · simp only [List.mem_cons, List.not_mem_nil, or_false, Prod.mk.injEq] at single
    rcases single with ⟨rfl, rfl⟩ | ⟨rfl, rfl⟩ | ⟨rfl, rfl⟩
    · exact h.origin_of_internal arranges inside defined
    · exact h.origin_of_top inside defined
    · exact h.origin_of_transport (List.mem_singleton.1 inside ▸ defined)

end Bundle.Generated

end Bindings
