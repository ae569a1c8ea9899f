import Bindings.Proofs.Name.Heads
import Bindings.Proofs.Output.Origins
import Bindings.Proofs.Output.Paths

/-! No type contains itself.

Only so many types are held one in another from a name that nothing defines, from a shared type, or
from a type whose zero value reads as absent. What is left are records of the domains, and one of these
holds another only by a reference that cannot be broken.
-/

set_option autoImplicit false

namespace Bindings

open Emission
open Go (SourceFile TypeExpr TypeName)

/-- The domains have package directories of their own, and none that declares types has that of the
shared types. -/
structure Protocol.Separate (protocol : Protocol) : Prop where
  packages : (protocol.domains.map Domain.package).Nodup
  internal : ∀ domain ∈ protocol.domains, domain.types ≠ [] → domain.package = "internal" →
    ¬ protocol.DeclaresShared

/-- From a name on, types are not held one in another without end. -/
def Bundle.Bounded (bundle : Bundle) (root : String) (name : TypeName) : Prop :=
  Acc (fun held holder => bundle.Holds root holder held) name

theorem Bundle.Bounded.not_loop {bundle : Bundle} {root : String} {name : TypeName}
    (bounded : bundle.Bounded root name) : ¬ Relation.TransGen (bundle.Holds root) name name := by
  induction bounded with
  | intro name _ ih =>
    intro loop
    obtain ⟨next, first, rest⟩ := Relation.TransGen.head'_iff.1 loop
    exact ih next first (Relation.TransGen.tail' rest first)

def Protocol.Resides (protocol : Protocol) (root : String) (name : TypeName)
    (declared : String × String) : Prop :=
  ∃ owner ∈ protocol.domains, owner.name = declared.1 ∧
    ∃ node ∈ owner.types, node.id = some declared.2 ∧
      sharedIdent? declared.1 declared.2 = none ∧ name = node.typeName root owner

section Paths
variable {root : String}

theorem package_of_path {first second : String}
    (same : (Imports.domain root first).path = (Imports.domain root second).path) :
    first = second := by
  simpa [Imports.domain] using same

/-- The packages below the root are not the root itself, nor that of the transport. -/
theorem path_ne_root (package : String) :
    (Imports.domain root package).path ≠ root ∧
      (Imports.domain root package).path ≠ (Imports.rpcc root).path := by
  constructor
  · intro same
    have := congrArg (fun path => path.toList.length) same
    simp [Imports.domain] at this
  · intro same
    have := congrArg String.toList same
    simp [Imports.domain, Imports.rpcc] at this

theorem path_testutil_ne_root :
    (Imports.testutil root).path ≠ root ∧ (Imports.testutil root).path ≠ (Imports.rpcc root).path := by
  constructor
  · intro same
    have := congrArg (fun path => path.toList.length) same
    simp [Imports.testutil] at this
  · intro same
    have := congrArg String.toList same
    simp [Imports.testutil, Imports.rpcc] at this

/-- No generated package below the root has the path of a standard one. -/
theorem path_ne_standard {path : String} (standard : path ∈ ["encoding/json", "sync"]) :
    (∀ package, (Imports.domain root package).path ≠ path) ∧ (Imports.testutil root).path ≠ path := by
  have apart : ∀ path ∈ ["encoding/json", "sync"], ¬ "/protocol/".toList <:+: path.toList ∧
      ¬ "/internal/testutil".toList <:+: path.toList := by decide
  obtain ⟨noProtocol, noTestutil⟩ := apart path standard
  constructor
  · rintro package rfl
    exact noProtocol ⟨root.toList, package.toList, by simp [Imports.domain]⟩
  · rintro rfl
    exact noTestutil ⟨root.toList, [], by simp [Imports.testutil]⟩

end Paths

namespace Protocol.Separate
variable {protocol : Protocol} {root : String} {domain owner : Domain} {node : TypeNode}
  (separate : protocol.Separate)
include separate

theorem eq_of_path (first : domain ∈ protocol.domains) (second : owner ∈ protocol.domains)
    (same : (Imports.domain root domain.package).path = (Imports.domain root owner.package).path) :
    domain = owner :=
  List.inj_on_of_nodup_map separate.packages first second (package_of_path same)

theorem path_ne_internal (member : domain ∈ protocol.domains) (inside : node ∈ domain.types)
    (declares : protocol.DeclaresShared) :
    (Imports.domain root domain.package).path ≠ (Imports.internal root).path := fun same =>
  separate.internal domain member (List.ne_nil_of_mem inside) (package_of_path same) declares

end Protocol.Separate

theorem not_capital_predeclared : ∀ ident ∈ predeclared, ¬ Name.Capital ident.toList := by decide

theorem not_marked_predeclared : ∀ ident ∈ predeclared, ¬ Marked ident := by decide

theorem sharedIdents_apart : ∀ ident ∈ sharedTypes.map (·.ident),
    ident ∉ predeclared ∧ ¬ Marked ident ∧ ident ∉ ["OpError", "Transport", "codec", "pipe"] := by
  decide

/-- What the generated types hold of other packages: predeclared types, types of the standard library
and of the transport, and the interfaces of the domains. -/
inductive Protocol.Foreign (protocol : Protocol) (root : String) (target : TypeName) : Prop
  | builtin (known : target.ident ∈ predeclared)
  | standard (path : target.path ∈ ["encoding/json", "sync"]) (other : target.ident ≠ "Client")
  | transport (same : target = ⟨(Imports.rpcc root).path, "Stream"⟩)
  | interface {domain : Domain} (member : domain ∈ protocol.domains)
      (same : target = ⟨root, domain.ident⟩)

theorem Protocol.Foreign.of_basic {protocol : Protocol} {root : String} {target : TypeName}
    (basic : target.Basic) : protocol.Foreign root target := by
  rcases basic with known | rfl
  · exact .builtin known
  · exact .standard List.mem_cons_self (by simp)

theorem Protocol.Foreign.of_fixed {protocol : Protocol} {root : String} {target : TypeName}
    (fixed : target.ident ∈ predeclared ∨ target ∈ [⟨"sync", "Mutex"⟩, ⟨"sync", "Once"⟩]) :
    protocol.Foreign root target := by
  rcases fixed with known | standard
  · exact .builtin known
  · simp only [List.mem_cons, List.not_mem_nil, or_false] at standard
    rcases standard with rfl | rfl <;> exact .standard (by simp) (by simp)

namespace Bundle

section Origins
variable {bundle : Bundle} {protocol : Protocol} {root : String} {name : TypeName} {type : TypeExpr}

theorem Origin.notMem_predeclared (origin : bundle.Origin protocol root name type) :
    name.ident ∉ predeclared := by
  intro known
  cases origin with
  | @declared owner node _ _ named =>
    have capital : Name.Capital name.ident.toList := by
      rw [named, TypeNode.typeName_ident]
      exact node.capital_ident owner.name
    exact not_capital_predeclared _ known capital
  | message _ _ marked => exact not_marked_predeclared _ known marked
  | stream _ _ marked => exact not_marked_predeclared _ known marked
  | shared _ _ _ redirected =>
    exact (sharedIdents_apart _ (mem_idents_of_sharedIdent? redirected)).1 known
  | fixed _ ident =>
    have apart : ∀ ident ∈ ["OpError", "Transport", "codec", "pipe"], ident ∉ predeclared := by
      decide
    exact apart _ ident known
  | top _ ident =>
    rw [ident] at known
    revert known
    decide

theorem Origin.path_cases (origin : bundle.Origin protocol root name type) :
    (∃ package, (Imports.domain root package).path = name.path) ∨
      (Imports.testutil root).path = name.path ∨ root = name.path ∧ name.ident = "Client" := by
  cases origin with
  | declared _ _ named => exact .inl ⟨_, by rw [named]; rfl⟩
  | message _ beside => exact .inl ⟨_, beside.path.symm⟩
  | stream _ beside => exact .inl ⟨_, beside.path.symm⟩
  | shared _ _ path => exact .inl ⟨_, path.symm⟩
  | fixed path => exact path.imp (fun path => ⟨_, path.symm⟩) (.inl ·.symm)
  | top path ident => exact .inr (.inr ⟨path.symm, ident⟩)

end Origins

namespace Generated

variable {bundle : Bundle} {protocol : Protocol} {root : String} {graph : ImportGraph}
  {exemptions : Exemptions} {shared : SharedPackage} {files : List SourceFile}
  {domain owner : Domain} {name target : TypeName} {type : TypeExpr} {node : TypeNode}
  (h : bundle.Generated protocol root graph exemptions shared)
include h

/-- The interface of a domain is not called like the client. -/
theorem ident_ne_client (member : domain ∈ protocol.domains) : domain.ident ≠ "Client" := by
  intro same
  have all : (topIdents (sortByName protocol.domains)).Nodup :=
    (names_topFiles protocol.version).nodup_iff.1 (h.top ▸ h.distinct)
  rw [topIdents, List.append_assoc, List.append_assoc, List.nodup_append] at all
  refine all.2.2 "Client" List.mem_cons_self "Client" (List.mem_append_left _ ?_) rfl
  exact List.mem_map.2 ⟨domain, List.mem_mergeSort.2 member, same⟩

variable (arranges : bundle.Arranges protocol files)
include arranges

theorem eq_of_ident (member : domain ∈ protocol.domains) {first second : TypeNode}
    (left : first ∈ domain.types) (right : second ∈ domain.types)
    (same : first.ident domain.name = second.ident domain.name) : first = second := by
  obtain ⟨package, found⟩ := arranges.exists_package member
  obtain ⟨run, before, after, succeeds, -, -⟩ := h.run_of_package found
  exact succeeds.eq_of_ident left right same

/-- No name is that of two declared types. -/
theorem eq_of_typeName (separate : protocol.Separate) (member : domain ∈ protocol.domains)
    (listed : owner ∈ protocol.domains) {first second : TypeNode} (left : first ∈ domain.types)
    (right : second ∈ owner.types) (same : first.typeName root domain = second.typeName root owner) :
    domain = owner ∧ first = second := by
  have path := congrArg TypeName.path same
  have ident := congrArg TypeName.ident same
  rw [TypeNode.typeName_path, TypeNode.typeName_path] at path
  obtain rfl : domain = owner := separate.eq_of_path member listed path
  rw [TypeNode.typeName_ident, TypeNode.typeName_ident] at ident
  exact ⟨rfl, h.eq_of_ident arranges member left right ident⟩

theorem eq_of_resides (separate : protocol.Separate) {first second : String × String}
    (left : protocol.Resides root name first) (right : protocol.Resides root name second) :
    first = second := by
  obtain ⟨owner, member, named, node, inside, id, -, rfl⟩ := left
  obtain ⟨other, listed, called, found, within, sameId, -, same⟩ := right
  obtain ⟨rfl, rfl⟩ := h.eq_of_typeName arranges separate member listed inside within same
  exact Prod.ext (named.symm.trans called) (Option.some.inj (id.symm.trans sameId))

variable (plain : ∀ domain ∈ protocol.domains, '.' ∉ domain.name.toList)
include plain

theorem not_defines_of_foreign (foreign : protocol.Foreign root name) :
    ¬ bundle.Defines root name type := by
  intro defines
  have origin := h.origin arranges plain defines
  cases foreign with
  | builtin known => exact origin.notMem_predeclared known
  | standard path other =>
    rcases origin.path_cases with ⟨package, same⟩ | same | ⟨-, client⟩
    · exact (path_ne_standard path).1 package same
    · exact (path_ne_standard path).2 same
    · exact other client
  | transport same =>
    subst same
    rcases origin.path_cases with ⟨package, same⟩ | same | ⟨-, client⟩
    · exact (path_ne_root package).2 same
    · exact path_testutil_ne_root.2 same
    · simp at client
  | interface member same =>
    subst same
    rcases origin.path_cases with ⟨package, same⟩ | same | ⟨-, client⟩
    · exact (path_ne_root package).1 same
    · exact path_testutil_ne_root.1 same
    · exact h.ident_ne_client member client

theorem bounded_of_foreign (foreign : protocol.Foreign root name) : bundle.Bounded root name :=
  .intro name fun _ ⟨_, defines, _⟩ => absurd defines (h.not_defines_of_foreign arranges plain foreign)

variable (separate : protocol.Separate)
include separate

/-- What the definition of a declared type is, unless its name is also that of a fixed type. -/
theorem definition_of_typeName (member : owner ∈ protocol.domains) (inside : node ∈ owner.types)
    (defines : bundle.Defines root (node.typeName root owner) type) :
    (∀ target ∈ type.held (Imports.domain root owner.package).path, protocol.Foreign root target) ∨
      (∀ shared, sharedIdent? owner.name (node.id.getD "") = some shared →
        type = .imported (Imports.internal root) shared) ∧
      (sharedIdent? owner.name (node.id.getD "") = none →
        Defined protocol owner (bundle.Links root owner) node type) := by
  have beside {other : Domain} (listed : other ∈ protocol.domains) :
      ¬ other.Beside root (node.typeName root owner) := by
    intro beside
    obtain rfl : owner = other := separate.eq_of_path member listed beside.path
    exact beside.apart node inside (node.typeName_ident root owner).symm
  cases h.origin arranges plain defines with
  | @declared other found listed within named redirected defined =>
    obtain ⟨rfl, rfl⟩ := h.eq_of_typeName arranges separate member listed inside within named
    exact .inr ⟨redirected, defined⟩
  | message listed next => exact absurd next (beside listed)
  | stream listed next => exact absurd next (beside listed)
  | shared listed within path redirected =>
    refine absurd path (separate.path_ne_internal member inside ?_)
    exact ⟨_, listed, _, within, Option.isSome_of_eq_some redirected⟩
  | fixed _ _ held => exact .inl fun target holds => .of_fixed (held target holds)
  | top path => exact absurd path (path_ne_root owner.package).1

/-- A shared type holds no type that is defined anywhere. -/
theorem bounded_shared {ident : String} (member : owner ∈ protocol.domains)
    (inside : node ∈ owner.types)
    (redirected : sharedIdent? owner.name (node.id.getD "") = some ident) :
    bundle.Bounded root ⟨(Imports.internal root).path, ident⟩ := by
  have apart := sharedIdents_apart ident (mem_idents_of_sharedIdent? redirected)
  refine .intro _ fun target ⟨type, defines, held⟩ => ?_
  refine h.bounded_of_foreign arranges plain ?_
  cases h.origin arranges plain defines with
  | declared listed within named =>
    have path := congrArg TypeName.path named
    refine absurd path.symm (separate.path_ne_internal listed within ?_)
    exact ⟨owner, member, node, inside, Option.isSome_of_eq_some redirected⟩
  | message _ _ marked => exact absurd marked apart.2.1
  | stream _ _ marked => exact absurd marked apart.2.1
  | shared _ _ _ _ defined => exact .of_basic (defined.basic_of_unlinked held)
  | fixed _ ident => exact absurd ident apart.2.2
  | top path => exact absurd path (path_ne_root "internal").1

/-- A name of a shared type leads to that type. -/
theorem bounded_alias {ident : String} (member : owner ∈ protocol.domains)
    (inside : node ∈ owner.types)
    (redirected : sharedIdent? owner.name (node.id.getD "") = some ident) :
    bundle.Bounded root (node.typeName root owner) := by
  refine .intro _ fun target ⟨type, defines, held⟩ => ?_
  rcases h.definition_of_typeName arranges plain separate member inside defines with
    foreign | ⟨alias_, -⟩
  · exact h.bounded_of_foreign arranges plain (foreign target held)
  · rw [alias_ ident redirected, TypeExpr.mem_held_imported] at held
    rw [held]
    exact h.bounded_shared arranges plain separate member inside redirected

/-- A type whose zero value reads as absent holds none that is defined. -/
theorem bounded_nullable {shape : Shape} (member : owner ∈ protocol.domains)
    (inside : node ∈ owner.types)
    (alone : sharedIdent? owner.name (node.id.getD "") = none)
    (shaped : node.shape owner.name = .ok shape) (nullable : shape.isNullable = true) :
    bundle.Bounded root (node.typeName root owner) := by
  refine .intro _ fun target ⟨type, defines, held⟩ => ?_
  refine h.bounded_of_foreign arranges plain ?_
  rcases h.definition_of_typeName arranges plain separate member inside defines with
    foreign | ⟨-, defined⟩
  · exact foreign target held
  · exact .of_basic ((defined alone).basic_of_nullable shaped nullable held)

section Unbounded
variable (unbounded : ¬ bundle.Bounded root target)
include unbounded

/-- A reference leads to a type without bound only in the package of a domain. -/
theorem resides_of_links {raw : String} (member : domain ∈ protocol.domains)
    (linked : bundle.Links root domain raw type)
    (held : target ∈ type.held (Imports.domain root domain.package).path) :
    protocol.Resides root target (Reference.parts raw domain.name) := by
  -- The name of a shared type would be bounded.
  have resides {owner : Domain} {name : String} {node : TypeNode}
      (listed : owner ∈ protocol.domains) (found : owner.type? name = some node)
      (same : target = node.typeName root owner) : protocol.Resides root target (owner.name, name) := by
    obtain ⟨inside, id⟩ := Domain.type?_eq_some found
    refine ⟨owner, listed, rfl, node, inside, id, ?_, same⟩
    by_contra shared
    obtain ⟨ident, redirected⟩ := Option.ne_none_iff_exists'.1 shared
    have redirected : sharedIdent? owner.name (node.id.getD "") = some ident := by
      rw [id, Option.getD_some]
      exact redirected
    exact unbounded (same ▸ h.bounded_alias arranges plain separate listed inside redirected)
  cases linked with
  | own parts found =>
    rw [parts]
    exact resides member found (TypeExpr.mem_held_named.1 held)
  | package _ parts found listed =>
    rw [parts]
    exact resides (arranges.mem_domains listed) found (TypeExpr.mem_held_imported.1 held)
  | shared _ _ found listed redirected =>
    obtain ⟨inside, id⟩ := Domain.type?_eq_some found
    rw [TypeExpr.mem_held_imported] at held
    refine absurd ?_ unbounded
    rw [held]
    exact h.bounded_shared arranges plain separate (arranges.mem_domains listed) inside
      (by rw [id, Option.getD_some]; exact redirected)

/-- No reference that reads as absent at its zero value leads to a type without bound. -/
theorem requires_of_unbounded (member : domain ∈ protocol.domains) :
    protocol.Requires domain (bundle.Links root domain)
      (Imports.domain root domain.package).path target := by
  intro node raw type refers linked held nullable
  obtain ⟨owner, listed, name, found, inside, id, alone, same⟩ :=
    h.resides_of_links arranges plain separate unbounded member linked held
  rw [Protocol.Nullable, refers] at nullable
  obtain ⟨reference, resolved, shared | ⟨other, shape, located, shaped, nullable⟩⟩ := nullable
  · -- A shared target is redirected, and so is no declared type in its own domain.
    rw [(Reference.resolve_cases resolved).1] at alone
    obtain ⟨ident, redirected⟩ := exists_sharedIdent?_of_mem shared
    rw [redirected] at alone
    cases alone
  · rw [(Reference.resolve_cases resolved).1] at name id alone
    obtain ⟨second, declared, spelled, type⟩ := Protocol.owner_of_target located
    obtain rfl : owner = second := h.eq_of_name listed declared (name.trans spelled.symm)
    obtain ⟨within, sameId⟩ := Domain.type?_eq_some type
    obtain rfl : found = other := by
      refine h.eq_of_ident arranges listed inside within ?_
      rw [TypeNode.ident, TypeNode.ident, id, sameId]
    refine unbounded (same ▸ h.bounded_nullable arranges plain separate listed inside ?_
      (name ▸ shaped) (Shape.isNullable_iff.2 nullable))
    rw [id, name]
    exact alone

/-- Whatever is held and has no bound is a declared type in the package of its domain. -/
theorem resides_of_holds (holds : bundle.Holds root name target) :
    ∃ declared, protocol.Resides root target declared := by
  obtain ⟨type, defines, held⟩ := holds
  have foreign : ¬ protocol.Foreign root target := fun foreign =>
    unbounded (h.bounded_of_foreign arranges plain foreign)
  have other : ¬ target.Basic := fun basic => foreign (.of_basic basic)
  cases h.origin arranges plain defines with
  | @declared owner node member inside named redirected defined =>
    rw [named, TypeNode.typeName_path] at held
    cases alone : sharedIdent? owner.name (node.id.getD "") with
    | some ident =>
      rw [redirected ident alone, TypeExpr.mem_held_imported] at held
      refine absurd ?_ unbounded
      rw [held]
      exact h.bounded_shared arranges plain separate member inside alone
    | none =>
      obtain ⟨way, raw, ⟨-, -, type, link, held⟩, -⟩ := (defined alone).reaches other
        (h.requires_of_unbounded arranges plain separate unbounded member) held
      exact ⟨_, h.resides_of_links arranges plain separate unbounded member link held⟩
  | message member beside _ same expressed =>
    rw [same, beside.path] at held
    have requires := h.requires_of_unbounded arranges plain separate unbounded member
    obtain ⟨node, -, type, expressed, held, -⟩ := expressed.exists_of_held held
    obtain ⟨way, raw, -, -, type, link, held⟩ := expressed.reaches other requires held
    exact ⟨_, h.resides_of_links arranges plain separate unbounded member link held⟩
  | stream _ _ _ only => exact absurd (.transport (only target held)) foreign
  | shared _ _ _ _ defined => exact absurd (defined.basic_of_unlinked held) other
  | fixed _ _ only => exact absurd (.of_fixed (only target held)) foreign
  | top _ _ only =>
    obtain ⟨domain, member, same⟩ := only target held
    exact absurd (.interface member same) foreign

/-- A declared type holds another one without bound only by a reference that cannot be broken. -/
theorem forces_of_holds {first : String × String} (resides : protocol.Resides root name first)
    (holds : bundle.Holds root name target) :
    ∃ second, protocol.Resides root target second ∧ protocol.Forces first second := by
  obtain ⟨owner, member, sameName, node, inside, id, alone, rfl⟩ := resides
  obtain ⟨type, defines, held⟩ := holds
  have foreign : ¬ protocol.Foreign root target := fun foreign =>
    unbounded (h.bounded_of_foreign arranges plain foreign)
  rcases h.definition_of_typeName arranges plain separate member inside defines with
    only | ⟨-, defined⟩
  · exact absurd (only target held) foreign
  · rw [sameName, id, Option.getD_some] at defined
    obtain ⟨way, raw, ⟨occurs, -, type, link, held⟩, unbroken⟩ := (defined alone).reaches
      (fun basic => foreign (.of_basic basic))
      (h.requires_of_unbounded arranges plain separate unbounded member) held
    refine ⟨_, h.resides_of_links arranges plain separate unbounded member link held, ?_⟩
    exact ⟨owner, member, sameName, node, inside, id, (way, raw), occurs, unbroken, rfl⟩

end Unbounded

/-- A chain of types that hold one another follows references that cannot be broken. -/
theorem forces_of_chain {first : String × String} (resides : protocol.Resides root name first)
    (chain : Relation.TransGen (bundle.Holds root) name target)
    (unbounded : ¬ bundle.Bounded root target) :
    ∃ second, protocol.Resides root target second ∧
      Relation.TransGen protocol.Forces first second := by
  induction chain with
  | single holds =>
    obtain ⟨second, found, forces⟩ :=
      h.forces_of_holds arranges plain separate unbounded resides holds
    exact ⟨second, found, .single forces⟩
  | tail _ holds ih =>
    -- Whatever holds a type without bound has none itself.
    obtain ⟨middle, between, forces⟩ := ih fun bounded => unbounded (bounded.inv holds)
    obtain ⟨second, found, last⟩ :=
      h.forces_of_holds arranges plain separate unbounded between holds
    exact ⟨second, found, forces.tail last⟩

theorem not_loop
    (broken : ∀ declared, ¬ Relation.TransGen protocol.Forces declared declared) (name : TypeName) :
    ¬ Relation.TransGen (bundle.Holds root) name name := by
  intro loop
  have unbounded : ¬ bundle.Bounded root name := fun bounded => bounded.not_loop loop
  -- The last step shows that the name is a declared one, from which the chain then starts.
  obtain ⟨last, -, holds⟩ := Relation.TransGen.tail'_iff.1 loop
  obtain ⟨first, resides⟩ := h.resides_of_holds arranges plain separate unbounded holds
  obtain ⟨second, again, forces⟩ := h.forces_of_chain arranges plain separate resides loop unbounded
  obtain rfl : first = second := h.eq_of_resides arranges separate resides again
  exact broken first forces

end Generated

end Bundle

theorem not_loop_of_leaves {α : Type} {R : α → α → Prop} (P : α → Prop)
    (leaves : ∀ a b, R a b → P a ∧ ¬ P b) (a : α) : ¬ Relation.TransGen R a a := by
  intro loop
  obtain ⟨next, first, -⟩ := Relation.TransGen.head'_iff.1 loop
  obtain ⟨last, -, closing⟩ := Relation.TransGen.tail'_iff.1 loop
  exact (leaves _ _ closing).2 (leaves _ _ first).1

/-- If every cycle of references among declared types has one that can be broken, no generated type
contains itself by value. This takes packages that are kept apart: where two domains share one, a type
may hold another of the same name. -/
theorem types_finite {protocol : Protocol} {root : String} {files : List SourceFile}
    (plain : ∀ domain ∈ protocol.domains, '.' ∉ domain.name.toList) (separate : protocol.Separate)
    (broken : ∀ declared, ¬ Relation.TransGen protocol.Forces declared declared)
    (h : generate protocol root = .ok files) :
    ∃ bundle : Bundle, bundle.Arranges protocol files ∧
      ∀ name, ¬ Relation.TransGen (bundle.Holds root) name name := by
  obtain ⟨bundle, graph, exemptions, shared, arranges, generated⟩ := generate_eq_ok h
  exact ⟨bundle, arranges, generated.not_loop arranges plain separate broken⟩

theorem types_finite_sampleProtocol :
    (∀ domain ∈ sampleProtocol.domains, '.' ∉ domain.name.toList) ∧ sampleProtocol.Separate ∧
      (∀ declared, ¬ Relation.TransGen sampleProtocol.Forces declared declared) ∧
      ∃ files, generate sampleProtocol "r" = .ok files ∧
        ∃ bundle : Bundle, bundle.Arranges sampleProtocol files ∧
          ∀ name, ¬ Relation.TransGen (bundle.Holds "r") name name := by
  have plain : ∀ domain ∈ sampleProtocol.domains, '.' ∉ domain.name.toList := by decide
  have packages : ∀ domain ∈ sampleProtocol.domains, domain.package ≠ "internal" := by
    decide
  have separate : sampleProtocol.Separate :=
    ⟨by decide, fun domain member _ same => absurd same (packages domain member)⟩
  -- Of the four references, three stand below items or an optional property.
  have only : ∀ domain ∈ sampleProtocol.domains, ∀ node ∈ domain.types,
      ∀ entry ∈ node.occurrences, ¬ node.Breakable domain.name entry.1 entry.2 →
        node.id = some "Frame" ∧ (Reference.parts entry.2 domain.name).2 ≠ "Frame" := by
    decide
  have broken := not_loop_of_leaves (R := sampleProtocol.Forces) (fun declared => declared.2 = "Frame")
    fun first second => by
      rintro ⟨domain, member, -, node, inside, id, entry, occurs, unbroken, rfl⟩
      obtain ⟨frame, other⟩ := only domain member node inside entry occurs unbroken
      exact ⟨Option.some.inj (id.symm.trans frame), other⟩
  obtain ⟨files, generates⟩ := sampleProtocol_generates
  exact ⟨plain, separate, broken, files, generates, types_finite plain separate broken generates⟩

/-- Two domains with one directory, and a record of the second that holds one of the first. -/
def namesakeProtocol : Protocol where
  domains :=
    [{ name := "FOO"
       types :=
        [{ id := some "X"
           kind := some "object"
           properties := [{ name := some "a", kind := some "string" }] }] },
     { name := "Foo"
       types :=
        [{ id := some "X"
           kind := some "object"
           properties := [{ name := some "x", reference := some "FOO.X" }] }] }]

theorem namesakeProtocol_sorted : sortByName namesakeProtocol.domains = namesakeProtocol.domains :=
  sortByName_of_pairwise (by decide)

/-- No reference leads back, yet the two records are of one name, so that one holds itself. -/
theorem types_endless :
    (∀ domain ∈ namesakeProtocol.domains, '.' ∉ domain.name.toList) ∧
      (∀ declared, ¬ Relation.TransGen namesakeProtocol.Forces declared declared) ∧
      ∃ files, generate namesakeProtocol "r" = .ok files ∧
        ∀ bundle : Bundle, bundle.Arranges namesakeProtocol files →
          bundle.Holds "r" ⟨"r/protocol/foo", "X"⟩ ⟨"r/protocol/foo", "X"⟩ := by
  have plain : ∀ domain ∈ namesakeProtocol.domains, '.' ∉ domain.name.toList := by decide
  have only : ∀ domain ∈ namesakeProtocol.domains, ∀ node ∈ domain.types,
      ∀ entry ∈ node.occurrences, ¬ node.Breakable domain.name entry.1 entry.2 →
        domain.name = "Foo" ∧ (Reference.parts entry.2 domain.name).1 ≠ "Foo" := by
    decide
  have broken := not_loop_of_leaves (R := namesakeProtocol.Forces) (fun declared => declared.1 = "Foo")
    fun first second => by
      rintro ⟨domain, member, named, node, inside, id, entry, occurs, unbroken, rfl⟩
      obtain ⟨foo, other⟩ := only domain member node inside entry occurs unbroken
      exact ⟨named.symm.trans foo, other⟩
  have found : (generate namesakeProtocol "r").toOption.any fun files => files[5]?.any fun file =>
      file.definitions.any fun entry => entry.1 == "X" &&
        (entry.2.held "r/protocol/foo").contains ⟨"r/protocol/foo", "X"⟩ := by
    simp only [generate, emitDomains, assemble, namesakeProtocol_sorted]
    decide
  obtain ⟨files, generates, found⟩ := exists_ok_of_any found
  refine ⟨plain, broken, files, generates, fun bundle arranges => ?_⟩
  obtain ⟨file, sixth, found⟩ := (Option.any_eq_true _ _).1 found
  obtain ⟨⟨ident, type⟩, inside, holds⟩ := List.any_eq_true.1 found
  rw [Bool.and_eq_true, beq_iff_eq, List.contains_iff_mem] at holds
  -- The sixth file is the first one of the second package.
  have domains := arranges.domains
  rw [namesakeProtocol_sorted] at domains
  obtain ⟨first, rest, split, -, domains⟩ := List.map_eq_cons_iff.1 domains
  obtain ⟨second, others, same, foo, -⟩ := List.map_eq_cons_iff.1 domains
  have types : second.2.types = file := by
    rw [← arranges.list, Bundle.list, split, same] at sixth
    simpa [DomainFiles.list] using sixth
  have member : second ∈ bundle.packages := by simp [split, same]
  have path : (Imports.domain "r" second.1.package).path = "r/protocol/foo" := by
    rw [foo]
    decide
  refine ⟨type, ⟨_, List.mem_append_left _ (List.mem_map_of_mem member), path, file, ?_, ?_⟩, holds.2⟩
  · rw [← types]
    exact List.mem_cons_self
  · rw [← holds.1]
    exact inside

end Bindings
