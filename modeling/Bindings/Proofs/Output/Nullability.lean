import Bindings.Proofs.Emission.Methods
import Bindings.Proofs.Emission.Pointers
import Bindings.Proofs.Output.Links

/-! Every field is a pointer or not as the protocol has it.

The name of a record is compared with the text of a type, and a type is looked up in a registry by a
text. Both texts are spelled by names, and what names stand for is known from the links.
-/

set_option autoImplicit false

namespace Bindings

open Emission
open Go (Field SourceFile TypeExpr)
open Name (SolidName)

section Texts

@[simp] theorem Go.TypeExpr.text_named (ident : String) : (TypeExpr.named ident).text = ident := by
  simp [TypeExpr.text, TypeExpr.print, Go.Piece.join, Go.Piece.text, String.join]

/-- A type of another package is spelled with a point, which no identifier has. -/
theorem Go.TypeExpr.text_imported_ne (package : Go.Package) (ident : String) {owner : String}
    (solid : SolidName owner) : (TypeExpr.imported package ident).text ≠ owner := by
  rintro rfl
  have point : '.' ∈ (TypeExpr.imported package ident).text.toList := by
    simp [TypeExpr.text, TypeExpr.print, Go.Piece.join, Go.Piece.text, String.join]
  exact absurd (solid '.' point) (by decide)

end Texts

theorem Domain.type?_of_mem {domain : Domain} {node : TypeNode} {name : String}
    (member : node ∈ domain.types) (id : node.id = some name) :
    ∃ target, domain.type? name = some target ∧
      target.ident domain.name = node.ident domain.name := by
  obtain ⟨target, found⟩ : ∃ target, domain.type? name = some target := by
    rw [← Option.isSome_iff_exists, Domain.type?, List.find?_isSome]
    exact ⟨node, member, by simp [id]⟩
  refine ⟨target, found, ?_⟩
  rw [TypeNode.ident, TypeNode.ident, (Domain.type?_eq_some found).2, id]

section Holders

variable {bundle : Bundle} {root : String} {domain : Domain} {raw : String} {type : TypeExpr}

/-- A linked type is spelled by an identifier alone just when it is a type of the domain itself with
that identifier. -/
theorem Bundle.Links.text_eq_iff {owner : String} (solid : SolidName owner)
    (link : bundle.Links root domain raw type) :
    type.text = owner ↔ ∃ name target, Reference.parts raw domain.name = (domain.name, name) ∧
      domain.type? name = some target ∧ target.ident domain.name = owner := by
  cases link with
  | own parts target =>
    rw [Go.TypeExpr.text_named]
    refine ⟨fun same => ⟨_, _, parts, target, same⟩, ?_⟩
    rintro ⟨name, found, parts', target', same⟩
    obtain rfl := (Prod.mk.inj (parts.symm.trans parts')).2
    obtain rfl := Option.some.inj (target.symm.trans target')
    exact same
  | package other parts | shared other parts =>
    refine ⟨fun same => absurd same (Go.TypeExpr.text_imported_ne _ _ solid), ?_⟩
    rintro ⟨name, found, parts', -⟩
    exact absurd (Prod.mk.inj (parts.symm.trans parts')).1 other

theorem stands_inline : Holder.inline.Stands domain (bundle.Links root domain) "" :=
  fun _ _ link => link.text_eq_iff Name.solid_nil

variable {run : PackageRun} {exemptions : Exemptions} {before after : SharedPackage}

theorem stands_record (succeeds : run.Succeeds root exemptions before after domain)
    {node : TypeNode} (member : node ∈ domain.types) :
    (Holder.record node).Stands domain (bundle.Links root domain) (node.ident domain.name) := by
  intro raw type link
  rw [link.text_eq_iff (solidName_typeIdent node domain.name)]
  constructor
  · rintro ⟨name, target, parts, found, same⟩
    obtain ⟨declared, id⟩ := Domain.type?_eq_some found
    exact ⟨name, succeeds.eq_of_ident declared member same ▸ id, parts⟩
  · rintro ⟨name, id, parts⟩
    obtain ⟨target, found, same⟩ := Domain.type?_of_mem member id
    exact ⟨name, target, parts, found, same⟩

theorem stands_message (succeeds : run.Succeeds root exemptions before after domain)
    {owner : String}
    (declared : owner ∈ (Chunk.concat run.commands).names ++ (Chunk.concat run.events).names) :
    Holder.message.Stands domain (bundle.Links root domain) owner := by
  intro raw type link
  have solid : SolidName owner := by
    refine succeeds.solid_implementation ?_
    simp only [PackageRun.implementation, List.mem_append] at declared ⊢
    exact .inl (declared.imp_left .inr)
  rw [link.text_eq_iff solid]
  refine iff_false_intro ?_
  rintro ⟨name, target, -, found, same⟩
  have inside := (Domain.type?_eq_some found).1
  rcases List.mem_append.1 declared with command | event
  · exact succeeds.ident_ne_of_other List.mem_cons_self command inside same
  · exact succeeds.ident_ne_of_other (List.mem_cons_of_mem _ List.mem_cons_self) event inside same

end Holders

theorem Shape.isNullable_iff {shape : Shape} :
    shape.isNullable = true ↔ shape ∈ [.sequence, .raw, .base64, .any, .enumeration] := by
  cases shape <;> simp [isNullable]

theorem Protocol.nullable_of_target {protocol : Protocol} {domain raw : String}
    {node target : TypeNode} {reference : Reference} (refers : node.reference = some raw)
    (resolved : Reference.resolve raw domain = .ok reference)
    (located : protocol.target? reference = some target) :
    protocol.Nullable domain node ↔ reference.qualified ∈ sharedTargets ∨
      ∃ shape, target.shape reference.domain = .ok shape ∧ shape.isNullable = true := by
  simp only [Nullable, refers, resolved, located, Except.ok.injEq, exists_eq_left',
    Option.some.injEq, exists_and_left, Shape.isNullable_iff]

namespace Bundle.Generated

variable {bundle : Bundle} {protocol : Protocol} {root : String} {graph : ImportGraph}
  {exemptions : Exemptions} {shared : SharedPackage} {files : List SourceFile} {domain : Domain}
  {package : DomainFiles}

/-- The registry takes any type that is declared under a name, the protocol the first that is found.
There is only one. -/
theorem exempt_iff (h : bundle.Generated protocol root graph exemptions shared)
    (arranges : bundle.Arranges protocol files) {owner : Domain} {name : String} {target : TypeNode}
    (declared : owner ∈ protocol.domains) (found : owner.type? name = some target) :
    (∃ other ∈ protocol.domains, other.name = owner.name ∧
        ∃ node ∈ other.types, node.id = some name ∧
          ∃ shape, node.shape owner.name = .ok shape ∧ shape.isNullable = true) ↔
      ∃ shape, target.shape owner.name = .ok shape ∧ shape.isNullable = true := by
  obtain ⟨ofOwner, id⟩ := Domain.type?_eq_some found
  constructor
  · rintro ⟨other, inside, same, node, ofOther, named, nullable⟩
    obtain rfl := h.eq_of_name inside declared same
    obtain ⟨files, listed⟩ := arranges.exists_package inside
    obtain ⟨run, before, after, succeeds, -, -⟩ := h.run_of_package listed
    have sameIdent : node.ident other.name = target.ident other.name := by
      rw [TypeNode.ident, TypeNode.ident, named, id]
    obtain rfl := succeeds.eq_of_ident ofOther ofOwner sameIdent
    exact nullable
  · exact fun nullable => ⟨owner, declared, rfl, target, ofOwner, id, nullable⟩

/-- The registry agrees with the protocol on every reference of a domain. -/
theorem agrees (h : bundle.Generated protocol root graph exemptions shared)
    (arranges : bundle.Arranges protocol files)
    (plain : ∀ domain ∈ protocol.domains, '.' ∉ domain.name.toList)
    (member : domain ∈ protocol.domains) :
    (domainSite root exemptions domain).Agrees protocol domain.references := by
  intro node raw use refers inside used
  obtain ⟨-, reference, resolved, rfl⟩ := Site.referenceUse_eq_ok used
  -- The graph has found the target already.
  obtain ⟨-, covers⟩ := ImportGraph.ofProtocol_eq_ok h.built
  obtain ⟨found, admits⟩ := (covers domain member).2 raw inside
  obtain rfl : reference = found := Except.ok.inj (resolved.symm.trans admits.resolved)
  obtain ⟨target, located⟩ := admits.declared
  obtain ⟨owner, declared, name, type⟩ := Protocol.owner_of_target located
  have undivided : '.' ∉ reference.domain.toList := name ▸ plain owner declared
  rw [Protocol.nullable_of_target refers resolved located, ← name,
    ← h.exempt_iff arranges declared type, name]
  exact Exemptions.covers_iff h.exempted resolved undivided

end Bundle.Generated

/-- A struct that a file declares for the nodes of a message, with the fields that the protocol asks
for. -/
def DeclaresMessage (protocol : Protocol) (domain : Domain) (link : String → TypeExpr → Prop)
    (nodes : List TypeNode) (ident : String) (file : SourceFile) : Prop :=
  ∃ doc fields, file.declaring ident = [.type doc ident (.struct fields)] ∧
    FieldsExpressed protocol domain link .message nodes fields

/-- All places of a domain package at which structs have fields: declared types, here or in the
shared package, arguments, replies and events. -/
structure Bundle.Pointed (bundle : Bundle) (protocol : Protocol) (root : String) (domain : Domain)
    (files : DomainFiles) : Prop where
  types : ∀ node ∈ domain.types, sharedIdent? domain.name (node.id.getD "") = none →
    ∃ doc type, files.types.declaring (node.ident domain.name) =
        [.type doc (node.ident domain.name) type] ∧
      Defined protocol domain (bundle.Links root domain) node type
  shared : ∀ node ∈ domain.types, ∀ ident,
    sharedIdent? domain.name (node.id.getD "") = some ident →
      ∃ doc type, bundle.sharedTypes.declaring ident = [.type doc ident type] ∧
        Defined protocol domain (fun _ _ => False) node type
  arguments : ∀ command ∈ domain.commands, command.hasArguments = true →
    DeclaresMessage protocol domain (bundle.Links root domain) command.parameters command.arguments
      files.commands
  replies : ∀ command ∈ domain.commands, command.hasReply = true →
    DeclaresMessage protocol domain (bundle.Links root domain) command.returns command.reply
      files.commands
  events : ∀ event ∈ domain.events,
    DeclaresMessage protocol domain (bundle.Links root domain) event.parameters event.reply
      files.events

namespace Bundle.Generated

variable {bundle : Bundle} {protocol : Protocol} {root : String} {graph : ImportGraph}
  {exemptions : Exemptions} {shared : SharedPackage} {files : List SourceFile} {domain : Domain}
  {package : DomainFiles}

/-- A shared definition follows no reference, so no record of it refers to itself. -/
theorem shared_defined (h : bundle.Generated protocol root graph exemptions shared)
    (found : (domain, package) ∈ bundle.packages) {node : TypeNode} (member : node ∈ domain.types)
    {ident : String} (redirected : sharedIdent? domain.name (node.id.getD "") = some ident) :
    ∃ doc type, bundle.sharedTypes.declaring ident = [.type doc ident type] ∧
      Defined protocol domain (fun _ _ => False) node type := by
  obtain ⟨accepted, next, chunk, defines, sub⟩ := h.shared_defines found member redirected
  have rejects {raw : String} {use : TypeUse} : ¬ Site.referenceUse
      { domainSite root exemptions domain with shared := some ident } raw = .ok use := by
    intro used
    obtain ⟨alone, -⟩ := Site.referenceUse_eq_ok used
    cases alone
  have defined : ∃ type, ⟨.type (typeDoc node ident).lines ident type, true⟩ ∈ chunk.items ∧
      Defined protocol domain (fun _ _ => False) node type :=
    defines.defined rfl (fun _ used => rejects used) (fun _ _ _ _ _ used => absurd used rejects)
      (fun _ _ link => link.elim) (fun _ _ link => link.elim) (List.Subset.refl _)
  obtain ⟨type, inside, defined⟩ := defined
  exact ⟨_, type, Go.SourceFile.declaring_eq_singleton h.sharedTypes_nodup (sub inside)
    List.mem_cons_self, defined⟩

/-- What is declared for commands and events is no type, so the fields of a message never refer to
their own struct. -/
theorem declaresMessage (h : bundle.Generated protocol root graph exemptions shared)
    (arranges : bundle.Arranges protocol files)
    (plain : ∀ domain ∈ protocol.domains, '.' ∉ domain.name.toList)
    (member : domain ∈ protocol.domains) {run : PackageRun} {before after : SharedPackage}
    (succeeds : run.Succeeds root exemptions before after domain) {file : SourceFile}
    (listed : file = (run.files root domain).commands ∨ file = (run.files root domain).events)
    {doc : List String} {ident : String} {nodes : List TypeNode} {uses : FieldUses}
    (sub : nodes ⊆ domain.nodes)
    (fields : (domainSite root exemptions domain).structFields nodes ident = .ok uses)
    (inside : ⟨.type doc ident (.struct uses.fields), true⟩ ∈ file.items) :
    DeclaresMessage protocol domain (bundle.Links root domain) nodes ident file := by
  have named : ident ∈ file.names := List.mem_flatMap.2 ⟨_, inside, List.mem_cons_self⟩
  have declared : ident ∈ (Chunk.concat run.commands).names ++ (Chunk.concat run.events).names := by
    rcases listed with rfl | rfl
    · exact List.mem_append_left _ named
    · exact List.mem_append_right _ named
  have ofPackage : file ∈ (run.files root domain).list := by
    rcases listed with rfl | rfl <;> simp [DomainFiles.list]
  have expressed := (Site.expressed_of_use rfl
    (fun inside used => h.links arranges member inside used) (h.agrees arranges plain member)
    stands_inline).2 fields (TypeNode.listReferences_subset sub) .message
    (stands_message succeeds declared)
  exact ⟨_, _, succeeds.declaring_files ofPackage inside List.mem_cons_self, expressed⟩

/-- A type that stays in its domain is declared there, with itself as the holder of its fields. -/
theorem declared_defined (h : bundle.Generated protocol root graph exemptions shared)
    (arranges : bundle.Arranges protocol files)
    (plain : ∀ domain ∈ protocol.domains, '.' ∉ domain.name.toList)
    (member : domain ∈ protocol.domains) {run : PackageRun} {before after : SharedPackage}
    (succeeds : run.Succeeds root exemptions before after domain) {node : TypeNode}
    (inside : node ∈ domain.types) (alone : sharedIdent? domain.name (node.id.getD "") = none) :
    ∃ doc type, (run.files root domain).types.declaring (node.ident domain.name) =
        [.type doc (node.ident domain.name) type] ∧
      Defined protocol domain (bundle.Links root domain) node type := by
  obtain ⟨accepted, next, chunk, defines, sub⟩ := succeeds.defines inside alone
  obtain ⟨type, declared, defined⟩ := defines.defined rfl
    (fun inside used => h.links arranges member inside used) (h.agrees arranges plain member)
    stands_inline (stands_record succeeds inside)
    (TypeNode.references_subset (Domain.mem_nodes_type inside))
  exact ⟨_, type,
    succeeds.declaring_files List.mem_cons_self (sub declared) List.mem_cons_self, defined⟩

/-- All structs of a package have the fields that the protocol asks for. -/
theorem pointed (h : bundle.Generated protocol root graph exemptions shared)
    (arranges : bundle.Arranges protocol files)
    (plain : ∀ domain ∈ protocol.domains, '.' ∉ domain.name.toList)
    (found : (domain, package) ∈ bundle.packages) :
    bundle.Pointed protocol root domain package := by
  have member : domain ∈ protocol.domains := arranges.mem_domains found
  obtain ⟨run, before, after, succeeds, rfl, -⟩ := h.run_of_package found
  refine ⟨fun node inside alone => h.declared_defined arranges plain member succeeds inside alone,
    fun node inside ident => h.shared_defined found inside, ?_, ?_, ?_⟩
  · intro command inside has
    obtain ⟨doc, uses, fields, declared⟩ := (succeeds.declaresCommand inside).arguments has
    exact h.declaresMessage arranges plain member succeeds (.inl rfl)
      (fun node => Domain.mem_nodes_parameter inside) fields declared
  · intro command inside has
    obtain ⟨doc, uses, fields, declared⟩ := (succeeds.declaresCommand inside).reply has
    exact h.declaresMessage arranges plain member succeeds (.inl rfl)
      (fun node => Domain.mem_nodes_return inside) fields declared
  · intro event inside
    obtain ⟨doc, uses, fields, declared⟩ := (succeeds.declaresEvent inside).reply
    exact h.declaresMessage arranges plain member succeeds (.inr rfl)
      (fun node => Domain.mem_nodes_event inside) fields declared

end Bundle.Generated

/-- A field is a pointer where its record refers to itself, or where it is optional and the zero
value of its type does not read as absent. In a record that is written out in place, a type of the
domain without an identifier is mistaken for the record. -/
theorem fields_pointed {protocol : Protocol} {root : String} {files : List SourceFile}
    (plain : ∀ domain ∈ protocol.domains, '.' ∉ domain.name.toList)
    (h : generate protocol root = .ok files) :
    ∃ bundle : Bundle, bundle.Arranges protocol files ∧
      ∀ entry ∈ bundle.packages, bundle.Pointed protocol root entry.1 entry.2 := by
  obtain ⟨bundle, graph, exemptions, shared, arranges, generated⟩ := generate_eq_ok h
  exact ⟨bundle, arranges, fun entry found => generated.pointed arranges plain found⟩

theorem fields_pointed_sampleProtocol :
    (∀ domain ∈ sampleProtocol.domains, '.' ∉ domain.name.toList) ∧
      ∃ files, generate sampleProtocol "r" = .ok files ∧
        ∃ bundle : Bundle, bundle.Arranges sampleProtocol files ∧
          ∀ entry ∈ bundle.packages, bundle.Pointed sampleProtocol "r" entry.1 entry.2 := by
  have plain : ∀ domain ∈ sampleProtocol.domains, '.' ∉ domain.name.toList := by decide +kernel
  obtain ⟨files, generates⟩ := sampleProtocol_generates
  exact ⟨plain, files, generates, fields_pointed plain generates⟩

def namelessReference : TypeNode := { name := some "b", reference := some "_" }

def namelessProtocol : Protocol where
  domains :=
    [{ name := "D"
       types :=
        [{ id := some "_", kind := some "string" },
         { id := some "R"
           kind := some "object"
           properties :=
             [{ name := some "a", kind := some "object", properties := [namelessReference] }] }] }]

theorem namelessProtocol_sorted : sortByName namelessProtocol.domains = namelessProtocol.domains :=
  sortByName_of_pairwise (List.pairwise_singleton _ _)

def namelessRecord : List Go.Piece :=
  [.comment 0 "R", .code "type R ", .code "struct \x7b\n", .code "\tA ", .code "struct \x7b\n",
    .code "\tB ", .code "*", .code "", .code " `json:\"b\"`\n", .code "\x7d",
    .code " `json:\"a\"`\n", .code "\x7d", .code "\n"]

/-- The field of the reference is a pointer, though the reference is required and does not stand
directly in a declared record. -/
theorem fields_pointed_nameless :
    namelessReference.optional = false ∧ ∃ files, generate namelessProtocol "r" = .ok files ∧
      ∃ file ∈ files, file.path = "protocol/d/types.go" ∧
        ∃ item ∈ file.items, item.decl.print = namelessRecord := by
  have found : (generate namelessProtocol "r").toOption.any fun files => files.any fun file =>
      file.path == "protocol/d/types.go" &&
        file.items.any fun item => item.decl.print == namelessRecord := by
    simp only [generate, emitDomains, assemble, namelessProtocol_sorted]
    decide +kernel
  obtain ⟨files, generates, found⟩ := exists_ok_of_any found
  obtain ⟨file, listed, holds⟩ := List.any_eq_true.1 found
  rw [Bool.and_eq_true, beq_iff_eq] at holds
  obtain ⟨item, inside, printed⟩ := List.any_eq_true.1 holds.2
  exact ⟨rfl, files, generates, file, listed, holds.1, item, inside, beq_iff_eq.1 printed⟩

end Bindings
