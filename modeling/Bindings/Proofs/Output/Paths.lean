import Bindings.Proofs.Emission.Paths
import Bindings.Proofs.Go.Rendering
import Bindings.Proofs.Output.Links

/-! Which files are written, and which of them to the same place.

A package is kept in a directory that is named by its domain in small letters, while domains are told
apart by their identifiers. Only the directories decide whether a file is lost.
-/

set_option autoImplicit false

namespace Bindings

open Emission
open Go (Decl Piece SourceFile)

section Written

/-- Whatever declares a type has the keyword in it. -/
theorem Go.Decl.keyword_mem_print {decl : Decl} {name : String}
    (declares : decl.typeName? = some name) : ∃ rest, Piece.code ("type " ++ rest) ∈ decl.print := by
  cases decl with
  | type doc ident expr => exact ⟨ident ++ " ", by simp [Decl.print, String.append_assoc]⟩
  | synonym doc ident target => exact ⟨ident ++ " = ", by simp [Decl.print, String.append_assoc]⟩
  | interface doc ident spaced members =>
    exact ⟨ident ++ " interface \x7b\n", by simp [Decl.print, String.append_assoc]⟩
  | function | constants | verbatim => cases declares

theorem Go.SourceFile.isEmpty_eq_false {file : SourceFile} {item : Go.Item}
    (member : item ∈ file.items) {name : String} (declares : item.decl.typeName? = some name) :
    file.isEmpty = false := by
  obtain ⟨rest, printed⟩ := item.decl.keyword_mem_print declares
  have inside : 't' ∈ file.body.toList := by
    rw [SourceFile.body, Piece.join, String.toList_join, List.flatMap_map]
    refine List.mem_flatMap.2 ⟨.code ("type " ++ rest), ?_, ?_⟩
    · exact List.mem_flatMap.2 ⟨item, member, List.mem_append_left _ printed⟩
    · simp [Piece.text]
  rw [SourceFile.isEmpty, ← Bool.not_eq_true, List.all_eq_true]
  exact fun blank => absurd (blank 't' inside) (by decide)

end Written

/-- Whether some domain declares a type that others are redirected to. -/
def Protocol.DeclaresShared (protocol : Protocol) : Prop :=
  ∃ owner ∈ protocol.domains, ∃ type ∈ owner.types,
    (sharedIdent? owner.name (type.id.getD "")).isSome

namespace Emission

variable {run : PackageRun} {root : String} {exemptions : Exemptions} {before after : SharedPackage}
  {domain : Domain}

theorem PackageRun.Succeeds.types_isEmpty (h : run.Succeeds root exemptions before after domain) :
    (run.files root domain).types.isEmpty = true ↔ domain.types = [] := by
  constructor
  · intro blank
    by_contra some_
    obtain ⟨node, member⟩ := List.exists_mem_of_ne_nil _ some_
    obtain ⟨s, t, chunk, step, sub, -⟩ := h.typeStep member
    obtain ⟨item, inside, declares⟩ := Site.typeName_of_declared (Site.typeStep_eq_ok step).1
    rw [SourceFile.isEmpty_eq_false (sub inside) declares] at blank
    cases blank
  · intro none
    have nothing : run.types = [] := by
      have steps := h.types
      rw [none] at steps
      exact (thread_nil steps).2
    refine SourceFile.isEmpty_of_items ?_
    simp [PackageRun.files, packageFile, Chunk.file, nothing, Chunk.concat]

theorem client_isEmpty (run : PackageRun) (root : String) (domain : Domain) :
    (run.files root domain).client.isEmpty = false := by
  obtain ⟨item, inside, declares⟩ : ∃ item ∈ (run.files root domain).client.items,
      item.decl.typeName? = some "domainClient" :=
    ⟨_, List.mem_append_left _ (List.mem_append_left _ List.mem_cons_self), rfl⟩
  exact SourceFile.isEmpty_eq_false inside declares

/-- Domains without shared types leave the shared package as it is. -/
theorem domainPackage_shared {files : List SourceFile}
    (h : domainPackage root exemptions before domain = .ok (after, files))
    (alone : ∀ type ∈ domain.types, sharedIdent? domain.name (type.id.getD "") = none) :
    after = before := by
  obtain ⟨run, succeeds, -⟩ := domainPackage_eq_ok h
  refine thread_invariant (I := fun s : SharedPackage × Go.NameScope => s.1 = before) ?_
    succeeds.types rfl
  intro s node t chunk member step same
  rcases Site.share_eq_ok (Site.typeStep_eq_ok step).2 with ⟨-, kept⟩ | ⟨_, _, _, _, present, -⟩
  · exact kept.trans same
  · rw [domainSite, alone node member] at present
    cases present

end Emission

def packageNames : List String :=
  ["types.go", "command.go", "event.go", "domain.go", "domain_test.go"]

theorem place_packageNames :
    ∀ name ∈ packageNames, place name = ⟨false, [name.toList]⟩ := by
  decide +kernel

/-- Apart from the shared types, no file outside of the domain packages is named like theirs. -/
theorem place_fixedPaths : ∀ path ∈ Bundle.fixedPaths.tail, ∀ name ∈ packageNames,
    (place path).names.getLast? ≠ some name.toList := by
  decide

theorem place_fixedPaths_nodup : (Bundle.fixedPaths.map place).Nodup := by
  decide +kernel

theorem place_sharedTypes :
    place "protocol/internal/types.go" = (place "protocol/internal").below "types.go" := by
  decide +kernel

theorem Domain.place_packagePaths (domain : Domain) :
    (Bundle.packagePaths domain).map place = packageNames.map domain.folder.below := by
  have given : joinPath "protocol" domain.package ≠ "" := by
    rw [joinPath]
    split
    · next absolute =>
      rintro empty
      rw [empty] at absolute
      revert absolute
      decide
    · split <;> simp
  rw [Bundle.packagePaths, List.map_map, ← packageNames]
  refine List.map_congr_left fun name member => ?_
  exact place_joinPath given (place_packageNames name member)

/-- Two files that are not written to the same place. -/
def Apart (a b : SourceFile) : Prop :=
  a.isEmpty = false → b.isEmpty = false → place a.path ≠ place b.path

theorem nodup_written_iff {files : List SourceFile} :
    ((files.filter (!·.isEmpty)).map (place ·.path)).Nodup ↔ files.Pairwise Apart := by
  rw [List.Nodup, List.pairwise_map, List.pairwise_filter]
  simp only [Bool.not_eq_true']
  rfl

namespace Bundle

def fixed (bundle : Bundle) : List SourceFile :=
  bundle.sharedErrors :: (bundle.top.list ++ [bundle.transport])

theorem list_eq (bundle : Bundle) :
    bundle.list = bundle.packages.flatMap (·.2.list) ++ bundle.sharedTypes :: bundle.fixed := by
  simp [Bundle.list, fixed]

namespace Generated

variable {bundle : Bundle} {protocol : Protocol} {root : String} {graph : ImportGraph}
  {exemptions : Exemptions} {shared : SharedPackage} {files : List SourceFile}
  {entry other : Domain × DomainFiles} {file : SourceFile}

theorem places (h : bundle.Generated protocol root graph exemptions shared)
    (member : entry ∈ bundle.packages) :
    entry.2.list.map (place ·.path) = packageNames.map entry.1.folder.below := by
  obtain ⟨run, before, after, -, same, -⟩ := h.packages entry member
  rw [← Domain.place_packagePaths, same]
  rfl

theorem place_types (h : bundle.Generated protocol root graph exemptions shared)
    (member : entry ∈ bundle.packages) :
    place entry.2.types.path = entry.1.folder.below "types.go" :=
  (List.cons.inj (h.places member)).1

theorem place_client (h : bundle.Generated protocol root graph exemptions shared)
    (member : entry ∈ bundle.packages) :
    place entry.2.client.path = entry.1.folder.below "domain.go" := by
  have fourth := congrArg (·[3]?) (h.places member)
  exact Option.some.inj fourth

/-- Every file of a package is below its directory, and only the types are named like types. -/
theorem place_file (h : bundle.Generated protocol root graph exemptions shared)
    (member : entry ∈ bundle.packages) (listed : file ∈ entry.2.list) :
    ∃ name ∈ packageNames, place file.path = entry.1.folder.below name ∧
      (name = "types.go" → file = entry.2.types) := by
  rcases List.mem_cons.1 listed with rfl | later
  · exact ⟨"types.go", List.mem_cons_self, h.place_types member, fun _ => rfl⟩
  · have others := (List.cons.inj (h.places member)).2
    have found : place file.path ∈ packageNames.tail.map entry.1.folder.below :=
      others ▸ List.mem_map_of_mem later
    obtain ⟨name, inside, same⟩ := List.mem_map.1 found
    refine ⟨name, List.mem_of_mem_tail inside, same.symm, ?_⟩
    rintro rfl
    exact absurd inside (by decide)

theorem fixed_paths (h : bundle.Generated protocol root graph exemptions shared) :
    (bundle.sharedTypes :: bundle.fixed).map (·.path) = fixedPaths := by
  rw [fixed, h.sharedTypes, h.sharedErrors, h.top, h.transport]
  rfl

theorem apart_fixed (h : bundle.Generated protocol root graph exemptions shared)
    (member : entry ∈ bundle.packages) (listed : file ∈ entry.2.list) {single : SourceFile}
    (inside : single ∈ bundle.fixed) : place file.path ≠ place single.path := by
  intro same
  obtain ⟨name, named, found, -⟩ := h.place_file member listed
  have path : single.path ∈ fixedPaths.tail := by
    rw [← h.fixed_paths]
    exact List.mem_map_of_mem inside
  refine place_fixedPaths single.path path name named ?_
  rw [← same, found]
  simp [Place.below]

theorem apart_shared (h : bundle.Generated protocol root graph exemptions shared)
    (member : entry ∈ bundle.packages) (listed : file ∈ entry.2.list)
    (types : Apart entry.2.types bundle.sharedTypes) : Apart file bundle.sharedTypes := by
  obtain ⟨name, -, found, only⟩ := h.place_file member listed
  by_cases same : name = "types.go"
  · rwa [only same]
  · have path : bundle.sharedTypes.path = "protocol/internal/types.go" := by rw [h.sharedTypes]; rfl
    intro _ _ together
    rw [found, path, place_sharedTypes] at together
    exact same (Place.below_inj.1 together).2

/-- Files of two packages are apart if their directories are: each package has a client. -/
theorem apart_packages_iff (h : bundle.Generated protocol root graph exemptions shared)
    (first : entry ∈ bundle.packages) (second : other ∈ bundle.packages) :
    (∀ a ∈ entry.2.list, ∀ b ∈ other.2.list, Apart a b) ↔ entry.1.folder ≠ other.1.folder := by
  constructor
  · intro apart together
    -- Of the five files, the client is the only one that is written in any case.
    have client : ∀ {found : Domain × DomainFiles}, found ∈ bundle.packages →
        found.2.client ∈ found.2.list ∧ found.2.client.isEmpty = false := by
      intro found member
      obtain ⟨run, before, after, -, same, -⟩ := h.packages found member
      rw [same]
      exact ⟨by simp [DomainFiles.list], client_isEmpty run root found.1⟩
    obtain ⟨left, written⟩ := client first
    obtain ⟨right, again⟩ := client second
    refine apart _ left _ right written again ?_
    rw [h.place_client first, h.place_client second, together]
  · intro distinct a left b right _ _ together
    obtain ⟨name, -, found, -⟩ := h.place_file first left
    obtain ⟨last, -, reached, -⟩ := h.place_file second right
    rw [found, reached] at together
    exact distinct (Place.below_inj.1 together).1

theorem pairwise_package (h : bundle.Generated protocol root graph exemptions shared)
    (member : entry ∈ bundle.packages) : entry.2.list.Pairwise Apart := by
  have distinct : (entry.2.list.map (place ·.path)).Nodup := by
    rw [h.places member]
    refine List.Nodup.map (fun name last same => (Place.below_inj.1 same).2) ?_
    decide
  exact (List.pairwise_map.1 distinct).imp fun different _ _ => different

theorem pairwise_fixed (h : bundle.Generated protocol root graph exemptions shared) :
    (bundle.sharedTypes :: bundle.fixed).Pairwise Apart := by
  have distinct : ((bundle.sharedTypes :: bundle.fixed).map (place ·.path)).Nodup := by
    have all := place_fixedPaths_nodup
    rwa [← h.fixed_paths, List.map_map] at all
  exact (List.pairwise_map.1 distinct).imp fun different _ _ => different

theorem pairwise_apart_iff (h : bundle.Generated protocol root graph exemptions shared) :
    bundle.list.Pairwise Apart ↔
      bundle.packages.Pairwise (fun entry other => entry.1.folder ≠ other.1.folder) ∧
        ∀ entry ∈ bundle.packages, Apart entry.2.types bundle.sharedTypes := by
  rw [list_eq, List.pairwise_append, List.pairwise_flatMap]
  constructor
  · rintro ⟨⟨-, between⟩, -, across⟩
    refine ⟨between.imp_of_mem fun first second => (h.apart_packages_iff first second).1, ?_⟩
    intro entry member
    exact across _ (List.mem_flatMap.2 ⟨entry, member, List.mem_cons_self⟩) _ List.mem_cons_self
  · rintro ⟨folders, shared⟩
    -- Within a package, between two packages, among the fixed files, and across to these.
    refine ⟨⟨fun entry member => h.pairwise_package member, ?_⟩, h.pairwise_fixed, ?_⟩
    · exact folders.imp_of_mem fun first second => (h.apart_packages_iff first second).2
    · intro file listed single inside
      obtain ⟨entry, member, listed⟩ := List.mem_flatMap.1 listed
      rcases List.mem_cons.1 inside with rfl | inside
      · exact h.apart_shared member listed (shared entry member)
      · exact fun _ _ => h.apart_fixed member listed inside

theorem sharedTypes_isEmpty (h : bundle.Generated protocol root graph exemptions shared)
    (arranges : bundle.Arranges protocol files) :
    bundle.sharedTypes.isEmpty = false ↔ protocol.DeclaresShared := by
  constructor
  · intro written
    by_contra alone
    -- By induction on the domains, no step adds to the shared package.
    obtain ⟨lists, emitted⟩ := h.emitted
    have untouched : shared = {} := by
      refine thread_invariant (I := fun s : SharedPackage => s = {}) ?_ emitted rfl
      rintro before domain after files member step rfl
      refine domainPackage_shared step fun type inside => ?_
      rw [← Option.not_isSome_iff_eq_none]
      exact fun redirected => alone ⟨domain, List.mem_mergeSort.1 member, type, inside, redirected⟩
    have blank : bundle.sharedTypes.isEmpty = true := by
      rw [h.sharedTypes, untouched]
      exact SourceFile.isEmpty_of_items rfl
    rw [blank] at written
    cases written
  · rintro ⟨owner, member, type, inside, redirected⟩
    obtain ⟨package, found⟩ := arranges.exists_package member
    obtain ⟨ident, redirected⟩ := Option.isSome_iff_exists.1 redirected
    obtain ⟨accepted, next, chunk, defines, sub⟩ := h.shared_defines found inside redirected
    obtain ⟨expr, defined⟩ := defines.type
    exact SourceFile.isEmpty_eq_false (sub defined) rfl

theorem apart_types_iff (h : bundle.Generated protocol root graph exemptions shared)
    (arranges : bundle.Arranges protocol files) (member : entry ∈ bundle.packages) :
    Apart entry.2.types bundle.sharedTypes ↔
      ¬(entry.1.folder = place "protocol/internal" ∧ entry.1.types ≠ [] ∧
        protocol.DeclaresShared) := by
  have written : entry.2.types.isEmpty = false ↔ entry.1.types ≠ [] := by
    obtain ⟨run, before, after, succeeds, same, -⟩ := h.packages entry member
    rw [same, ← Bool.not_eq_true, succeeds.types_isEmpty]
  have path : bundle.sharedTypes.path = "protocol/internal/types.go" := by
    rw [h.sharedTypes]
    rfl
  rw [Apart, written, h.sharedTypes_isEmpty arranges, h.place_types member, path,
    place_sharedTypes]
  simp only [ne_eq, Place.below_inj, and_true]
  constructor
  · rintro apart ⟨same, some_, declares⟩
    exact apart some_ declares same
  · intro apart some_ declares same
    exact apart ⟨same, some_, declares⟩

theorem folders_nodup_iff (h : bundle.Generated protocol root graph exemptions shared)
    (plain : ∀ domain ∈ protocol.domains, '/' ∉ domain.name.toList) :
    (protocol.domains.map Domain.folder).Nodup ↔ (protocol.domains.map Domain.package).Nodup := by
  constructor
  · intro folders
    refine List.Nodup.of_map (fun package => place (joinPath "protocol" package)) ?_
    rw [List.map_map]
    exact folders
  · intro packages
    refine List.Nodup.map_on ?_ packages.of_map
    intro domain left other right same
    rcases package_eq_of_folder (plain domain left) (plain other right) same with same | same
    · exact List.inj_on_of_nodup_map packages left right same
    · exact List.inj_on_of_nodup_map h.idents_nodup left right same

theorem nodup_places_iff (h : bundle.Generated protocol root graph exemptions shared)
    (arranges : bundle.Arranges protocol files) :
    ((files.filter (!·.isEmpty)).map (place ·.path)).Nodup ↔
      (protocol.domains.map Domain.folder).Nodup ∧
        ∀ domain ∈ protocol.domains, ¬(domain.folder = place "protocol/internal" ∧
          domain.types ≠ [] ∧ protocol.DeclaresShared) := by
  have folders : bundle.packages.Pairwise (fun entry other => entry.1.folder ≠ other.1.folder) ↔
      (protocol.domains.map Domain.folder).Nodup := by
    have sorted : (protocol.domains.map Domain.folder).Perm
        ((bundle.packages.map (·.1)).map Domain.folder) := by
      rw [arranges.domains]
      exact (sortByName_perm protocol.domains).symm.map Domain.folder
    rw [sorted.nodup_iff, List.Nodup, List.pairwise_map, List.pairwise_map]
  rw [nodup_written_iff, ← arranges.list, h.pairwise_apart_iff, folders]
  refine and_congr_right fun _ => ⟨fun apart domain member => ?_, fun apart entry member => ?_⟩
  · obtain ⟨package, found⟩ := arranges.exists_package member
    exact (h.apart_types_iff arranges found).1 (apart _ found)
  · exact (h.apart_types_iff arranges member).2 (apart _ (arranges.mem_domains member))

end Generated

end Bundle

/-- No file is written over another exactly when the domains have directories of their own and none
that has types is kept with the shared ones. For names without separators, directories are the same
exactly when packages are. -/
theorem written_distinct_iff {protocol : Protocol} {root : String} {files : List SourceFile}
    (h : generate protocol root = .ok files) :
    (((files.filter (!·.isEmpty)).map (place ·.path)).Nodup ↔
      (protocol.domains.map Domain.folder).Nodup ∧
        ∀ domain ∈ protocol.domains, ¬(domain.folder = place "protocol/internal" ∧
          domain.types ≠ [] ∧ protocol.DeclaresShared)) ∧
      ((∀ domain ∈ protocol.domains, '/' ∉ domain.name.toList) →
        ((protocol.domains.map Domain.folder).Nodup ↔
          (protocol.domains.map Domain.package).Nodup)) := by
  obtain ⟨bundle, graph, exemptions, shared, arranges, generated⟩ := generate_eq_ok h
  exact ⟨generated.nodup_places_iff arranges, generated.folders_nodup_iff⟩

theorem written_distinct_iff_sampleProtocol :
    ∃ files, generate sampleProtocol "r" = .ok files ∧
      (∀ domain ∈ sampleProtocol.domains, '/' ∉ domain.name.toList) ∧
      (((files.filter (!·.isEmpty)).map (place ·.path)).Nodup ↔
        (sampleProtocol.domains.map Domain.folder).Nodup ∧
          ∀ domain ∈ sampleProtocol.domains, ¬(domain.folder = place "protocol/internal" ∧
            domain.types ≠ [] ∧ sampleProtocol.DeclaresShared)) ∧
        ((sampleProtocol.domains.map Domain.folder).Nodup ↔
          (sampleProtocol.domains.map Domain.package).Nodup) := by
  obtain ⟨files, generates⟩ := sampleProtocol_generates
  have plain : ∀ domain ∈ sampleProtocol.domains, '/' ∉ domain.name.toList := by decide +kernel
  obtain ⟨distinct, folders⟩ := written_distinct_iff generates
  exact ⟨files, generates, plain, distinct, folders plain⟩

def recasedProtocol : Protocol where
  domains := [{ name := "FOO" }, { name := "Foo" }]

theorem recasedProtocol_sorted : sortByName recasedProtocol.domains = recasedProtocol.domains :=
  sortByName_of_pairwise (by decide)

/-- Something is generated from the two, and the clients are both written to one file. -/
theorem written_same_place :
    ∃ files, generate recasedProtocol "r" = .ok files ∧
      ¬((files.filter (!·.isEmpty)).map (place ·.path)).Nodup := by
  have succeeds : (generate recasedProtocol "r").toOption.any fun _ => true := by
    simp only [generate, emitDomains, assemble, recasedProtocol_sorted]
    decide +kernel
  obtain ⟨files, generates, -⟩ := exists_ok_of_any succeeds
  obtain ⟨bundle, graph, exemptions, shared, arranges, generated⟩ := generate_eq_ok generates
  refine ⟨files, generates, fun distinct => ?_⟩
  have folders := ((generated.nodup_places_iff arranges).1 distinct).1
  have packages := (generated.folders_nodup_iff (by decide +kernel)).1 folders
  exact absurd packages (by decide +kernel)

end Bindings
