import Bindings.Proofs.Emission.Paths
import Bindings.Proofs.Output.Imports
import Bindings.Proofs.Output.Layers
import Bindings.Proofs.Resolution.Canonical

/-! The names that imports bind in a file.

An import binds the last element of its path. The fixed packages bind different names, but packages of
domains are called after arbitrary domains, so that one of them can be called like another import.
-/

set_option autoImplicit false

namespace Bindings

namespace Go

def importName (path : String) : String :=
  .ofList ((Text.splitWhere (· == '/') path.toList).getLastD [])

theorem importName_append (base last : String) :
    importName (base ++ "/" ++ last) = importName last := by
  have spelled : (base ++ "/" ++ last).toList = base.toList ++ '/' :: last.toList := by simp
  rw [importName, spelled, Text.splitWhere_append_cons (by decide), importName]
  simp [List.getLastD_eq_getLast?, List.getLast?_append,
    List.getLast?_eq_some_getLast (Text.splitWhere_ne_nil (· == '/') last.toList)]

namespace SourceFile

/-- Whether every import of a file binds a name of its own. -/
def Unambiguous (file : SourceFile) : Prop := (file.imports.map importName).Nodup

instance (file : SourceFile) : Decidable file.Unambiguous :=
  inferInstanceAs (Decidable (List.Nodup _))

theorem unambiguous_iff {file : SourceFile} (distinct : file.imports.Nodup) :
    file.Unambiguous ↔
      ∀ a ∈ file.imports, ∀ b ∈ file.imports, importName a = importName b → a = b := by
  rw [Unambiguous, List.nodup_map_iff_inj_on distinct]

end SourceFile

end Go

open Emission
open Go (SourceFile importName)

def Domain.binds (domain : Domain) : String := importName domain.package

theorem importName_domain (root : String) (domain : Domain) :
    importName (Imports.domain root domain.package).path = domain.binds := by
  have path : (Imports.domain root domain.package).path =
      root ++ "/protocol" ++ "/" ++ domain.package := by
    simp [Imports.domain, String.append_assoc]
  rw [path, Go.importName_append, Domain.binds]

theorem importName_rpcc (root : String) : importName (Imports.rpcc root).path = "rpcc" := by
  have path : (Imports.rpcc root).path = root ++ "/" ++ "rpcc" := by
    simp [Imports.rpcc, String.append_assoc]
  rw [path, Go.importName_append]
  decide +kernel

theorem importName_testutil (root : String) :
    importName (Imports.testutil root).path = "testutil" := by
  have path : (Imports.testutil root).path = root ++ "/internal" ++ "/" ++ "testutil" := by
    simp [Imports.testutil, String.append_assoc]
  rw [path, Go.importName_append]
  decide +kernel

theorem importName_internal (root : String) :
    importName (Imports.internal root).path = "internal" := by
  have path : (Imports.internal root).path = root ++ "/protocol" ++ "/" ++ "internal" := by
    simp [Imports.internal, Imports.domain, String.append_assoc]
  rw [path, Go.importName_append]
  decide +kernel

namespace Emission

def fixedImports (root : String) : List String :=
  standardPaths ++ ["io", "sync", (Imports.rpcc root).path, (Imports.testutil root).path,
    (Imports.internal root).path]

def fixedNames : List String :=
  ["context", "json", "errors", "fmt", "strings", "testing", "time", "io", "sync", "rpcc",
    "testutil", "internal"]

theorem importName_fixedImports (root : String) :
    (fixedImports root).map importName = fixedNames := by
  have standard : (standardPaths ++ ["io", "sync"]).map importName =
      ["context", "json", "errors", "fmt", "strings", "testing", "time", "io", "sync"] := by
    decide +kernel
  have split : fixedImports root = standardPaths ++ ["io", "sync"] ++
      [(Imports.rpcc root).path, (Imports.testutil root).path, (Imports.internal root).path] := by
    simp [fixedImports]
  rw [split, List.map_append, standard]
  simp only [List.map_cons, List.map_nil, importName_rpcc, importName_testutil,
    importName_internal]
  rfl

theorem eq_of_importName {root a b : String} (left : a ∈ fixedImports root)
    (right : b ∈ fixedImports root) (same : importName a = importName b) : a = b := by
  have distinct : ((fixedImports root).map importName).Nodup := by
    rw [importName_fixedImports]
    decide
  exact List.inj_on_of_nodup_map distinct left right same

theorem nodup_imports_file (chunk : Chunk) (path package : String) (doc : List String) :
    (chunk.file path package doc).imports.Nodup := by
  have sorted : (chunk.file path package doc).imports.Pairwise (· < ·) := by
    rw [Chunk.file]
    dsimp only
    induction chunk.imports with
    | nil => exact .nil
    | cons head rest ih => exact pairwise_insertSorted ih
  exact sorted.imp ne_of_lt

variable {domain : Domain} {file : SourceFile}

theorem unambiguous_of_fixed (root : String) (distinct : file.imports.Nodup)
    (fixed : file.imports ⊆ fixedImports root) : file.Unambiguous :=
  (Go.SourceFile.unambiguous_iff distinct).2 fun _ left _ right =>
    eq_of_importName (fixed left) (fixed right)

variable {root : String}

/-- Next to the fixed packages only those of domains can be mistaken for another. -/
theorem unambiguous_iff_of_known {domains : List Domain} (distinct : file.imports.Nodup)
    (known : ∀ path ∈ file.imports, path ∈ fixedImports root ∨
      ∃ owner ∈ domains, path = (Imports.domain root owner.package).path) :
    file.Unambiguous ↔
      ∀ domain ∈ domains, (Imports.domain root domain.package).path ∈ file.imports →
        ∀ path ∈ file.imports, importName path = domain.binds →
          path = (Imports.domain root domain.package).path := by
  rw [Go.SourceFile.unambiguous_iff distinct]
  constructor
  · intro apart domain _ imported path inside same
    exact apart path inside _ imported (same.trans (importName_domain root domain).symm)
  · intro apart a left b right same
    rcases known a left with fixed | ⟨owner, member, rfl⟩
    · rcases known b right with also | ⟨owner, member, rfl⟩
      · exact eq_of_importName fixed also same
      · exact apart owner member right a left (same.trans (importName_domain root owner))
    · exact (apart owner member left b right
        (same.symm.trans (importName_domain root owner))).symm

theorem imports_clientChunk : (clientChunk root domain).imports ⊆ fixedImports root := by
  intro path inside
  have known : path = (Imports.rpcc root).path ∨ path = Imports.context.path ∨
      path = (Imports.internal root).path := by
    simp only [clientChunk, Chunk.imports_append, Chunk.imports_concat, List.flatMap_map,
      invokeChunk, subscribeChunk, List.mem_append, List.mem_flatMap, Chunk.mem_imports_ofDecls,
      List.mem_cons, List.not_mem_nil, or_false] at inside
    grind
  rcases known with rfl | rfl | rfl <;> simp [fixedImports, standardPaths, standardPackages]

theorem imports_testChunk : (testChunk root domain).imports ⊆ fixedImports root := by
  intro path inside
  have known : ∃ package ∈ Imports.rpcc root :: testImports root, package.path = path := by
    simp only [testChunk, Chunk.imports_concat, List.flatMap_append, List.flatMap_map,
      List.mem_append, List.mem_flatMap, Chunk.mem_imports_ofDecls] at inside
    grind
  obtain ⟨package, member, rfl⟩ := known
  simp only [testImports, List.mem_cons, List.not_mem_nil, or_false] at member
  rcases member with rfl | rfl | rfl | rfl | rfl <;>
    simp [fixedImports, standardPaths, standardPackages]

theorem unambiguous_transportFile (root : String) : (transportFile root).Unambiguous := by
  let paths :=
    [(Imports.rpcc root).path, "testing", "sync", "io", "encoding/json", "context"]
  -- The imports are the same as those of a file that is made from them at once.
  have imports : (transportFile root).imports = (Chunk.file ⟨paths, []⟩ "" "").imports := rfl
  refine unambiguous_of_fixed root (imports ▸ nodup_imports_file _ _ _ _) ?_
  rw [imports]
  intro path inside
  have member : path ∈ paths := Chunk.mem_imports_file.1 inside
  simp only [paths, List.mem_cons, List.not_mem_nil, or_false] at member
  rcases member with rfl | rfl | rfl | rfl | rfl | rfl <;>
    simp [fixedImports, standardPaths, standardPackages, Imports.standard, Imports.testing,
      Imports.json, Imports.context]

/-- The client of all domains imports the transport and every domain package. -/
theorem mem_imports_rootClient {version : Option Version} {domains : List Domain} {path : String} :
    path ∈ (topFiles root version domains).client.imports ↔ path = (Imports.rpcc root).path ∨
      ∃ domain ∈ domains, path = (Imports.domain root domain.package).path := by
  simp only [topFiles, Chunk.mem_imports_file, List.mem_cons, List.mem_map]
  exact or_congr_right (exists_congr fun domain => and_congr_right fun _ => eq_comm)

theorem rpcc_ne_domain (package : String) :
    (Imports.rpcc root).path ≠ (Imports.domain root package).path := by
  intro same
  have after : "/rpcc" = "/protocol/" ++ package := by
    simpa [Imports.rpcc, Imports.domain, String.append_assoc] using same
  have second := congrArg (fun text => text.toList[1]?) after
  simp at second

theorem package_eq_of_path {first second : String}
    (same : (Imports.domain root first).path = (Imports.domain root second).path) :
    first = second :=
  (String.append_right_inj _).1 same

theorem contractMembers_eq_nil_iff :
    contractMembers root domain = [] ↔ Domain.methods domain = [] := by
  simp [contractMembers, Domain.methods]

end Emission

/-- Which files have imports that bind one name, by their role. -/
structure Bundle.ImportNames (bundle : Bundle) (protocol : Protocol) (root : String) : Prop where
  packages : ∀ entry ∈ bundle.packages, ∀ file ∈ entry.2.list, file.Unambiguous ↔
    ∀ domain ∈ protocol.domains, (Imports.domain root domain.package).path ∈ file.imports →
      ∀ path ∈ file.imports, importName path = domain.binds →
        path = (Imports.domain root domain.package).path
  clients : ∀ entry ∈ bundle.packages, entry.2.client.Unambiguous ∧ entry.2.tests.Unambiguous
  client : bundle.top.client.Unambiguous ↔ ∀ domain ∈ protocol.domains, domain.binds ≠ "rpcc" ∧
    ∀ other ∈ protocol.domains, other.binds = domain.binds → other.package = domain.package
  contracts : bundle.top.contracts.Unambiguous ↔
    ∀ domain ∈ protocol.domains, Emission.Domain.methods domain ≠ [] → domain.binds ≠ "context" ∧
      ∀ other ∈ protocol.domains, Emission.Domain.methods other ≠ [] →
        other.binds = domain.binds → other.package = domain.package
  others : ∀ file ∈ [bundle.sharedTypes, bundle.sharedErrors, bundle.top.wireNames,
    bundle.top.errors, bundle.transport], file.Unambiguous

namespace Bundle.Generated

variable {bundle : Bundle} {protocol : Protocol} {root : String} {graph : ImportGraph}
  {exemptions : Exemptions} {shared : SharedPackage} {files : List SourceFile}
  {entry : Domain × DomainFiles} {file : SourceFile}

theorem imports_known (h : bundle.Generated protocol root graph exemptions shared)
    (arranges : bundle.Arranges protocol files) (member : entry ∈ bundle.packages)
    (listed : file ∈ entry.2.list) {path : String} (inside : path ∈ file.imports) :
    path ∈ fixedImports root ∨
      ∃ owner ∈ protocol.domains, path = (Imports.domain root owner.package).path := by
  obtain ⟨run, before, after, succeeds, same, -⟩ := h.packages entry member
  rw [same] at listed
  cases succeeds.mayImport_files listed inside with
  | standard member => exact .inl (List.mem_append_left _ member)
  | transport | testing | internal => exact .inl (by simp [fixedImports])
  | reference referred resolved led =>
    have covers := (ImportGraph.ofProtocol_eq_ok h.built).2 entry.1 (arranges.mem_domains member)
    rcases owner_of_reference covers referred resolved led with rfl | ⟨owner, found, path, -⟩
    · exact .inl (by simp [fixedImports])
    · exact .inr ⟨owner, found, path⟩

theorem nodup_imports (h : bundle.Generated protocol root graph exemptions shared)
    (member : entry ∈ bundle.packages) (listed : file ∈ entry.2.list) : file.imports.Nodup := by
  obtain ⟨run, before, after, -, same, -⟩ := h.packages entry member
  rw [same] at listed
  simp only [DomainFiles.list, List.mem_cons, List.not_mem_nil, or_false] at listed
  rcases listed with rfl | rfl | rfl | rfl | rfl <;> exact nodup_imports_file _ _ _ _

theorem unambiguous_client_iff (h : bundle.Generated protocol root graph exemptions shared) :
    bundle.top.client.Unambiguous ↔ ∀ domain ∈ protocol.domains, domain.binds ≠ "rpcc" ∧
      ∀ other ∈ protocol.domains, other.binds = domain.binds → other.package = domain.package := by
  have known (path : String) : path ∈ bundle.top.client.imports ↔ path = (Imports.rpcc root).path ∨
      ∃ domain ∈ protocol.domains, path = (Imports.domain root domain.package).path := by
    simp only [h.top, mem_imports_rootClient, sortByName, List.mem_mergeSort]
  have distinct : bundle.top.client.imports.Nodup := h.top ▸ nodup_imports_file _ _ _ _
  rw [unambiguous_iff_of_known distinct fun path inside => ((known path).1 inside).imp_left
    fun same => same ▸ by simp [fixedImports]]
  constructor
  · intro apart domain member
    have imported := (known _).2 (.inr ⟨domain, member, rfl⟩)
    refine ⟨fun same => ?_, fun other found same => ?_⟩
    · refine rpcc_ne_domain domain.package (apart domain member imported _ ((known _).2 (.inl rfl)) ?_)
      rw [importName_rpcc, same]
    · have also := (known _).2 (.inr ⟨other, found, rfl⟩)
      refine package_eq_of_path (apart domain member imported _ also ?_)
      rw [importName_domain, same]
  · intro apart domain member _ path inside same
    rcases (known path).1 inside with rfl | ⟨other, found, rfl⟩
    · rw [importName_rpcc] at same
      exact absurd same.symm (apart domain member).1
    · rw [importName_domain] at same
      rw [(apart domain member).2 other found same]

theorem unambiguous_contracts_iff (h : bundle.Generated protocol root graph exemptions shared) :
    bundle.top.contracts.Unambiguous ↔
      ∀ domain ∈ protocol.domains, Emission.Domain.methods domain ≠ [] →
        domain.binds ≠ "context" ∧
          ∀ other ∈ protocol.domains, Emission.Domain.methods other ≠ [] →
            other.binds = domain.binds → other.package = domain.package := by
  have known (path : String) : path ∈ bundle.top.contracts.imports ↔ ∃ domain ∈ protocol.domains,
      Emission.Domain.methods domain ≠ [] ∧
        (path = Imports.context.path ∨ path = (Imports.domain root domain.package).path) := by
    simp only [h.top, mem_imports_contracts, sortByName, List.mem_mergeSort, ne_eq,
      contractMembers_eq_nil_iff]
  have distinct : bundle.top.contracts.imports.Nodup := h.top ▸ nodup_imports_file _ _ _ _
  have context : importName Imports.context.path = "context" := by decide +kernel
  rw [Go.SourceFile.unambiguous_iff distinct]
  constructor
  · intro apart domain member has
    have imported := (known _).2 ⟨domain, member, has, .inr rfl⟩
    refine ⟨fun same => ?_, fun other found also same => ?_⟩
    · refine context_ne_domain domain.package
        (apart _ ((known _).2 ⟨domain, member, has, .inl rfl⟩) _ imported ?_)
      rw [context, importName_domain, same]
    · refine package_eq_of_path
        (apart _ ((known _).2 ⟨other, found, also, .inr rfl⟩) _ imported ?_)
      rw [importName_domain, importName_domain, same]
  · intro apart a left b right same
    obtain ⟨domain, member, has, rfl | rfl⟩ := (known a).1 left <;>
      obtain ⟨other, found, also, rfl | rfl⟩ := (known b).1 right
    · rfl
    · rw [context, importName_domain] at same
      exact absurd same.symm (apart other found also).1
    · rw [context, importName_domain] at same
      exact absurd same (apart domain member has).1
    · rw [importName_domain, importName_domain] at same
      rw [(apart other found also).2 domain member has same]

theorem importNames (h : bundle.Generated protocol root graph exemptions shared)
    (arranges : bundle.Arranges protocol files) : bundle.ImportNames protocol root where
  packages entry member file listed :=
    unambiguous_iff_of_known (h.nodup_imports member listed)
      fun _ inside => h.imports_known arranges member listed inside
  clients entry member := by
    obtain ⟨run, before, after, -, same, -⟩ := h.packages entry member
    rw [same]
    refine ⟨unambiguous_of_fixed root (nodup_imports_file _ _ _ _) fun path inside => ?_,
      unambiguous_of_fixed root (nodup_imports_file _ _ _ _) fun path inside => ?_⟩
    · exact imports_clientChunk (Chunk.mem_imports_file.1 inside)
    · exact imports_testChunk (Chunk.mem_imports_file.1 inside)
  client := h.unambiguous_client_iff
  contracts := h.unambiguous_contracts_iff
  others file listed := by
    simp only [h.sharedTypes, h.sharedErrors, h.top, h.transport, List.mem_cons,
      List.not_mem_nil, or_false] at listed
    rcases listed with rfl | rfl | rfl | rfl | rfl
    · refine unambiguous_of_fixed root (nodup_imports_file _ _ _ _) fun path inside => ?_
      have standard := h.sound.adds.imports path (Chunk.mem_imports_file.1 inside)
      exact List.mem_append_left _ standard
    · exact List.nodup_singleton _
    · exact List.nodup_nil
    · exact List.nodup_singleton _
    · exact unambiguous_transportFile root

/-- Where the packages of domains bind names of their own, so do the imports of every file. -/
theorem unambiguous (h : bundle.Generated protocol root graph exemptions shared)
    (arranges : bundle.Arranges protocol files) (apart : ∀ domain ∈ protocol.domains,
      domain.binds ∉ fixedNames ∧
        ∀ other ∈ protocol.domains, other.binds = domain.binds → other.package = domain.package)
    (listed : file ∈ files) : file.Unambiguous := by
  have names := h.importNames arranges
  have free {domain : Domain} (member : domain ∈ protocol.domains) {name : String}
      (fixed : name ∈ fixedNames) : domain.binds ≠ name :=
    fun same => (apart domain member).1 (same ▸ fixed)
  rw [← arranges.list] at listed
  simp only [Bundle.list, TopFiles.list, List.mem_append, List.mem_flatMap, List.mem_cons,
    List.not_mem_nil, or_false] at listed
  rcases listed with ((⟨entry, member, listed⟩ | rfl | rfl) | rfl | rfl | rfl | rfl) | rfl
  · refine (names.packages entry member file listed).2 fun domain found _ path inside same => ?_
    rcases h.imports_known arranges member listed inside with fixed | ⟨other, found', rfl⟩
    · have bound : importName path ∈ fixedNames :=
        importName_fixedImports root ▸ List.mem_map_of_mem fixed
      exact absurd same.symm (free found bound)
    · rw [importName_domain] at same
      rw [(apart domain found).2 other found' same]
  · exact names.others _ (by simp)
  · exact names.others _ (by simp)
  · exact names.client.2 fun domain member => ⟨free member (by decide), (apart domain member).2⟩
  · exact names.contracts.2 fun domain member _ =>
      ⟨free member (by decide), fun other found _ => (apart domain member).2 other found⟩
  · exact names.others _ (by simp)
  · exact names.others _ (by simp)
  · exact names.others _ (by simp)

end Bundle.Generated

/-- A domain whose name has no separators is imported by its package. -/
theorem Domain.binds_eq_package {domain : Domain} (plain : '/' ∉ domain.name.toList) :
    domain.binds = domain.package := by
  have uncut : ∀ c ∈ domain.package.toList, (c == '/') = false := fun c member =>
    beq_false_of_ne fun same => separator_notMem_package plain (same ▸ member)
  rw [Domain.binds, importName, Text.splitWhere_of_forall uncut]
  simp

/-- Two imports of a file bind one name only where a domain package is called like another import,
which is told for every file. It happens in none as long as the names of domains have no separators
and are none of the fixed names in small letters. -/
theorem imports_named {protocol : Protocol} {root : String} {files : List SourceFile}
    (h : generate protocol root = .ok files) :
    (∃ bundle : Bundle, bundle.Arranges protocol files ∧ bundle.ImportNames protocol root) ∧
      ((∀ domain ∈ protocol.domains,
        '/' ∉ domain.name.toList ∧ domain.package ∉ fixedNames) →
          ∀ file ∈ files, file.Unambiguous) := by
  obtain ⟨bundle, graph, exemptions, shared, arranges, generated⟩ := generate_eq_ok h
  refine ⟨⟨bundle, arranges, generated.importNames arranges⟩, fun plain file listed => ?_⟩
  refine generated.unambiguous arranges (fun domain member => ?_) listed
  have binds {domain : Domain} (member : domain ∈ protocol.domains) :
      domain.binds = domain.package := Domain.binds_eq_package (plain domain member).1
  rw [binds member]
  exact ⟨(plain domain member).2, fun other found same => binds found ▸ same⟩

theorem imports_named_sampleProtocol :
    ∃ files, generate sampleProtocol "r" = .ok files ∧
      (∀ domain ∈ sampleProtocol.domains,
        '/' ∉ domain.name.toList ∧ domain.package ∉ fixedNames) ∧
      (∃ bundle : Bundle, bundle.Arranges sampleProtocol files ∧
        bundle.ImportNames sampleProtocol "r") ∧
      ∀ file ∈ files, file.Unambiguous := by
  obtain ⟨files, generates⟩ := sampleProtocol_generates
  have plain : ∀ domain ∈ sampleProtocol.domains,
      '/' ∉ domain.name.toList ∧ domain.package ∉ fixedNames := by decide +kernel
  obtain ⟨arranged, unambiguous⟩ := imports_named generates
  exact ⟨files, generates, plain, arranged, unambiguous plain⟩

def contextProtocol : Protocol where
  domains := [{ name := "Context", commands := [{ name := "enable" }] }]

theorem contextProtocol_sorted : sortByName contextProtocol.domains = contextProtocol.domains :=
  sortByName_of_pairwise (List.pairwise_singleton _ _)

/-- The interfaces import two packages that bind the same name. -/
theorem imports_named_alike :
    ∃ files, generate contextProtocol "r" = .ok files ∧ ∃ file ∈ files,
      file.path = "cdp_domains.go" ∧ file.imports = ["context", "r/protocol/context"] ∧
        ¬file.Unambiguous := by
  have found : (generate contextProtocol "r").toOption.any fun files => files.any fun file =>
      file.path == "cdp_domains.go" && file.imports == ["context", "r/protocol/context"] &&
        !decide file.Unambiguous := by
    simp only [generate, emitDomains, assemble, contextProtocol_sorted]
    decide +kernel
  obtain ⟨files, generates, found⟩ := exists_ok_of_any found
  obtain ⟨file, listed, holds⟩ := List.any_eq_true.1 found
  simp only [Bool.and_eq_true, beq_iff_eq, Bool.not_eq_true', decide_eq_false_iff_not] at holds
  exact ⟨files, generates, file, listed, holds.1.1, holds.1.2, holds.2⟩

end Bindings
