import Bindings.Emission.Output
import Bindings.Proofs.Emission.TopLevel
import Bindings.Proofs.Protocol.Merging

/-! The files of the bindings by their role.

The files are a flat list. A bundle says which of them is which: five for every domain, then those
that there is one of.
-/

set_option autoImplicit false

namespace Bindings

open Emission
open Go (SourceFile)

structure Bundle where
  packages : List (Domain × DomainFiles)
  sharedTypes : SourceFile
  sharedErrors : SourceFile
  top : TopFiles
  transport : SourceFile

namespace Bundle

def list (bundle : Bundle) : List SourceFile :=
  bundle.packages.flatMap (·.2.list) ++ [bundle.sharedTypes, bundle.sharedErrors] ++
    bundle.top.list ++ [bundle.transport]

def packagePaths (domain : Domain) : List String :=
  ["types.go", "command.go", "event.go", "domain.go", "domain_test.go"].map
    (joinPath (joinPath "protocol" domain.package))

def fixedPaths : List String :=
  ["protocol/internal/types.go", "protocol/internal/error.go", "cdp_client.go", "cdp_domains.go",
    "cdp_methods.go", "cdp_errors.go", "internal/testutil/transport.go"]

/-- A bundle that arranges a list of files: the packages are those of the domains of a protocol, and
each file has the path that its role has. -/
structure Arranges (bundle : Bundle) (protocol : Protocol) (files : List SourceFile) : Prop where
  list : bundle.list = files
  domains : bundle.packages.map (·.1) = sortByName protocol.domains
  paths : bundle.list.map (·.path) =
    (sortByName protocol.domains).flatMap packagePaths ++ fixedPaths

theorem Arranges.mem_domains {bundle : Bundle} {protocol : Protocol} {files : List SourceFile}
    (h : bundle.Arranges protocol files) {entry : Domain × DomainFiles}
    (member : entry ∈ bundle.packages) : entry.1 ∈ protocol.domains := by
  have sorted : entry.1 ∈ sortByName protocol.domains := h.domains ▸ List.mem_map_of_mem member
  exact List.mem_mergeSort.1 sorted

theorem Arranges.exists_package {bundle : Bundle} {protocol : Protocol} {files : List SourceFile}
    (h : bundle.Arranges protocol files) {domain : Domain} (member : domain ∈ protocol.domains) :
    ∃ package, (domain, package) ∈ bundle.packages := by
  have sorted : domain ∈ bundle.packages.map (·.1) := h.domains ▸ List.mem_mergeSort.2 member
  obtain ⟨⟨_, package⟩, found, rfl⟩ := List.mem_map.1 sorted
  exact ⟨package, found⟩

/-- How a bundle has come about: the graph of its protocol has no closed path, its exempt types are
determined, every package is the outcome of a run, and the definitions of all packages are in the
shared one. -/
structure Generated (bundle : Bundle) (protocol : Protocol) (root : String) (graph : ImportGraph)
    (exemptions : Exemptions) (shared : SharedPackage) : Prop where
  built : ImportGraph.ofProtocol protocol = .ok graph
  acyclic : graph.check = .ok ()
  exempted : Exemptions.ofProtocol protocol = .ok exemptions
  emitted : ∃ lists, emitDomains protocol root exemptions = .ok (shared, lists)
  packages : ∀ entry ∈ bundle.packages, ∃ run : PackageRun, ∃ before after,
    run.Succeeds root exemptions before after entry.1 ∧ entry.2 = run.files root entry.1 ∧
      after.chunk.items ⊆ shared.chunk.items
  sound : shared.Sound
  sharedTypes : bundle.sharedTypes = shared.chunk.file "protocol/internal/types.go" "internal"
  sharedErrors : bundle.sharedErrors = opErrorFile
  top : bundle.top = topFiles root protocol.version (sortByName protocol.domains)
  distinct : (bundle.top.list.flatMap (·.names)).Nodup
  transport : bundle.transport = transportFile root

end Bundle

namespace Emission

theorem Site.share_grows {site : Site} {node : TypeNode} {before after : SharedPackage}
    (h : site.share before node = .ok after) : before.chunk.items ⊆ after.chunk.items := by
  rcases share_eq_ok h with ⟨-, rfl⟩ | ⟨ident, accepted, next, chunk, -, -, -, rfl⟩
  · exact List.Subset.refl _
  · exact List.subset_append_left _ _

/-- The types of a package, each added between two states of the shared package. -/
theorem PackageRun.Succeeds.typeSteps {run : PackageRun} {root : String} {exemptions : Exemptions}
    {before after : SharedPackage} {domain : Domain}
    (h : run.Succeeds root exemptions before after domain) :
    before.chunk.items ⊆ after.chunk.items ∧
      List.Forall₂ (fun node chunk => ∃ s t,
        (domainSite root exemptions domain).typeStep s node = .ok (t, chunk) ∧
          t.1.chunk.items ⊆ after.chunk.items) domain.types run.types := by
  have steps := thread_steps
    (R := fun s t : SharedPackage × Go.NameScope => s.1.chunk.items ⊆ t.1.chunk.items)
    (fun _ => List.Subset.refl _) List.Subset.trans
    (fun step => Site.share_grows (Site.typeStep_eq_ok step).2) h.types
  exact ⟨steps.1, steps.2.imp fun node chunk ⟨s, t, _, step, later⟩ => ⟨s, t, step, later⟩⟩

theorem PackageRun.Succeeds.sound {run : PackageRun} {root : String} {exemptions : Exemptions}
    {before after : SharedPackage} {domain : Domain}
    (h : run.Succeeds root exemptions before after domain) (sound : before.Sound) : after.Sound :=
  thread_invariant (I := fun s : SharedPackage × Go.NameScope => s.1.Sound)
    (fun _ step sound => Site.sound_share sound (Site.typeStep_eq_ok step).2) h.types sound

theorem domainPackage_grows {root : String} {exemptions : Exemptions} {before after : SharedPackage}
    {domain : Domain} {files : List SourceFile}
    (h : domainPackage root exemptions before domain = .ok (after, files)) :
    before.chunk.items ⊆ after.chunk.items ∧ (before.Sound → after.Sound) := by
  obtain ⟨run, succeeds, -⟩ := domainPackage_eq_ok h
  exact ⟨succeeds.typeSteps.1, succeeds.sound⟩

end Emission

/-- The packages of the domains, one after the other. -/
theorem emitDomains_eq_ok {protocol : Protocol} {root : String} {exemptions : Exemptions}
    {shared : SharedPackage} {lists : List (List SourceFile)}
    (h : emitDomains protocol root exemptions = .ok (shared, lists)) :
    shared.Sound ∧ List.Forall₂ (fun domain list => ∃ run : PackageRun, ∃ before after,
      run.Succeeds root exemptions before after domain ∧ list = (run.files root domain).list ∧
        after.chunk.items ⊆ shared.chunk.items) (sortByName protocol.domains) lists := by
  have steps := thread_steps (R := fun s t : SharedPackage => s.chunk.items ⊆ t.chunk.items)
    (fun _ => List.Subset.refl _) List.Subset.trans (fun step => (domainPackage_grows step).1) h
  have sound : shared.Sound :=
    thread_invariant (fun _ step => (domainPackage_grows step).2) h SharedPackage.sound_empty
  refine ⟨sound, steps.2.imp ?_⟩
  rintro domain list ⟨before, after, -, step, later⟩
  obtain ⟨run, succeeds, rfl⟩ := domainPackage_eq_ok step
  exact ⟨run, before, after, succeeds, rfl, later⟩

/-- Lists of files that packages consist of are the files of packages. -/
theorem exists_packages {P : Domain → DomainFiles → Prop} {domains : List Domain}
    {lists : List (List SourceFile)}
    (h : List.Forall₂ (fun domain list => ∃ files : DomainFiles, P domain files ∧ list = files.list)
      domains lists) :
    ∃ packages : List (Domain × DomainFiles), packages.map (·.1) = domains ∧
      packages.map (·.2.list) = lists ∧ ∀ entry ∈ packages, P entry.1 entry.2 := by
  induction h with
  | nil => exact ⟨[], rfl, rfl, fun _ member => nomatch member⟩
  | @cons domain list _ _ first _ ih =>
    obtain ⟨files, holds, rfl⟩ := first
    obtain ⟨packages, rfl, rfl, others⟩ := ih
    refine ⟨(domain, files) :: packages, rfl, rfl, fun entry member => ?_⟩
    rcases List.mem_cons.1 member with rfl | member
    · exact holds
    · exact others entry member

theorem generate_eq_ok {protocol : Protocol} {root : String} {files : List SourceFile}
    (h : generate protocol root = .ok files) :
    ∃ (bundle : Bundle) (graph : ImportGraph) (exemptions : Exemptions) (shared : SharedPackage),
      bundle.Arranges protocol files ∧
        bundle.Generated protocol root graph exemptions shared := by
  obtain ⟨exemptions, prepared, h⟩ := bind_eq_ok.1 h
  obtain ⟨graph, built, prepared⟩ := bind_eq_ok.1 prepared
  obtain ⟨⟨⟩, acyclic, exempted⟩ := bind_eq_ok.1 prepared
  obtain ⟨⟨shared, lists⟩, emitted, h⟩ := bind_eq_ok.1 h
  obtain ⟨top, topStep, h⟩ := bind_eq_ok.1 h
  obtain ⟨rfl, distinct⟩ := rootFiles_eq_ok topStep
  obtain ⟨sound, runs⟩ := emitDomains_eq_ok emitted
  -- The steps yield lists of files; which file of a list is which is known from the runs.
  obtain ⟨packages, domains, rfl, each⟩ := exists_packages
    (P := fun domain files => ∃ run : PackageRun, ∃ before after,
      run.Succeeds root exemptions before after domain ∧ files = run.files root domain ∧
        after.chunk.items ⊆ shared.chunk.items)
    (runs.imp fun domain list ⟨run, before, after, succeeds, same, later⟩ =>
      ⟨run.files root domain, ⟨run, before, after, succeeds, rfl, later⟩, same⟩)
  let bundle : Bundle :=
    { packages := packages
      sharedTypes := shared.chunk.file "protocol/internal/types.go" "internal"
      sharedErrors := opErrorFile
      top := topFiles root protocol.version (sortByName protocol.domains)
      transport := transportFile root }
  have listed : bundle.list = files := by
    rw [← pure_eq_ok.1 h, Bundle.list, List.flatMap_def]
    rfl
  have paths : bundle.list.map (·.path) =
      (sortByName protocol.domains).flatMap Bundle.packagePaths ++ Bundle.fixedPaths := by
    have located : ∀ entry ∈ packages,
        entry.2.list.map (·.path) = Bundle.packagePaths entry.1 := by
      intro entry member
      obtain ⟨run, before, after, -, same, -⟩ := each entry member
      rw [same]
      rfl
    rw [← domains, List.flatMap_map, ← List.flatMap_congr located, ← List.map_flatMap]
    simp only [Bundle.list, List.map_append, List.append_assoc, List.append_cancel_left_eq, bundle]
    rfl
  exact ⟨bundle, graph, exemptions, shared, ⟨listed, domains, paths⟩,
    ⟨built, acyclic, exempted, ⟨_, emitted⟩, each, sound, rfl, rfl, rfl, distinct, rfl⟩⟩

/-- The identifiers of domains do not repeat: each is declared with the interfaces. -/
theorem Bundle.Generated.idents_nodup {bundle : Bundle} {protocol : Protocol} {root : String}
    {graph : ImportGraph} {exemptions : Exemptions} {shared : SharedPackage}
    (h : bundle.Generated protocol root graph exemptions shared) :
    (protocol.domains.map (·.ident)).Nodup := by
  have sorted : ((sortByName protocol.domains).map (·.ident)).Nodup :=
    Emission.idents_nodup (h.top ▸ h.distinct)
  exact ((sortByName_perm protocol.domains).map (·.ident)).nodup_iff.1 sorted

section Sample

/-- What evaluation finds of a result tells that there is one. -/
theorem exists_ok_of_any {α : Type} {result : Except Error α} {p : α → Bool}
    (found : result.toOption.any p) : ∃ value, result = .ok value ∧ p value = true := by
  cases result with
  | error e => cases found
  | ok value => exact ⟨value, rfl, found⟩

/-- A domain with an inline record, a redirected command and references of its own and to another
domain. -/
def pageDomain : Domain where
  name := "Page"
  types :=
    [{ id := some "FrameId", kind := some "string" },
     { id := some "Frame"
       kind := some "object"
       properties :=
         [{ name := some "id", reference := some "FrameId" },
          { name := some "parent"
            kind := some "object"
            optional := true
            properties := [{ name := some "frame", reference := some "FrameId" }] },
          { name := some "requests"
            kind := some "array"
            items := some { reference := some "Network.RequestId" } }] }]
  commands :=
    [{ name := "enable" },
     { name := "getCookies"
       returns := [{ name := some "frame", reference := some "FrameId" }]
       redirect := some "Network" }]
  events :=
    [{ name := "frameAttached"
       parameters := [{ name := some "frame", reference := some "Frame" }] }]

def networkDomain : Domain where
  name := "Network"
  types := [{ id := some "RequestId", kind := some "string", literals := ["main-frame"] }]
  commands :=
    [{ name := "replay"
       parameters :=
         [{ name := some "request", reference := some "RequestId" },
          { name := some "frame", reference := some "Page.FrameId", optional := true }]
       returns := [{ name := some "accepted", kind := some "boolean" }] }]

def sampleProtocol : Protocol where
  domains := [networkDomain, pageDomain]

theorem sampleProtocol_sorted : sortByName sampleProtocol.domains = sampleProtocol.domains :=
  sortByName_of_pairwise (by decide +kernel)

theorem sampleProtocol_generates : ∃ files, generate sampleProtocol "r" = .ok files := by
  -- Sorting goes by well-founded recursion, which evaluation cannot open.
  have succeeds : (generate sampleProtocol "r").toOption.any fun _ => true := by
    simp only [generate, emitDomains, assemble, sampleProtocol_sorted]
    decide +kernel
  obtain ⟨files, generates, -⟩ := exists_ok_of_any succeeds
  exact ⟨files, generates⟩

end Sample

end Bindings
