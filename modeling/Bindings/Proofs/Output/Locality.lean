import Bindings.Proofs.Emission.Locality
import Bindings.Proofs.Output.Bundle
import Mathlib.Data.String.Basic

/-! The packages of one domain in the bindings of two protocols. -/

set_option autoImplicit false

namespace Bindings

open Emission
open Go (SourceFile)

/-- A bundle has one package for each of its domains. -/
theorem Bundle.Generated.mem_packages_iff {bundle : Bundle} {protocol : Protocol} {root : String}
    {graph : ImportGraph} {exemptions : Exemptions} {shared : SharedPackage}
    {files : List SourceFile} (h : bundle.Generated protocol root graph exemptions shared)
    (arranges : bundle.Arranges protocol files) {domain : Domain} {package : DomainFiles}
    (found : (domain, package) ∈ bundle.packages) (other : DomainFiles) :
    (domain, other) ∈ bundle.packages ↔ other = package := by
  have distinct : (bundle.packages.map (·.1)).Nodup := by
    rw [arranges.domains, (sortByName_perm _).nodup_iff]
    exact h.idents_nodup.of_map _
  constructor
  · intro again
    have same := List.inj_on_of_nodup_map distinct again found rfl
    exact congrArg Prod.snd same
  · rintro rfl
    exact found

/-- The package of a domain is the same in all bindings that have the domain: other domains matter as
far as they decide which of the types that it refers to are exempt. -/
theorem packages_local {first second : Protocol} {root : String} {files others : List SourceFile}
    {exempt exempt' : Exemptions} {domain : Domain} (h : generate first root = .ok files)
    (h' : generate second root = .ok others) (determined : Exemptions.ofProtocol first = .ok exempt)
    (determined' : Exemptions.ofProtocol second = .ok exempt') (member : domain ∈ first.domains)
    (member' : domain ∈ second.domains)
    (agree : exempt.AgreeOn domain.name domain.references exempt') :
    ∃ (bundle bundle' : Bundle) (package : DomainFiles), bundle.Arranges first files ∧
      bundle'.Arranges second others ∧
      (∀ other, (domain, other) ∈ bundle.packages ↔ other = package) ∧
      (∀ other, (domain, other) ∈ bundle'.packages ↔ other = package) ∧
      package.list.map (·.path) = Bundle.packagePaths domain := by
  obtain ⟨bundle, _, exemptions, _, arranges, generated⟩ := generate_eq_ok h
  obtain ⟨bundle', _, exemptions', _, arranges', generated'⟩ := generate_eq_ok h'
  obtain rfl : exemptions = exempt := Except.ok.inj (generated.exempted.symm.trans determined)
  obtain rfl : exemptions' = exempt' := Except.ok.inj (generated'.exempted.symm.trans determined')
  obtain ⟨package, found⟩ := arranges.exists_package member
  obtain ⟨package', found'⟩ := arranges'.exists_package member'
  obtain ⟨run, _, _, succeeds, emitted, -⟩ := generated.packages _ found
  obtain ⟨run', _, _, succeeds', emitted', -⟩ := generated'.packages _ found'
  -- The pairs are taken apart here, so that the files of the runs stand for the packages.
  change package = run.files root domain at emitted
  change package' = run'.files root domain at emitted'
  have same : package' = package := by
    rw [emitted, emitted', succeeds.files_eq succeeds' agree]
  refine ⟨bundle, bundle', package, arranges, arranges',
    generated.mem_packages_iff arranges found,
    generated'.mem_packages_iff arranges' (same ▸ found'), ?_⟩
  rw [emitted]
  rfl

instance (domain : String) (references : List String) (first second : Exemptions) :
    Decidable (first.AgreeOn domain references second) :=
  decidable_of_iff (∀ raw ∈ references, ∀ reference ∈ (Reference.resolve raw domain).toOption,
      first.covers reference = second.covers reference) <|
    forall₂_congr fun raw _ => forall_congr' fun reference => by
      cases Reference.resolve raw domain <;> simp [Except.toOption, eq_comm]

/-- Another protocol with the same domain: there is one more domain, and the one that it refers to has
another type of the same name and a command less. -/
def neighbourProtocol : Protocol where
  domains :=
    [{ name := "DOM"
       types :=
         [{ id := some "Nodes", kind := some "array", items := some { kind := some "integer" } }] },
     { name := "Network", types := [{ id := some "RequestId", kind := some "any" }] },
     pageDomain]

theorem neighbourProtocol_sorted :
    sortByName neighbourProtocol.domains = neighbourProtocol.domains :=
  sortByName_of_pairwise (by decide +kernel)

theorem sharedTargets_eq :
    sharedTargets = ["DOM.BackendNodeId", "Network.TimeSinceEpoch", "Page.FrameId"] := by
  have sorted : sharedTargets.Pairwise fun a b => decide (a ≤ b) = true := by
    refine List.pairwise_mergeSort ?_ ?_ _
    · simpa using fun a b c : String => le_trans
    · simpa using fun a b : String => le_total a b
  refine List.Perm.eq_of_pairwise ?_ sorted (by decide)
    ((List.mergeSort_perm _ _).trans (by decide))
  intro a b _ _ before after
  exact le_antisymm (of_decide_eq_true before) (of_decide_eq_true after)

theorem packages_local_pageDomain :
    ∃ files others exempt exempt', generate sampleProtocol "r" = .ok files ∧
      generate neighbourProtocol "r" = .ok others ∧
      Exemptions.ofProtocol sampleProtocol = .ok exempt ∧
      Exemptions.ofProtocol neighbourProtocol = .ok exempt' ∧
      exempt.AgreeOn pageDomain.name pageDomain.references exempt' ∧
      ∃ (bundle bundle' : Bundle) (package : DomainFiles),
        bundle.Arranges sampleProtocol files ∧ bundle'.Arranges neighbourProtocol others ∧
        (∀ other, (pageDomain, other) ∈ bundle.packages ↔ other = package) ∧
        (∀ other, (pageDomain, other) ∈ bundle'.packages ↔ other = package) ∧
        package.list.map (·.path) = Bundle.packagePaths pageDomain := by
  have succeeds : (generate neighbourProtocol "r").toOption.any fun _ => true := by
    simp only [generate, emitDomains, assemble, neighbourProtocol_sorted]
    decide +kernel
  have agreeing : (Exemptions.ofProtocol sampleProtocol).toOption.any fun exempt =>
      (Exemptions.ofProtocol neighbourProtocol).toOption.any fun exempt' =>
        exempt.AgreeOn pageDomain.name pageDomain.references exempt' := by
    simp only [Exemptions.ofProtocol, sharedTargets_eq]
    decide +kernel
  obtain ⟨files, generates⟩ := sampleProtocol_generates
  obtain ⟨others, generates', -⟩ := exists_ok_of_any succeeds
  obtain ⟨exempt, determined, agreeing⟩ := exists_ok_of_any agreeing
  obtain ⟨exempt', determined', agree⟩ := exists_ok_of_any agreeing
  have agree := of_decide_eq_true agree
  exact ⟨files, others, exempt, exempt', generates, generates', determined, determined', agree,
    packages_local generates generates' determined determined' (by simp [sampleProtocol])
      (by simp [neighbourProtocol]) agree⟩

end Bindings
