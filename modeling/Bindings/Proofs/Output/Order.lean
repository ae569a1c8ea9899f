import Bindings.Proofs.Output.Bundle
import Bindings.Proofs.Resolution.Canonical

/-! The order of the domains does not matter.

Where names repeat, the first domain of a name is found, and which one that is depends on the order.
But names that repeat have one identifier, so that nothing is generated from them in any order.
-/

set_option autoImplicit false

namespace Bindings

open Emission
open Go (SourceFile)

section Permuted
variable {first second : List Domain}

theorem Domain.eq_of_name (distinct : (first.map (·.name)).Nodup) {a b : Domain} (left : a ∈ first)
    (right : b ∈ first) (same : a.name = b.name) : a = b :=
  List.inj_on_of_nodup_map distinct left right same

/-- Sorting by name is determined by the domains alone where no two have the same name. -/
theorem sortByName_eq_of_perm (distinct : (first.map (·.name)).Nodup)
    (permuted : first.Perm second) : sortByName first = sortByName second := by
  have among : (sortByName first).Perm (sortByName second) :=
    (sortByName_perm first).trans (permuted.trans (sortByName_perm second).symm)
  refine among.eq_of_pairwise ?_ (sortByName_pairwise first) (sortByName_pairwise second)
  intro a b left right before after
  have left : a ∈ first := List.mem_mergeSort.1 left
  have right : b ∈ first := permuted.mem_iff.2 (List.mem_mergeSort.1 right)
  exact Domain.eq_of_name distinct left right (le_antisymm before after)

end Permuted

theorem Protocol.domain?_eq_some_iff {protocol : Protocol}
    (distinct : (protocol.domains.map (·.name)).Nodup) {name : String} {domain : Domain} :
    protocol.domain? name = some domain ↔ domain ∈ protocol.domains ∧ domain.name = name := by
  constructor
  · intro found
    exact ⟨List.mem_of_find?_eq_some found, by simpa using List.find?_some found⟩
  · rintro ⟨member, rfl⟩
    cases found : protocol.domain? domain.name with
    | none => simpa using List.find?_eq_none.1 found domain member
    | some other =>
      have same : other.name = domain.name := by simpa using List.find?_some found
      rw [Domain.eq_of_name distinct (List.mem_of_find?_eq_some found) member same]

/-- The names of domains do not repeat where something is generated from them. -/
theorem names_nodup_of_generate {protocol : Protocol} {root : String} {files : List SourceFile}
    (h : generate protocol root = .ok files) : (protocol.domains.map (·.name)).Nodup := by
  obtain ⟨bundle, graph, exemptions, shared, -, generated⟩ := generate_eq_ok h
  refine List.Nodup.of_map Name.exported ?_
  rw [List.map_map]
  exact generated.idents_nodup

section Protocols
variable {first second : Protocol} {graph : ImportGraph} {exemptions : Exemptions}

theorem target?_eq_of_perm (distinct : (first.domains.map (·.name)).Nodup)
    (permuted : first.domains.Perm second.domains) : first.target? = second.target? := by
  have again : (second.domains.map (·.name)).Nodup := (permuted.map (·.name)).nodup_iff.1 distinct
  funext reference
  have found : first.domain? reference.domain = second.domain? reference.domain := by
    refine Option.ext fun domain => ?_
    rw [Protocol.domain?_eq_some_iff distinct, Protocol.domain?_eq_some_iff again,
      permuted.mem_iff]
  rw [Protocol.target?, Protocol.target?, found]

theorem ImportGraph.ofProtocol_of_perm (distinct : (first.domains.map (·.name)).Nodup)
    (permuted : first.domains.Perm second.domains) (h : ofProtocol first = .ok graph) :
    ofProtocol second = .ok graph := by
  obtain ⟨other, built⟩ : ∃ other, ofProtocol second = .ok other := by
    refine exists_ofProtocol_eq_ok_iff.2 fun domain member raw referred => ?_
    obtain ⟨reference, node, resolved, found⟩ :=
      exists_ofProtocol_eq_ok_iff.1 ⟨graph, h⟩ domain (permuted.mem_iff.2 member) raw referred
    exact ⟨reference, node, resolved, target?_eq_of_perm distinct permuted ▸ found⟩
  obtain ⟨left, leftNames, leftEdges⟩ := ofProtocol_exact h
  obtain ⟨right, rightNames, rightEdges⟩ := ofProtocol_exact built
  -- Both graphs hold the domains and what leads from one to another, which no order enters.
  have same : other = graph := by
    refine right.ext left (fun name => ?_) fun source target => ?_
    · rw [rightNames, leftNames, (permuted.map (·.name)).mem_iff]
    · simp only [rightEdges, leftEdges, permuted.mem_iff]
  rw [built, same]

theorem Exemptions.ofProtocol_of_perm (permuted : first.domains.Perm second.domains)
    (h : ofProtocol first = .ok exemptions) : ofProtocol second = .ok exemptions := by
  obtain ⟨other, built⟩ : ∃ other, ofProtocol second = .ok other := by
    refine exists_ofProtocol_eq_ok_iff.2 fun domain member => ?_
    exact exists_ofProtocol_eq_ok_iff.1 ⟨exemptions, h⟩ domain (permuted.mem_iff.2 member)
  have same : other = exemptions := by
    refine ext_of_sorted (sorted_ofProtocol built) (sorted_ofProtocol h) fun name => ?_
    simp only [mem_ofProtocol built, mem_ofProtocol h, permuted.mem_iff]
  rw [built, same]

theorem prepare_of_perm (distinct : (first.domains.map (·.name)).Nodup)
    (permuted : first.domains.Perm second.domains) (h : prepare first = .ok exemptions) :
    prepare second = .ok exemptions := by
  obtain ⟨graph, built, h⟩ := bind_eq_ok.1 h
  obtain ⟨⟨⟩, acyclic, exempted⟩ := bind_eq_ok.1 h
  exact bind_eq_ok.2 ⟨graph, ImportGraph.ofProtocol_of_perm distinct permuted built,
    bind_eq_ok.2 ⟨(), acyclic, Exemptions.ofProtocol_of_perm permuted exempted⟩⟩

theorem generate_of_perm (version : first.version = second.version)
    (permuted : first.domains.Perm second.domains) {root : String} {files : List SourceFile}
    (h : generate first root = .ok files) : generate second root = .ok files := by
  have distinct := names_nodup_of_generate h
  obtain ⟨exemptions, prepared, h⟩ := bind_eq_ok.1 h
  -- After the preparation the domains are only read in sorted order.
  have sorted := sortByName_eq_of_perm distinct permuted
  refine bind_eq_ok.2 ⟨exemptions, prepare_of_perm distinct permuted prepared, ?_⟩
  rw [emitDomains, ← sorted, ← emitDomains]
  simp only [assemble, ← sorted, ← version]
  exact h

end Protocols

/-- Protocols with the same domains lead to the same files, or all of them to none. -/
theorem generate_eq_ok_iff_of_perm (first second : Protocol) (root : String)
    (version : first.version = second.version) (permuted : first.domains.Perm second.domains)
    (files : List SourceFile) :
    generate first root = .ok files ↔ generate second root = .ok files :=
  ⟨generate_of_perm version permuted, generate_of_perm version.symm permuted.symm⟩

theorem generate_eq_ok_iff_of_perm_sampleProtocol :
    sampleProtocol.domains.Perm [pageDomain, networkDomain] ∧
      ∃ files, generate sampleProtocol "r" = .ok files ∧
        generate { domains := [pageDomain, networkDomain] } "r" = .ok files := by
  have swapped : sampleProtocol.domains.Perm [pageDomain, networkDomain] :=
    .swap pageDomain networkDomain []
  obtain ⟨files, generates⟩ := sampleProtocol_generates
  exact ⟨swapped, files, generates,
    (generate_eq_ok_iff_of_perm sampleProtocol { domains := [pageDomain, networkDomain] } "r" rfl
      swapped files).1 generates⟩

end Bindings
