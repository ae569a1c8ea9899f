import Bindings.Proofs.Output.Bundle
import Bindings.Proofs.Resolution.Ranking
import Bindings.Proofs.Resolution.Redirects

/-! The packages of the bindings import each other in layers.

The graph that is searched for closed paths is built from the references of a protocol, the imports
of a file are recorded while its declarations are emitted. No import is recorded that the graph has
no edge for.
-/

set_option autoImplicit false

namespace Bindings

open Emission
open Go (SourceFile)

/-- The import of a package of another domain has an edge. -/
theorem owner_of_reference {protocol : Protocol} {graph : ImportGraph} {root : String}
    {domain : Domain} {raw path : String} {reference : Reference}
    (covers : ImportGraph.Covers protocol graph domain) (member : raw ∈ domain.references)
    (resolved : Reference.resolve raw domain.name = .ok reference)
    (led : path ∈ reference.imports root) :
    path = (Imports.internal root).path ∨
      ∃ owner ∈ protocol.domains, path = (Imports.domain root owner.package).path ∧
        owner.name ∈ graph.imports domain.name := by
  -- The graph has resolved the same reference before.
  obtain ⟨found, admits⟩ := covers.2 raw member
  obtain rfl : reference = found := Except.ok.inj (resolved.symm.trans admits.resolved)
  rw [Reference.imports] at led
  split at led
  · cases led
  · next package scope =>
    obtain ⟨node, target⟩ := admits.declared
    obtain ⟨owner, declared, name, -⟩ := Protocol.owner_of_target target
    have same : package = owner.package := by
      rw [Reference.package_of_resolve resolved scope, Domain.package, name]
    refine .inr ⟨owner, declared, ?_, ?_⟩
    · rw [List.mem_singleton.1 led, same]
    · rw [name]
      exact admits.edge package scope
  · exact .inl (List.mem_singleton.1 led)

/-- Every file of a domain package imports the standard library, the transport, the test transport,
the shared package, and only packages of domains of lower rank; the shared package imports the
standard library alone. -/
theorem packages_layered {protocol : Protocol} {root : String} {files : List SourceFile}
    (h : generate protocol root = .ok files) :
    ∃ bundle : Bundle, bundle.Arranges protocol files ∧
      (∃ rank : Domain → Nat, ∀ entry ∈ bundle.packages, ∀ file ∈ entry.2.list,
        ∀ path ∈ file.imports,
          path ∈ standardPaths ∨ path = (Imports.rpcc root).path ∨
            path = (Imports.testutil root).path ∨ path = (Imports.internal root).path ∨
            ∃ owner ∈ protocol.domains, path = (Imports.domain root owner.package).path ∧
              rank owner < rank entry.1) ∧
      ∀ file ∈ [bundle.sharedTypes, bundle.sharedErrors], ∀ path ∈ file.imports,
        path ∈ standardPaths := by
  obtain ⟨bundle, graph, exemptions, shared, arranges, generated⟩ := generate_eq_ok h
  obtain ⟨wellFormed, covers⟩ := ImportGraph.ofProtocol_eq_ok generated.built
  obtain ⟨rank, descends⟩ := ImportGraph.ranking_of_check wellFormed generated.acyclic
  refine ⟨bundle, arranges, ⟨fun domain => rank domain.name, ?_⟩, ?_⟩
  · intro entry member file listed path imported
    have declared : entry.1 ∈ protocol.domains := arranges.mem_domains member
    obtain ⟨run, before, after, succeeds, same, -⟩ := generated.packages entry member
    rw [same] at listed
    cases succeeds.mayImport_files listed imported with
    | standard inside => exact .inl inside
    | transport => exact .inr (.inl rfl)
    | testing => exact .inr (.inr (.inl rfl))
    | internal => exact .inr (.inr (.inr (.inl rfl)))
    | reference inside resolved led =>
      rcases owner_of_reference (covers entry.1 declared) inside resolved led with
        internal | ⟨owner, found, place, edge⟩
      · exact .inr (.inr (.inr (.inl internal)))
      · exact .inr (.inr (.inr (.inr
          ⟨owner, found, place, descends (covers entry.1 declared).1 edge⟩)))
  · intro file listed path imported
    rw [generated.sharedTypes, generated.sharedErrors, List.mem_pair] at listed
    rcases listed with rfl | rfl
    · exact generated.sound.adds.imports path (Chunk.mem_imports_file.1 imported)
    · rw [List.mem_singleton.1 imported]
      decide

theorem packages_layered_sampleProtocol :
    ∃ files, generate sampleProtocol "r" = .ok files ∧
      ∃ bundle : Bundle, bundle.Arranges sampleProtocol files ∧
        (∃ rank : Domain → Nat, ∀ entry ∈ bundle.packages, ∀ file ∈ entry.2.list,
          ∀ path ∈ file.imports,
            path ∈ standardPaths ∨ path = (Imports.rpcc "r").path ∨
              path = (Imports.testutil "r").path ∨ path = (Imports.internal "r").path ∨
              ∃ owner ∈ sampleProtocol.domains,
                path = (Imports.domain "r" owner.package).path ∧ rank owner < rank entry.1) ∧
        ∀ file ∈ [bundle.sharedTypes, bundle.sharedErrors], ∀ path ∈ file.imports,
          path ∈ standardPaths := by
  obtain ⟨files, generates⟩ := sampleProtocol_generates
  exact ⟨files, generates, packages_layered generates⟩

end Bindings
