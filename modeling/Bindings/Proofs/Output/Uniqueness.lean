import Bindings.Proofs.Emission.Methods
import Bindings.Proofs.Output.Bundle

/-! No identifier is declared twice.

Most identifiers pass through the scope of their package. Those that do not are told apart by how
they are spelled: the names of tests by their underscore, the error type by its first letter.
-/

set_option autoImplicit false

namespace Bindings

open Emission
open Go (SourceFile)

theorem names_opErrorFile : opErrorFile.names = ["OpError"] := by
  simp [SourceFile.names, opErrorFile, declares_opErrorSource.names]

/-- No shared identifier begins like the error type. -/
theorem head_sharedIdents :
    ∀ ident ∈ sharedTypes.map (·.ident), ∃ c rest, ident.toList = c :: rest ∧ c ≠ 'O' := by
  simp [sharedTypes]

theorem SharedPackage.names_nodup {shared : SharedPackage} (sound : shared.Sound) :
    (shared.chunk.names ++ opErrorFile.names).Nodup := by
  rw [names_opErrorFile, List.nodup_append]
  refine ⟨Go.NameScope.nodup_of_declareAll_nil rfl sound.adds.declares, List.nodup_singleton _, ?_⟩
  rintro name member other isError rfl
  -- A shared identifier equal to the error type would begin with the same letter.
  obtain ⟨ident, declared, literal, same⟩ := sound.named name member
  obtain ⟨c, rest, spelled, notO⟩ := head_sharedIdents ident declared
  have first := congrArg (fun name => name.toList.head?) same
  rw [List.mem_singleton.1 isError] at first
  simp [spelled] at first
  exact notO first.symm

theorem Bundle.Generated.structs_nodup {bundle : Bundle} {protocol : Protocol} {root : String}
    {graph : ImportGraph} {exemptions : Exemptions} {shared : SharedPackage}
    (h : bundle.Generated protocol root graph exemptions shared) {file : SourceFile}
    (listed : file ∈ bundle.list) {fields : List String} (member : fields ∈ file.structs) :
    fields.Nodup := by
  simp only [Bundle.list, List.mem_append, List.mem_flatMap, List.mem_pair,
    List.mem_singleton] at listed
  rcases listed with ((⟨entry, found, listed⟩ | rfl | rfl) | listed) | rfl
  · obtain ⟨run, before, after, succeeds, same, -⟩ := h.packages entry found
    rw [same] at listed
    exact succeeds.structs_files listed member
  · rw [h.sharedTypes] at member
    exact h.sound.adds.structs fields member
  · simp only [h.sharedErrors, SourceFile.structs, opErrorFile, List.flatMap_cons,
      declares_opErrorSource.structs, List.flatMap_nil, List.append_nil,
      List.mem_singleton] at member
    rw [member]
    decide
  · rw [h.top] at listed
    exact structs_topFiles (h.top ▸ h.distinct) listed member
  · have inside : fields ∈ transportSource.decl.structs := by
      simpa [h.transport, SourceFile.structs, transportFile, SourceFile.addImports,
        SourceFile.addImport] using member
    have distinct : ∀ fields ∈ transportSource.decl.structs, fields.Nodup := by
      rw [declares_transportSource.structs]
      decide
    exact distinct fields inside

/-- No identifier is declared twice: in a domain package, in the top-level package, in the shared
package, as a field of a struct, or as a method of a client. -/
theorem identifiers_distinct {protocol : Protocol} {root : String} {files : List SourceFile}
    (h : generate protocol root = .ok files) :
    ∃ bundle : Bundle, bundle.Arranges protocol files ∧
      (∀ entry ∈ bundle.packages, (entry.2.list.flatMap (·.names)).Nodup) ∧
      (bundle.top.list.flatMap (·.names)).Nodup ∧
      (bundle.sharedTypes.names ++ bundle.sharedErrors.names).Nodup ∧
      (∀ file ∈ files, ∀ fields ∈ file.structs, fields.Nodup) ∧
      ∀ entry ∈ bundle.packages,
        ((entry.2.list.flatMap (·.methodsOf "domainClient")).map (·.name)).Nodup := by
  obtain ⟨bundle, graph, exemptions, shared, arranges, generated⟩ := generate_eq_ok h
  refine ⟨bundle, arranges, ?_, generated.distinct, ?_, ?_, ?_⟩
  · intro entry member
    obtain ⟨run, before, after, succeeds, same, -⟩ := generated.packages entry member
    rw [same]
    exact succeeds.names_nodup
  · rw [generated.sharedTypes, generated.sharedErrors]
    exact SharedPackage.names_nodup generated.sound
  · intro file listed fields member
    rw [← arranges.list] at listed
    exact generated.structs_nodup listed member
  · intro entry member
    obtain ⟨run, before, after, succeeds, same, -⟩ := generated.packages entry member
    rw [same, succeeds.methodsOf_files, clientMethods_name]
    exact succeeds.methods_nodup

theorem identifiers_distinct_sampleProtocol :
    ∃ files, generate sampleProtocol "r" = .ok files ∧
      ∃ bundle : Bundle, bundle.Arranges sampleProtocol files ∧
        (∀ entry ∈ bundle.packages, (entry.2.list.flatMap (·.names)).Nodup) ∧
        (bundle.top.list.flatMap (·.names)).Nodup ∧
        (bundle.sharedTypes.names ++ bundle.sharedErrors.names).Nodup ∧
        (∀ file ∈ files, ∀ fields ∈ file.structs, fields.Nodup) ∧
        ∀ entry ∈ bundle.packages,
          ((entry.2.list.flatMap (·.methodsOf "domainClient")).map (·.name)).Nodup := by
  obtain ⟨files, generates⟩ := sampleProtocol_generates
  exact ⟨files, generates, identifiers_distinct generates⟩

end Bindings
