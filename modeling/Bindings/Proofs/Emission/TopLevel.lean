import Bindings.Proofs.Emission.FixedSources
import Bindings.Proofs.Emission.Packages
import Mathlib.Data.List.Perm.Basic

/-! The top-level package: one scope accepts the identifiers of all of its files. -/

set_option autoImplicit false

namespace Bindings.Emission

open Go (Constant Decl Member NameScope SourceFile)

variable {root : String} {domain : Domain} {domains : List Domain}

def contractMembers (root : String) (domain : Domain) : List Member :=
  domain.ownCommands.map (commandMember root domain) ++ domain.events.map (eventMember root domain)

def contractDecl (root : String) (domain : Domain) : Decl :=
  .interface (domainDoc domain ("The " ++ domain.name ++ " domain.")).lines domain.ident true
    (contractMembers root domain)

def contractChunk (root : String) (domain : Domain) : Chunk :=
  .ofDecls
    (if (contractMembers root domain).isEmpty then []
      else [Imports.context, Imports.domain root domain.package])
    [contractDecl root domain]

theorem contract_eq_ok {scope next : NameScope} {chunk : Chunk}
    (h : contract root scope domain = .ok (next, chunk)) :
    scope.declare domain.ident = .ok next ∧ chunk = contractChunk root domain := by
  obtain ⟨accepted, declared, h⟩ := bind_eq_ok.1 h
  obtain ⟨methods, -, h⟩ := bind_eq_ok.1 h
  cases pure_eq_ok.1 h
  exact ⟨declared, rfl⟩

structure TopFiles where
  client : SourceFile
  contracts : SourceFile
  wireNames : SourceFile
  errors : SourceFile

def TopFiles.list (files : TopFiles) : List SourceFile :=
  [files.client, files.contracts, files.wireNames, files.errors]

def wireDecls (domains : List Domain) : List Decl :=
  constantBlock "Domain methods." (domains.flatMap fun domain => (wireConstants domain).1)
    ++ constantBlock "Domain events." (domains.flatMap fun domain => (wireConstants domain).2)

def topFiles (root : String) (version : Option Version) (domains : List Domain) : TopFiles where
  client := Chunk.file
    ⟨(Imports.rpcc root).path ::
        domains.map fun domain => (Imports.domain root domain.package).path,
      rootClientItems root domains⟩
    "cdp_client.go" rootPackage (clientPackageDoc version)
  contracts := (Chunk.concat (domains.map (contractChunk root))).file "cdp_domains.go" rootPackage
  wireNames := (Chunk.ofDecls [] (wireDecls domains)).file "cdp_methods.go" rootPackage
  errors :=
    { path := "cdp_errors.go", package := "cdp", imports := [Imports.errors.path],
      items := [errorCauseSource] }

theorem names_constantBlock (doc : String) (entries : List Constant) :
    (constantBlock doc entries).flatMap Decl.names = entries.map (·.name) := by
  cases entries with
  | nil => rfl
  | cons entry entries => simp [constantBlock]

theorem names_contracts :
    (Chunk.concat (domains.map (contractChunk root))).names = domains.map (·.ident) := by
  rw [Chunk.names_concat, List.flatMap_map, List.map_eq_flatMap]
  rfl

def topIdents (domains : List Domain) : List String :=
  ["Client", "NewClient"] ++ domains.map (·.ident) ++
    (domains.flatMap fun domain =>
      (wireConstants domain).1 ++ (wireConstants domain).2).map (·.name) ++ ["ErrorCause"]

theorem names_topFiles (version : Option Version) :
    ((topFiles root version domains).list.flatMap (·.names)).Perm (topIdents domains) := by
  have names : (topFiles root version domains).list.flatMap (·.names) =
      ["Client", "NewClient"] ++ (Chunk.concat (domains.map (contractChunk root))).names ++
        (wireDecls domains).flatMap Decl.names ++ ["ErrorCause"] := by
    rw [← Chunk.names_ofDecls []]
    simp [TopFiles.list, SourceFile.names, topFiles, Chunk.names, Chunk.file, rootClientItems,
      declares_errorCauseSource.names]
  have constants : ((wireDecls domains).flatMap Decl.names).Perm
      ((domains.flatMap fun domain =>
        (wireConstants domain).1 ++ (wireConstants domain).2).map (·.name)) := by
    rw [wireDecls, List.flatMap_append, names_constantBlock, names_constantBlock, ← List.map_append]
    exact (List.flatMap_append_perm domains _ _).map _
  rw [names, names_contracts, topIdents]
  exact (constants.append_left _).append_right _

theorem rootFiles_eq_ok {version : Option Version} {files : List SourceFile}
    (h : rootFiles root version domains = .ok files) :
    files = (topFiles root version domains).list ∧
      ((topFiles root version domains).list.flatMap (·.names)).Nodup := by
  obtain ⟨⟨started, client⟩, clientStep, h⟩ := bind_eq_ok.1 h
  obtain ⟨⟨contracted, contracts⟩, contractStep, h⟩ := bind_eq_ok.1 h
  obtain ⟨⟨named, names⟩, nameStep, h⟩ := bind_eq_ok.1 h
  obtain ⟨⟨last, errors⟩, errorStep, h⟩ := bind_eq_ok.1 h
  cases pure_eq_ok.1 h
  obtain ⟨_, acceptsClient, clientStep⟩ := bind_eq_ok.1 clientStep
  cases pure_eq_ok.1 clientStep
  obtain ⟨⟨_, chunks⟩, contractSteps, contractStep⟩ := bind_eq_ok.1 contractStep
  cases pure_eq_ok.1 contractStep
  obtain ⟨_, acceptsNames, nameStep⟩ := bind_eq_ok.1 nameStep
  cases pure_eq_ok.1 nameStep
  obtain ⟨_, acceptsErrors, errorStep⟩ := bind_eq_ok.1 errorStep
  cases pure_eq_ok.1 errorStep
  have acceptsContracts : started.declareAll (domains.map (·.ident)) = .ok contracted := by
    refine NameScope.declareAll_thread id ?_ contractSteps
    intro scope domain accepted chunk step
    exact (contract_eq_ok step).1
  have outputs : chunks = domains.map (contractChunk root) := by
    refine thread_outputs ?_ contractSteps
    intro scope domain accepted chunk step
    exact (contract_eq_ok step).2
  have accepted : NameScope.declareAll ⟨"package " ++ rootPackage, []⟩ (topIdents domains) =
      .ok last := by
    refine NameScope.declareAll_append (NameScope.declareAll_append
      (NameScope.declareAll_append acceptsClient acceptsContracts) ?_)
      (NameScope.declareAll_singleton.2 acceptsErrors)
    rw [List.flatMap_map] at acceptsNames
    rw [List.map_flatMap]
    exact acceptsNames
  refine ⟨?_, (names_topFiles version).nodup_iff.2 (NameScope.nodup_of_declareAll_nil rfl accepted)⟩
  rw [outputs]
  simp [TopFiles.list, topFiles, wireDecls, List.flatMap_map]

/-- No two interfaces have the same identifier. -/
theorem idents_nodup {version : Option Version}
    (distinct : ((topFiles root version domains).list.flatMap (·.names)).Nodup) :
    (domains.map (·.ident)).Nodup := by
  have all : (topIdents domains).Nodup := (names_topFiles version).nodup_iff.1 distinct
  rw [topIdents, List.nodup_append, List.nodup_append, List.nodup_append] at all
  exact all.1.1.2.1

section Structs

theorem structs_contractChunk : (contractChunk root domain).structs = [] := by
  have commands : (domain.ownCommands.map (commandMember root domain)).flatMap
      Go.Member.structs = [] := by
    rw [List.flatMap_map, List.flatMap_eq_nil_iff]
    intro command _
    cases arguments : command.hasArguments <;> cases reply : command.hasReply <;>
      simp [commandMember, Go.Member.structs, Go.Signature.structs, commandContract, arguments,
        reply]
  have events : (domain.events.map (eventMember root domain)).flatMap Go.Member.structs = [] := by
    rw [List.flatMap_map, List.flatMap_eq_nil_iff]
    intro event _
    simp [eventMember, Go.Member.structs, Go.Signature.structs, eventContract]
  rw [contractChunk, Chunk.structs_ofDecls]
  simp [contractDecl, Decl.structs, contractMembers, commands, events]

theorem structs_constantBlock (doc : String) (entries : List Constant) :
    (constantBlock doc entries).flatMap Decl.structs = [] := by
  rw [constantBlock]
  split
  · rfl
  · rfl

/-- The one struct of the client file has a field for every domain. -/
theorem structs_rootClientItems :
    (rootClientItems root domains).flatMap (·.decl.structs) = [domains.map (·.ident)] := by
  have fields : Go.Field.structs
      (domains.map fun domain => .mk [] domain.ident (.named domain.ident) none) = [] := by
    simp [Go.Field.structs_eq_flatMap, List.flatMap_map, Go.Field.type]
  have elements : Go.Element.listStructs (domains.map fun domain =>
      .mk domain.ident
        (.call (.imported (Imports.domain root domain.package) "NewClient") [.ident "conn"])) =
        [] := by
    simp [Go.Element.listStructs_eq_flatMap, List.flatMap_map, Go.Element.value]
  simp [rootClientItems, Decl.structs_function, Go.Signature.structs, Go.Body.structs, fields,
    elements, Go.Field.name, Function.comp_def]

theorem structs_topFiles {version : Option Version} {file : SourceFile}
    (distinct : ((topFiles root version domains).list.flatMap (·.names)).Nodup)
    (listed : file ∈ (topFiles root version domains).list) {fields : List String}
    (member : fields ∈ file.structs) : fields.Nodup := by
  simp only [TopFiles.list, List.mem_cons, List.not_mem_nil, or_false] at listed
  rcases listed with rfl | rfl | rfl | rfl
  · have inside : fields ∈ (rootClientItems root domains).flatMap (·.decl.structs) := member
    rw [structs_rootClientItems, List.mem_singleton] at inside
    rw [inside]
    exact idents_nodup distinct
  · have inside : fields ∈ (Chunk.concat (domains.map (contractChunk root))).structs := member
    simp [Chunk.structs_concat, List.flatMap_map, structs_contractChunk] at inside
  · have inside : fields ∈ (Chunk.ofDecls [] (wireDecls domains)).structs := member
    rw [Chunk.structs_ofDecls, wireDecls, List.flatMap_append, structs_constantBlock,
      structs_constantBlock] at inside
    cases inside
  · simp [SourceFile.structs, topFiles, declares_errorCauseSource.structs] at member

end Structs

end Bindings.Emission
