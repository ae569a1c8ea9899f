import Bindings.Proofs.Emission.Documentation
import Bindings.Proofs.Output.Bundle

/-! What the documentation of a protocol changes in its bindings: nothing but comments.

Two protocols that are the same without their documentation are compared through the protocol that
is left, for which generation fails like for each of them, or leads to the same code.
-/

set_option autoImplicit false

namespace Bindings

open Emission
open Go (DocAlike NameScope SourceFile)
open Go.SourceFile (SameCode)

namespace Emission

variable {root : String} {domain : Domain}

section TopLevel

theorem isEmpty_eq_of_forall₂ {α β : Type} {R : α → β → Prop} {xs : List α} {ys : List β}
    (h : List.Forall₂ R xs ys) : xs.isEmpty = ys.isEmpty := by
  cases h <;> rfl

theorem methods_undocumented (domain : Domain) :
    Domain.methods domain.undocumented = Domain.methods domain := by
  rw [Domain.methods, Domain.methods, Domain.undocumented_ownCommands, List.map_map]
  simp only [Domain.undocumented, List.map_map]
  rfl

theorem commandMember_alike {command : Command} (named : Unbroken command.name)
    (owned : Unbroken domain.name) :
    (commandMember root domain command).Alike
      (commandMember root domain.undocumented command.undocumented) := by
  have signature : commandContract command.undocumented root domain.undocumented =
      commandContract command root domain := by
    rw [commandContract, commandContract, Command.undocumented_hasArguments,
      Command.undocumented_hasReply]
    rfl
  have begins : Unbroken "Command " := by decide
  have noted : Unbroken "command" := by decide
  have docs := unbroken_memberDoc begins noted owned named
  rw [commandMember, commandMember, signature]
  exact .method (.unbroken (docs _ _ _) (docs _ _ _)) _ _

theorem eventMember_alike {event : Event} (named : Unbroken event.name)
    (owned : Unbroken domain.name) :
    (eventMember root domain event).Alike
      (eventMember root domain.undocumented event.undocumented) := by
  have begins : Unbroken "Event " := by decide
  have noted : Unbroken "event" := by decide
  have docs := unbroken_memberDoc begins noted owned named
  exact .method (.unbroken (docs _ _ _) (docs _ _ _)) _ _

theorem contract_agrees (scope : NameScope) (named : AllUnbroken domain.givenNames) :
    Agrees (Both Eq Chunk.Alike) (contract root scope domain)
      (contract root scope domain.undocumented) := by
  have owned : Unbroken domain.name := named _ Domain.name_mem_givenNames
  have commands : List.Forall₂ Go.Member.Alike (domain.ownCommands.map (commandMember root domain))
      (domain.undocumented.ownCommands.map (commandMember root domain.undocumented)) := by
    rw [Domain.undocumented_ownCommands, List.map_map]
    refine List.forall₂_map_left_iff.2 (List.forall₂_map_right_iff.2 ?_)
    refine List.forall₂_same.2 fun command member => commandMember_alike ?_ owned
    exact named _ (Domain.command_names_subset (List.mem_filter.1 member).1 List.mem_cons_self)
  have events : List.Forall₂ Go.Member.Alike (domain.events.map (eventMember root domain))
      (domain.undocumented.events.map (eventMember root domain.undocumented)) := by
    rw [Domain.undocumented, List.map_map]
    refine List.forall₂_map_left_iff.2 (List.forall₂_map_right_iff.2 ?_)
    refine List.forall₂_same.2 fun event member => eventMember_alike ?_ owned
    exact named _ (Domain.event_names_subset member List.mem_cons_self)
  have members : List.Forall₂ Go.Member.Alike
      (domain.ownCommands.map (commandMember root domain) ++
        domain.events.map (eventMember root domain))
      (domain.undocumented.ownCommands.map (commandMember root domain.undocumented) ++
        domain.undocumented.events.map (eventMember root domain.undocumented)) :=
    List.rel_append commands events
  have lead : Unbroken ("The " ++ domain.name ++ " domain.") := by
    simp only [unbroken_append]
    exact ⟨⟨by decide, owned⟩, by decide⟩
  have docs : DocAlike (domainDoc domain ("The " ++ domain.name ++ " domain.")).lines
      (domainDoc domain.undocumented ("The " ++ domain.name ++ " domain.")).lines :=
    .unbroken (unbroken_domainDoc lead) (unbroken_domainDoc lead)
  rw [contract, contract, methods_undocumented]
  refine .bind_self fun next => .bind_self fun _ => .ok ⟨rfl, ?_⟩
  -- The interface imports packages as soon as it has a member, and no member is lost.
  dsimp only
  rw [isEmpty_eq_of_forall₂ members]
  exact .ofDecls _ (.cons (.interface docs _ true members) .nil)

theorem contractsFile_agrees {domains : List Domain} (scope : NameScope)
    (named : ∀ domain ∈ domains, AllUnbroken domain.givenNames) :
    Agrees (Both Eq SourceFile.Alike) (contractsFile root domains scope)
      (contractsFile root (domains.map Domain.undocumented) scope) := by
  have contracts : Agrees (Both Eq (List.Forall₂ Chunk.Alike))
      (thread (contract root) scope domains)
      (thread (contract root) scope (domains.map Domain.undocumented)) :=
    .thread (fun domain member s t same => same ▸ contract_agrees s (named domain member)) rfl
  refine contracts.bind fun emitted emitted' alike => .ok ⟨alike.1, ?_⟩
  exact (Chunk.Alike.concat alike.2).file _ _ (.same _)

theorem rootClientFile_undocumented (version : Option Version) (domains : List Domain)
    (scope : NameScope) :
    rootClientFile root version (domains.map Domain.undocumented) scope =
      rootClientFile root version domains scope := by
  simp only [rootClientFile, rootClientItems, List.map_map]
  rfl

theorem wireNamesFile_undocumented (domains : List Domain) (scope : NameScope) :
    wireNamesFile (domains.map Domain.undocumented) scope = wireNamesFile domains scope := by
  have constants (domain : Domain) : wireConstants domain.undocumented = wireConstants domain := by
    rw [wireConstants, wireConstants, Domain.undocumented_ownCommands, List.map_map]
    simp only [Domain.undocumented, List.map_map]
    rfl
  simp only [wireNamesFile, List.map_map, Function.comp_def, constants]

theorem rootFiles_agrees (version : Option Version) {domains : List Domain}
    (named : ∀ domain ∈ domains, AllUnbroken domain.givenNames) :
    Agrees (List.Forall₂ SameCode) (rootFiles root version domains)
      (rootFiles root version (domains.map Domain.undocumented)) := by
  rw [rootFiles, rootFiles, rootClientFile_undocumented]
  refine .bind_self fun ⟨scope, client⟩ => ?_
  refine (contractsFile_agrees scope named).bind fun ⟨scope, contracts⟩ ⟨_, contracts'⟩ alike => ?_
  obtain ⟨rfl, alike⟩ := alike
  dsimp only
  rw [wireNamesFile_undocumented]
  refine .bind_self fun ⟨scope, names⟩ => .bind_self fun ⟨_, errors⟩ => .ok ?_
  have fixed : List.Forall₂ SameCode [names, errors] [names, errors] :=
    List.forall₂_same.2 fun file _ => .refl file
  exact .cons (.refl client) (.cons alike.sameCode fixed)

end TopLevel

end Emission

section Generation

variable {protocol : Protocol} {root : String}

theorem sortByName_undocumented (domains : List Domain) :
    sortByName (domains.map Domain.undocumented) =
      (sortByName domains).map Domain.undocumented := by
  rw [sortByName, sortByName]
  -- Domains are compared by their names, which stay.
  refine (List.map_mergeSort fun a _ b _ => ?_).symm
  rfl

theorem prepare_undocumented (protocol : Protocol) :
    prepare protocol.undocumented = prepare protocol := by
  rw [prepare, prepare, Protocol.undocumented_graph, Protocol.undocumented_exemptions]

theorem emitDomains_agrees (exemptions : Exemptions)
    (named : ∀ domain ∈ sortByName protocol.domains, AllUnbroken domain.givenNames) :
    Agrees (Both SharedPackage.Alike (List.Forall₂ (List.Forall₂ SourceFile.Alike)))
      (emitDomains protocol root exemptions)
      (emitDomains protocol.undocumented root exemptions) := by
  rw [emitDomains, emitDomains, Protocol.undocumented, sortByName_undocumented]
  -- Each package finds the shared package as the packages before it have left it.
  have started : SharedPackage.Alike {} {} := ⟨rfl, .empty⟩
  refine .thread (fun domain member s t alike => ?_) started
  exact domainPackage_agrees alike (named domain member)

theorem assemble_agrees {emitted emitted' : Emitted}
    (alike : Both SharedPackage.Alike (List.Forall₂ (List.Forall₂ SourceFile.Alike)) emitted
      emitted')
    (named : ∀ domain ∈ sortByName protocol.domains, AllUnbroken domain.givenNames) :
    Agrees (List.Forall₂ SameCode) (assemble protocol root emitted)
      (assemble protocol.undocumented root emitted') := by
  have packages : List.Forall₂ SameCode emitted.2.flatten emitted'.2.flatten :=
    (List.rel_flatten alike.2).imp fun _ _ file => file.sameCode
  have shared : List.Forall₂ SameCode (sharedFiles emitted.1) (sharedFiles emitted'.1) :=
    .cons (alike.1.chunk.file _ _ (.same _)).sameCode (.cons (.refl opErrorFile) .nil)
  have transport : List.Forall₂ SameCode [transportFile root] [transportFile root] :=
    .cons (.refl _) .nil
  rw [assemble, assemble, Protocol.undocumented, sortByName_undocumented]
  refine (rootFiles_agrees protocol.version named).bind fun top top' same => .ok ?_
  exact List.rel_append (List.rel_append (List.rel_append packages shared) same) transport

/-- Generation for a protocol and for what is left of it without its documentation. -/
theorem generate_agrees (root : String) (named : AllUnbroken protocol.givenNames) :
    Agrees (List.Forall₂ SameCode) (generate protocol root)
      (generate protocol.undocumented root) := by
  have each : ∀ domain ∈ sortByName protocol.domains, AllUnbroken domain.givenNames :=
    fun domain member => named.subset fun name given =>
      List.mem_flatMap.2 ⟨domain, List.mem_mergeSort.1 member, given⟩
  rw [generate, generate, prepare_undocumented]
  exact .bind_self fun exemptions => (emitDomains_agrees exemptions each).bind
    fun emitted emitted' alike => assemble_agrees alike each

end Generation

/-- Protocols that are the same without descriptions, notes and dependencies are both refused, with
the same error, or lead to the same files but for lines that are comments. What a description says
matters only as far as it states that a value is encoded. -/
theorem documentation_inert {first second : Protocol} (root : String)
    (same : first.undocumented = second.undocumented)
    (unbroken : ∀ name ∈ first.givenNames, '\n' ∉ name.toList) :
    (∃ error, generate first root = .error error ∧ generate second root = .error error) ∨
      ∃ files others, generate first root = .ok files ∧ generate second root = .ok others ∧
        List.Forall₂ SameCode files others := by
  have named : AllUnbroken second.givenNames := by
    rw [← second.undocumented_givenNames, ← same, first.undocumented_givenNames]
    exact unbroken
  -- Neither protocol need be free of documentation: both are compared with the one that is left.
  have plain := generate_agrees root unbroken
  have plain' := generate_agrees root named
  rw [← same] at plain'
  rcases (plain.meet plain').cases with refused | ⟨files, others, ok, ok', _, code, code'⟩
  · exact .inl refused
  · exact .inr ⟨files, others, ok, ok', SameCode.meet code code'⟩

def remark : String := "It \"ends\" here. */\r\nfunc injected() // `\n\n\ttype Injected = int"

def remarkedProtocol : Protocol where
  domains :=
    [{ networkDomain with
       description := some remark
       experimental := true
       dependencies := ["Page"]
       types := networkDomain.types.map fun type => { type with description := some remark }
       commands := networkDomain.commands.map fun command =>
         { command with
           description := some remark
           deprecated := true
           parameters := command.parameters.map fun parameter =>
             { parameter with description := some remark } } },
     pageDomain]

theorem documentation_inert_remarks :
    sampleProtocol.undocumented = remarkedProtocol.undocumented ∧
      (∀ name ∈ sampleProtocol.givenNames, '\n' ∉ name.toList) ∧
      ∃ files others, generate sampleProtocol "r" = .ok files ∧
        generate remarkedProtocol "r" = .ok others ∧ List.Forall₂ SameCode files others := by
  have silent : encodingOnly (some remark) = encodingOnly none :=
    encodingOnly_eq_iff.2 (by decide +kernel)
  have same : sampleProtocol.undocumented = remarkedProtocol.undocumented := by
    simp [Protocol.undocumented, Domain.undocumented, Command.undocumented, TypeNode.undocumented,
      sampleProtocol, remarkedProtocol, networkDomain, silent]
  have unbroken : ∀ name ∈ sampleProtocol.givenNames, '\n' ∉ name.toList := by decide +kernel
  obtain ⟨files, generates⟩ := sampleProtocol_generates
  refine ⟨same, unbroken, ?_⟩
  rcases documentation_inert "r" same unbroken with ⟨error, refused, -⟩ | succeeds
  · rw [generates] at refused
    cases refused
  · exact succeeds

end Bindings
