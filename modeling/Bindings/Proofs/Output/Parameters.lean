import Bindings.Proofs.Name.Parameters
import Bindings.Proofs.Output.Builders
import Bindings.Proofs.Output.Contracts

/-! The parameters of the constructors of arguments.

A constructor has a parameter for each required argument. The fields that they are assigned to have
passed through a scope, the names of the parameters have not.
-/

set_option autoImplicit false

namespace Bindings

open Emission
open Go (Function SourceFile)
open Unicode (AsciiText asciiLowercase)

def Command.required (command : Command) : List TypeNode := command.parameters.filter (!·.optional)

/-- How the parameters of a constructor are called: after the required arguments, and like no keyword
or the variable of the constructor. They are told apart as far as the fields do not clash, which
fields spelled in ASCII do only if they are the same but for their case and a suffix. -/
structure NamesParameters (command : Command) (f : Function) : Prop where
  names : f.signature.params.map (·.name) =
    command.required.map fun node => some (Name.parameter node.wireName)
  free : ∀ param ∈ f.signature.params, ∀ name ∈ "args" :: Go.keywords, param.name ≠ some name
  fields : (command.required.map (·.fieldIdent)).Nodup
  distinct : (f.signature.params.map (·.name)).Nodup ↔
    command.required.Pairwise fun a b => ¬Name.Clash a.fieldIdent.toList b.fieldIdent.toList
  ascii : ∀ a ∈ command.required, ∀ b ∈ command.required,
    AsciiText a.fieldIdent.toList → AsciiText b.fieldIdent.toList →
    Name.Clash a.fieldIdent.toList b.fieldIdent.toList →
      asciiLowercase a.fieldIdent.toList = asciiLowercase b.fieldIdent.toList ∨
      asciiLowercase b.fieldIdent.toList = asciiLowercase a.fieldIdent.toList ++ "val".toList ∨
      asciiLowercase a.fieldIdent.toList = asciiLowercase b.fieldIdent.toList ++ "val".toList

section
variable {files : DomainFiles} {command : Command} {fields : List Go.Field} {f : Function}
  {setters : List Function}

theorem Builds.required_eq (h : Builds files command fields f setters) :
    ((command.parameters.zip fields).filter (!·.1.optional)).map (·.1) = command.required :=
  h.filter_parameters (!·.optional)

theorem Builds.namesParameters (h : Builds files command fields f setters) :
    NamesParameters command f := by
  have names : f.signature.params.map (·.name) =
      command.required.map fun node => some (Name.parameter node.wireName) := by
    rw [h.constructs.params, ← h.required_eq, List.map_map, List.map_map]
    rfl
  refine ⟨names, ?_, ?_, ?_, ?_⟩
  · intro param member name keyword same
    have inside : param.name ∈ f.signature.params.map (·.name) := List.mem_map_of_mem member
    rw [names, same] at inside
    obtain ⟨node, -, found⟩ := List.mem_map.1 inside
    exact Name.parameter_ne_keyword keyword (Option.some.inj found)
  · have all := h.distinct
    rw [h.named] at all
    exact all.sublist (List.filter_sublist.map _)
  · rw [names, List.Nodup, List.pairwise_map]
    refine List.Pairwise.iff fun a b => not_congr ?_
    rw [Option.some_inj, Name.parameter_eq_iff]
    rfl
  · intro a _ b _ left right clash
    exact clash.asciiLowercase_eq left right (Name.solidName_exported _) (Name.solidName_exported _)

end

/-- No parameter of a constructor is called like a keyword or like the variable that the constructor
binds. Its parameters are distinct where no two of the fields clash. -/
theorem parameters_named {protocol : Protocol} {root : String} {files : List SourceFile}
    (h : generate protocol root = .ok files) :
    ∃ bundle : Bundle, bundle.Arranges protocol files ∧
      ∀ entry ∈ bundle.packages, ∀ command ∈ entry.1.commands, command.parameters ≠ [] →
        ∃ constructor, entry.2.commands.declaring ("New" ++ command.arguments) =
          [.function constructor] ∧ NamesParameters command constructor := by
  obtain ⟨bundle, graph, exemptions, shared, arranges, generated⟩ := generate_eq_ok h
  refine ⟨bundle, arranges, fun entry found command member some_ => ?_⟩
  obtain ⟨node, parameter⟩ := List.exists_mem_of_ne_nil _ some_
  obtain ⟨fields, constructor, setters, builds⟩ :=
    generated.builds arranges found member (Site.hasArguments_of_mem parameter)
  exact ⟨constructor, builds.constructed, builds.namesParameters⟩

theorem parameters_named_sampleProtocol :
    ∃ files, generate sampleProtocol "r" = .ok files ∧
      ∃ bundle : Bundle, bundle.Arranges sampleProtocol files ∧
        ∀ entry ∈ bundle.packages, ∀ command ∈ entry.1.commands, command.parameters ≠ [] →
          ∃ constructor, entry.2.commands.declaring ("New" ++ command.arguments) =
            [.function constructor] ∧ NamesParameters command constructor := by
  obtain ⟨files, generates⟩ := sampleProtocol_generates
  exact ⟨files, generates, parameters_named generates⟩

def clashingProtocol : Protocol where
  domains :=
    [{ name := "D"
       commands :=
         [{ name := "c"
            parameters :=
              [{ name := some "ABC", kind := some "string" },
               { name := some "abc", kind := some "string" }] }] }]

theorem clashingProtocol_sorted : sortByName clashingProtocol.domains = clashingProtocol.domains :=
  sortByName_of_pairwise (List.pairwise_singleton _ _)

/-- A constructor is declared whose parameters have one name. -/
theorem parameters_named_alike :
    ∃ files, generate clashingProtocol "r" = .ok files ∧ ∃ file ∈ files,
      ∃ constructor ∈ file.functions, constructor.name = "NewCArgs" ∧
        constructor.signature.params.map (·.name) = [some "abc", some "abc"] := by
  have found : (generate clashingProtocol "r").toOption.any fun files => files.any fun file =>
      file.functions.any fun f =>
        f.name == "NewCArgs" && f.signature.params.map (·.name) == [some "abc", some "abc"] := by
    simp only [generate, emitDomains, assemble, clashingProtocol_sorted]
    decide +kernel
  obtain ⟨files, generates, found⟩ := exists_ok_of_any found
  obtain ⟨file, listed, holds⟩ := List.any_eq_true.1 found
  obtain ⟨constructor, declared, holds⟩ := List.any_eq_true.1 holds
  simp only [Bool.and_eq_true, beq_iff_eq] at holds
  exact ⟨files, generates, file, listed, constructor, declared, holds.1, holds.2⟩

end Bindings
