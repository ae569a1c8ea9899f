import Bindings.Proofs.Output.Builders

/-! The setters of arguments beside the fields that they set.

The fields and the methods of a struct share their names. Setters are only compared with each other,
so a field can be spelled like the setter of another one.
-/

set_option autoImplicit false

namespace Bindings

open Emission
open Go (Field Function SourceFile)

def Command.optionals (command : Command) : List TypeNode := command.parameters.filter (·.optional)

/-- How the methods of the arguments of a command are called: after the optional arguments, and each
in its own way. They are told apart from the fields as far as no argument is spelled like a setter. -/
structure NamesSetters (command : Command) (fields : List Field) (setters : List Function) :
    Prop where
  named : fields.map (·.name) = command.parameters.map (·.fieldIdent)
  called : setters.map (·.name) = command.optionals.map ("Set" ++ ·.fieldIdent)
  distinct : (setters.map (·.name)).Nodup
  apart : (∀ setter ∈ setters, setter.name ∉ fields.map (·.name)) ↔
    ∀ argument ∈ command.parameters, ∀ optional ∈ command.optionals,
      argument.fieldIdent ≠ "Set" ++ optional.fieldIdent

section
variable {files : DomainFiles} {command : Command} {fields : List Field} {constructor : Function}
  {setters : List Function}

theorem Builds.namesSetters (h : Builds files command fields constructor setters) :
    NamesSetters command fields setters := by
  have names : setters.map (·.name) = command.optionals.map ("Set" ++ ·.fieldIdent) := by
    have paired := h.sets.imp fun entry setter sets => sets.name.symm
    have called := List.forall₂_map_left_iff.2 (List.forall₂_map_right_iff.2 paired)
    rw [List.forall₂_eq_eq_eq] at called
    rw [← called, Command.optionals, ← h.filter_parameters, List.map_map]
    rfl
  have idents : (command.optionals.map (·.fieldIdent)).Nodup := by
    have all := h.distinct
    rw [h.named] at all
    exact all.sublist (List.filter_sublist.map _)
  refine ⟨h.named, names, ?_, ?_⟩
  · -- The setters repeat a name only where two fields do.
    rw [names, ← Function.comp_def ("Set" ++ ·) TypeNode.fieldIdent, ← List.map_map]
    exact idents.map fun a b same => (String.append_right_inj "Set").1 same
  · have ofNames : (∀ setter ∈ setters, setter.name ∉ fields.map (·.name)) ↔
        ∀ name ∈ setters.map (·.name), name ∉ fields.map (·.name) := by
      rw [List.forall_mem_map]
    rw [ofNames, names, h.named, List.forall_mem_map]
    constructor
    · intro apart argument parameter optional member same
      exact apart optional member (same ▸ List.mem_map_of_mem parameter)
    · intro apart optional member inside
      obtain ⟨argument, parameter, same⟩ := List.mem_map.1 inside
      exact apart argument parameter optional member same

end

/-- The setters of the arguments of a command have distinct names. None of them is called like a field
unless an argument is spelled like the setter of an optional one. -/
theorem setters_named {protocol : Protocol} {root : String} {files : List SourceFile}
    (h : generate protocol root = .ok files) :
    ∃ bundle : Bundle, bundle.Arranges protocol files ∧
      ∀ entry ∈ bundle.packages, ∀ command ∈ entry.1.commands, command.parameters ≠ [] →
        ∃ doc fields, entry.2.commands.declaring command.arguments =
            [.type doc command.arguments (.struct fields)] ∧
          NamesSetters command fields (entry.2.list.flatMap (·.methodsOf command.arguments)) := by
  obtain ⟨bundle, graph, exemptions, shared, arranges, generated⟩ := generate_eq_ok h
  refine ⟨bundle, arranges, fun entry found command member some_ => ?_⟩
  obtain ⟨node, parameter⟩ := List.exists_mem_of_ne_nil _ some_
  obtain ⟨fields, constructor, setters, builds⟩ :=
    generated.builds arranges found member (Site.hasArguments_of_mem parameter)
  obtain ⟨doc, struct⟩ := builds.struct
  exact ⟨doc, fields, struct, builds.methods ▸ builds.namesSetters⟩

theorem setters_named_sampleProtocol :
    ∃ files, generate sampleProtocol "r" = .ok files ∧
      ∃ bundle : Bundle, bundle.Arranges sampleProtocol files ∧
        ∀ entry ∈ bundle.packages, ∀ command ∈ entry.1.commands, command.parameters ≠ [] →
          ∃ doc fields, entry.2.commands.declaring command.arguments =
              [.type doc command.arguments (.struct fields)] ∧
            NamesSetters command fields
              (entry.2.list.flatMap (·.methodsOf command.arguments)) := by
  obtain ⟨files, generates⟩ := sampleProtocol_generates
  exact ⟨files, generates, setters_named generates⟩

def settingProtocol : Protocol where
  domains :=
    [{ name := "D"
       commands :=
         [{ name := "c"
            parameters :=
              [{ name := some "foo", kind := some "string", optional := true },
               { name := some "setFoo", kind := some "string" }] }] }]

theorem settingProtocol_sorted : sortByName settingProtocol.domains = settingProtocol.domains :=
  sortByName_of_pairwise (List.pairwise_singleton _ _)

/-- A struct is declared with a field and a method of one name. -/
theorem setters_named_alike :
    ∃ files, generate settingProtocol "r" = .ok files ∧ ∃ file ∈ files,
      ["Foo", "SetFoo"] ∈ file.structs ∧
        (file.methodsOf "CArgs").map (·.name) = ["SetFoo"] := by
  have found : (generate settingProtocol "r").toOption.any fun files => files.any fun file =>
      file.structs.contains ["Foo", "SetFoo"] &&
        (file.methodsOf "CArgs").map (·.name) == ["SetFoo"] := by
    simp only [generate, emitDomains, assemble, settingProtocol_sorted]
    decide +kernel
  obtain ⟨files, generates, found⟩ := exists_ok_of_any found
  obtain ⟨file, listed, holds⟩ := List.any_eq_true.1 found
  simp only [Bool.and_eq_true, beq_iff_eq, List.contains_iff_mem] at holds
  exact ⟨files, generates, file, listed, holds.1, holds.2⟩

end Bindings
