import Bindings.Emission.DomainPackage
import Bindings.Proofs.Agreement
import Bindings.Proofs.Go.Documentation
import Bindings.Proofs.Protocol.Undocumented

/-! The comments that the documentation of a domain leads to, and the types of nodes without them.

A comment begins with names and goes on with the lines of a description. It stays a comment as long
as the names are unbroken, whatever the description is.
-/

set_option autoImplicit false

namespace Bindings

open Go (Decl Doc DocAlike FieldsAlike Function NameScope Param TypeExpr)

namespace Emission

open Go (Item)

section Comments

variable {node : TypeNode} {command : Command} {event : Event} {domain : Domain}

theorem unbroken_valuesParagraph (node : TypeNode) : AllUnbroken (valuesParagraph node) := by
  rw [valuesParagraph]
  split
  · have quoted : AllUnbroken (node.literals.map Text.quote) := fun text member => by
      obtain ⟨value, -, rfl⟩ := List.mem_map.1 member
      exact Text.unbroken_quote value
    refine List.forall_mem_singleton.2 ?_
    simp only [valuesLine, unbroken_append]
    exact ⟨⟨by decide, unbroken_intercalate (by decide) quoted⟩, by decide⟩
  · exact fun _ member => nomatch member

theorem unbroken_fieldDoc (named : Unbroken (node.name.getD "")) : AllUnbroken (fieldDoc node) := by
  rw [fieldDoc]
  split
  · refine Doc.unbroken_notes (Doc.unbroken_paragraph ?_ (unbroken_valuesParagraph node))
      (by decide) _ _
    exact Doc.unbroken_ofLead named.exported (allUnbroken_describe _)
  · exact fun _ member => nomatch member

theorem unbroken_typeDoc {ident : String} (named : Unbroken ident) :
    AllUnbroken (typeDoc node ident).lines :=
  Doc.unbroken_notes (Doc.unbroken_ofLead named (allUnbroken_describe _)) (by decide) _ _

theorem unbroken_setterDoc (named : Unbroken (node.name.getD "")) :
    AllUnbroken (setterDoc node).lines := by
  refine Doc.unbroken_notes (Doc.unbroken_paragraph (Doc.unbroken_ofLead ?_
    (allUnbroken_describe _)) (unbroken_valuesParagraph node)) (by decide) _ _
  simp only [setterName, unbroken_append]
  exact ⟨⟨⟨⟨by decide, named.exported⟩, by decide⟩, named.exported⟩, by decide⟩

theorem unbroken_invokeDoc (named : Unbroken command.name) (owned : Unbroken domain.name) :
    AllUnbroken (invokeDoc command domain).lines := by
  refine Doc.unbroken_notes (Doc.unbroken_ofLead ?_ (allUnbroken_describe _)) (by decide) _ _
  simp only [unbroken_append]
  exact ⟨⟨⟨named.exported, by decide⟩, owned⟩, by decide⟩

theorem unbroken_streamDoc (named : Unbroken event.name) : AllUnbroken (streamDoc event).lines := by
  refine Doc.unbroken_notes (Doc.unbroken_ofLead ?_ (allUnbroken_describe _)) (by decide) _ _
  simp only [Event.client, unbroken_append]
  exact ⟨⟨⟨⟨named.exported, by decide⟩, by decide⟩, named.exported⟩, by decide⟩

theorem unbroken_subscribeDoc (named : Unbroken event.name) (owned : Unbroken domain.name) :
    AllUnbroken (subscribeDoc event domain).lines := by
  refine Doc.unbroken_notes (Doc.unbroken_ofLead ?_ (allUnbroken_describe _)) (by decide) _ _
  simp only [Event.wireName, unbroken_append]
  exact ⟨⟨⟨named.exported, by decide⟩, ⟨⟨owned, by decide⟩, named⟩⟩, by decide⟩

theorem unbroken_domainDoc {lead : String} (begins : Unbroken lead) :
    AllUnbroken (domainDoc domain lead).lines :=
  Doc.unbroken_notes (Doc.unbroken_ofLead begins (allUnbroken_describe _)) (by decide) _ _

/-- The comments in the interface of a domain begin with a wire name. -/
theorem unbroken_memberDoc {start subject name : String} (begins : Unbroken start)
    (noted : Unbroken subject) (owned : Unbroken domain.name) (named : Unbroken name)
    (description : Option String) (experimental deprecated : Bool) :
    AllUnbroken (((Doc.ofLead (start ++ (domain.name ++ "." ++ name)) []).paragraph
      (describe description)).notes subject experimental deprecated).lines := by
  have nothing : AllUnbroken [] := fun _ member => nomatch member
  refine Doc.unbroken_notes (Doc.unbroken_paragraph (Doc.unbroken_ofLead ?_ nothing)
    (allUnbroken_describe _)) noted _ _
  simp only [unbroken_append]
  exact ⟨begins, ⟨owned, by decide⟩, named⟩

end Comments

/-- Uses of a type that differ in comments. -/
structure TypeUse.Alike (first second : TypeUse) : Prop where
  type : first.type.Alike second.type
  nullable : first.nullable = second.nullable
  imports : first.imports = second.imports

theorem TypeUse.Alike.refl (use : TypeUse) : use.Alike use := ⟨.same _, rfl, rfl⟩

structure FieldUses.Alike (first second : FieldUses) : Prop where
  fields : FieldsAlike first.fields second.fields
  imports : first.imports = second.imports

namespace Site

variable {site : Site}

/-- A reference is used in one way, whatever its documentation is. -/
theorem use_undocumented {node : TypeNode} (refers : node.reference.isSome = true) :
    site.use node.undocumented = site.use node := by
  have shape : node.shape site.domain = .ok .reference := by rw [TypeNode.shape, if_pos refers]
  have shape' := (node.undocumented_shape site.domain).trans shape
  obtain ⟨id, name, kind, reference, items, properties, literals, optional, deprecated,
    experimental, description⟩ := node
  rw [TypeNode.undocumented] at shape' ⊢
  rw [use, use, shape, shape']
  rfl

/-- Whether a field is a pointer does not depend on comments: the type is compared with the owner of
the field for references alone. -/
theorem fieldType_alike {node : TypeNode} {owner : String} {first second : TypeUse}
    (alike : first.Alike second) (refers : node.reference.isSome = true → first = second) :
    (fieldType node owner first).Alike (fieldType node.undocumented owner second) := by
  have asked : (node.reference.isSome && first.type.text == owner) =
      (node.reference.isSome && second.type.text == owner) := by
    cases found : node.reference.isSome with
    | true => rw [refers found]
    | false => rfl
  simp only [fieldType, TypeNode.undocumented_reference, TypeNode.undocumented_optional, asked,
    alike.nullable]
  split
  · exact .pointer alike.type
  · exact alike.type

theorem agrees_of_reference {node : TypeNode}
    (h : Agrees TypeUse.Alike (site.use node) (site.use node.undocumented)) :
    Agrees (fun a b => a.Alike b ∧ (node.reference.isSome = true → a = b)) (site.use node)
      (site.use node.undocumented) := by
  cases refers : node.reference.isSome with
  | true =>
    rw [use_undocumented refers]
    exact .self (fun use => ⟨.refl use, fun _ => rfl⟩) _
  | false => exact h.imp fun a b alike => ⟨alike, nofun⟩

theorem fieldUses_agrees {owner : String} {scope : NameScope} {nodes : List TypeNode}
    (named : AllUnbroken (TypeNode.listNames nodes))
    (each : ∀ node ∈ nodes, AllUnbroken node.innerNames →
      Agrees TypeUse.Alike (site.use node) (site.use node.undocumented)) :
    Agrees FieldUses.Alike (site.fieldUses owner scope nodes)
      (site.fieldUses owner scope (nodes.map TypeNode.undocumented)) := by
  induction nodes generalizing scope with
  | nil => exact .ok ⟨.nil, rfl⟩
  | cons node nodes ih =>
    have own := named.subset (TypeNode.names_subset_listNames List.mem_cons_self)
    obtain ⟨name, inner⟩ := List.forall_mem_cons.1 own
    have later : AllUnbroken (TypeNode.listNames nodes) := named.subset fun name member => by
      rw [TypeNode.listNames]
      exact List.mem_cons_of_mem _ (List.mem_append_right _ member)
    have uses := agrees_of_reference (each node List.mem_cons_self inner)
    rw [List.map_cons, fieldUses, fieldUses, TypeNode.undocumented_fieldIdent]
    refine .bind_self fun next => uses.bind fun first second alike => ?_
    refine (ih later fun other member => each other (List.mem_cons_of_mem node member)).bind
      fun rest rest' others => .ok ⟨?_, ?_⟩
    · have docs : DocAlike (fieldDoc node) (fieldDoc node.undocumented) :=
        .unbroken (unbroken_fieldDoc name)
          (unbroken_fieldDoc (by rwa [TypeNode.undocumented_name]))
      have tag : fieldTag node.undocumented = fieldTag node := by simp [fieldTag]
      rw [tag]
      exact .cons docs (fieldType_alike alike.1 alike.2) others.fields
    · exact congrArg₂ _ alike.1.imports others.imports

/-- Uses of a node, by its items and properties: their comments are the only ones in it. -/
theorem use_agrees {node : TypeNode} (named : AllUnbroken node.innerNames) :
    Agrees TypeUse.Alike (site.use node) (site.use node.undocumented) := by
  induction node using TypeNode.induction with
  | inherits node ofItem ofProperty =>
    have shape := node.undocumented_shape site.domain
    obtain ⟨id, name, kind, reference, items, properties, literals, optional, deprecated,
      experimental, description⟩ := node
    -- The recursion goes over the items and properties, so that the node is taken apart.
    rw [TypeNode.innerNames] at named
    rw [TypeNode.undocumented] at shape ⊢
    rw [use, use, shape]
    refine .bind_self fun found => ?_
    cases found with
    | reference => exact .self TypeUse.Alike.refl _
    | sequence =>
      cases items with
      | none => exact .error _
      | some item =>
        have inner := ofItem item rfl (named.subset (List.subset_append_left _ _))
        have element : Agrees (Option.Rel TypeUse.Alike) (site.itemUse (some item))
            (site.itemUse (TypeNode.itemUndocumented (some item))) :=
          inner.bind fun a b alike => .ok (.some alike)
        refine element.bind fun a b alike => ?_
        cases alike with
        | some alike => exact .ok ⟨.slice alike.type, rfl, alike.imports⟩
        | none => exact .error _
    | record =>
      have inner : Agrees FieldUses.Alike
          (site.fieldUses "" (fieldScope site.domain "") properties)
          (site.fieldUses "" (fieldScope site.domain "")
            (TypeNode.listUndocumented properties)) := by
        rw [TypeNode.listUndocumented_eq_map]
        exact fieldUses_agrees (named.subset (List.subset_append_right _ _)) ofProperty
      exact inner.bind fun a b alike => .ok ⟨.struct alike.fields, rfl, alike.imports⟩
    | _ => exact .ok (.refl _)

end Site

end Emission

end Bindings
