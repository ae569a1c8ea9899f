import Bindings.Emission.DomainPackage
import Bindings.Proofs.Emission.Additions

/-! Declared types: what their definitions add to their own package or to the shared one. -/

set_option autoImplicit false

namespace Bindings.Emission

open Go (Decl Doc NameScope)
open Name (SolidName solidName_append)

theorem solidName_typeIdent (node : TypeNode) (domain : String) : SolidName (node.ident domain) :=
  Name.solidName_withoutDomain (Name.solidName_exported _)

@[simp] theorem names_method (doc : List String) (self name : String) (receiver : Go.TypeExpr)
    (params results : List Go.Param) (body : List Go.Statement) :
    (method doc self receiver name params results body).names = [] := rfl

theorem names_enumDecls (doc : List String) (ident : String) (literals : List String) :
    (enumDecls doc ident literals).flatMap Decl.names =
      ident :: (enumConstants ident literals).map (·.name) := by
  simp [enumDecls, enumValid, enumString, enumMarshal, enumUnmarshal]

theorem names_timestampDecls (doc : List String) (ident : String) (unit : TimeUnit) :
    (timestampDecls doc ident unit).flatMap Decl.names = [ident] := by
  simp [timestampDecls]

theorem names_rawDecls (doc : List String) (ident : String) :
    (rawDecls doc ident).flatMap Decl.names = [ident] := by
  simp [rawDecls]

/-- Every constant of an enumeration is named after it. -/
theorem enumConstant_name {ident name : String} {literals : List String}
    (member : name ∈ (enumConstants ident literals).map (·.name)) :
    ∃ literal, name = ident ++ literal ∧ SolidName literal := by
  rw [enumConstants, List.map_cons, List.mem_cons] at member
  rcases member with rfl | member
  · exact ⟨"NotSet", rfl, by decide⟩
  · simp only [List.map_map, List.mem_map, Function.comp_apply] at member
    obtain ⟨value, -, rfl⟩ := member
    exact ⟨Name.literal value, rfl, Name.solidName_literal value⟩

namespace Site

inductive Defines (site : Site) (node : TypeNode) (ident : String) (doc : Doc) (scope : NameScope) :
    NameScope → Chunk → Prop where
  | enumeration {next : NameScope} (shaped : node.shape site.domain = .ok .enumeration)
      (literals : "" ∉ node.literals)
      (declared : scope.declareAll ((enumConstants ident node.literals).map (·.name)) = .ok next) :
      Defines site node ident doc scope next
        (.ofDecls [Imports.json, Imports.fmt] (enumDecls doc.lines ident node.literals))
  | timestamp {unit : TimeUnit} (shaped : node.shape site.domain = .ok (.timestamp unit)) :
      Defines site node ident doc scope scope
        (.ofDecls [Imports.json, Imports.fmt, Imports.time] (timestampDecls doc.lines ident unit))
  | raw (shaped : node.shape site.domain = .ok .raw) :
      Defines site node ident doc scope scope
        (.ofDecls [Imports.errors] (rawDecls doc.lines ident))
  | record {uses : FieldUses} (shaped : node.shape site.domain = .ok .record)
      (fields : site.structFields node.properties ident = .ok uses) :
      Defines site node ident doc scope scope
        ⟨uses.imports, [⟨.type doc.lines ident (.struct uses.fields), true⟩]⟩
  | plain {use : TypeUse} (used : site.use node = .ok use)
      (other : node.shape site.domain ≠ .ok .record)
      (unlisted : node.shape site.domain ≠ .ok .enumeration) :
      Defines site node ident doc scope scope
        ⟨use.imports, [⟨.type doc.lines ident use.type, true⟩]⟩

variable {site : Site} {node : TypeNode} {ident : String} {doc : Doc} {scope next : NameScope}
  {chunk : Chunk}

theorem definition_eq_ok (h : site.definition node ident doc scope = .ok (next, chunk)) :
    site.Defines node ident doc scope next chunk := by
  obtain ⟨shape, shaped, rest⟩ := bind_eq_ok.1 h
  cases shape with
  | enumeration =>
    obtain ⟨accepted, declared, rest⟩ := bind_eq_ok.1 rest
    cases pure_eq_ok.1 rest
    rw [declareEnum] at declared
    split at declared
    · cases declared
    · next filled =>
      refine .enumeration shaped (fun empty => filled ?_) declared
      exact List.any_eq_true.2 ⟨"", empty, rfl⟩
  | timestamp unit =>
    cases pure_eq_ok.1 rest
    exact .timestamp shaped
  | raw =>
    cases pure_eq_ok.1 rest
    exact .raw shaped
  | record =>
    obtain ⟨uses, fields, rest⟩ := bind_eq_ok.1 rest
    cases pure_eq_ok.1 rest
    exact .record shaped fields
  | _ =>
    obtain ⟨use, used, rest⟩ := bind_eq_ok.1 rest
    cases pure_eq_ok.1 rest
    exact .plain used (by simp [shaped]) (by simp [shaped])

/-- A definition declares its own identifier first, and then only names that begin with it. -/
theorem Defines.names (h : site.Defines node ident doc scope next chunk) :
    ∃ constants, chunk.names = ident :: constants ∧ scope.declareAll constants = .ok next ∧
      ∀ name ∈ constants, ∃ literal, name = ident ++ literal ∧ SolidName literal := by
  cases h with
  | enumeration _ _ declared =>
    exact ⟨_, by rw [Chunk.names_ofDecls, names_enumDecls], declared, fun _ => enumConstant_name⟩
  | timestamp =>
    refine ⟨[], ?_, rfl, fun _ member => nomatch member⟩
    rw [Chunk.names_ofDecls, names_timestampDecls]
  | raw =>
    refine ⟨[], ?_, rfl, fun _ member => nomatch member⟩
    rw [Chunk.names_ofDecls, names_rawDecls]
  | record => exact ⟨[], rfl, rfl, fun _ member => nomatch member⟩
  | plain => exact ⟨[], rfl, rfl, fun _ member => nomatch member⟩

/-- A definition declares a type under its identifier. -/
theorem Defines.type (h : site.Defines node ident doc scope next chunk) :
    ∃ type, ⟨.type doc.lines ident type, true⟩ ∈ chunk.items := by
  cases h <;> exact ⟨_, List.mem_cons_self⟩

theorem Defines.imports (h : site.Defines node ident doc scope next chunk) :
    ∀ path ∈ chunk.imports, path ∈ standardPaths ∨ site.Needs node.references path := by
  cases h with
  | enumeration | timestamp | raw =>
    exact fun path member => .inl (Chunk.standard_imports_ofDecls (by decide) member)
  | record shaped fields =>
    intro path member
    exact .inr ((needs_of_use.2 fields path member).mono node.properties_references_subset)
  | plain used => exact fun path member => .inr (needs_of_use.1 used path member)

end Site

theorem structs_method (doc : List String) (self : String) (receiver : Go.TypeExpr) (name : String)
    (params results : List Go.Param) (body : List Go.Statement) :
    (method doc self receiver name params results body).structs =
      receiver.structs ++ (Go.Param.structs params ++ Go.Param.structs results) ++
        Go.Statement.listStructs body := by
  simp [method, Decl.structs_function, Go.Signature.structs, Go.Body.structs]

theorem structs_enumDecls (doc : List String) (ident : String) (literals : List String) :
    (enumDecls doc ident literals).flatMap Decl.structs = [] := by
  have texts : Go.Expr.listStructs (literals.map Go.Expr.text) = [] := by
    simp [Go.Expr.listStructs_eq_flatMap, List.flatMap_map]
  simp [enumDecls, enumValid, enumString, enumMarshal, enumUnmarshal, structs_method, texts,
    marshalResults, errorResult, dataParam, dataIsNull, nullLiteral, returnNull, unmarshalInto]

theorem structs_timestampDecls (doc : List String) (ident : String) (unit : TimeUnit) :
    (timestampDecls doc ident unit).flatMap Decl.structs = [] := by
  cases unit <;>
    simp [timestampDecls, structs_method, TimeUnit.inSeconds, toFloat, marshalResults, errorResult,
      dataParam, dataIsNull, nullLiteral, returnNull, unmarshalInto]

theorem structs_rawDecls (doc : List String) (ident : String) :
    (rawDecls doc ident).flatMap Decl.structs = [] := by
  simp [rawDecls, structs_method, marshalResults, errorResult, dataParam, nullLiteral, returnNull]

namespace Site

variable {site : Site} {node : TypeNode} {ident : String} {doc : Doc} {scope next : NameScope}
  {chunk : Chunk}

theorem Defines.structs (h : site.Defines node ident doc scope next chunk) :
    ∀ fields ∈ chunk.structs, fields.Nodup := by
  intro fields member
  cases h with
  | enumeration => rw [Chunk.structs_ofDecls, structs_enumDecls] at member; cases member
  | timestamp => rw [Chunk.structs_ofDecls, structs_timestampDecls] at member; cases member
  | raw => rw [Chunk.structs_ofDecls, structs_rawDecls] at member; cases member
  | record _ found =>
    rw [Chunk.structs_singleton] at member
    exact nodup_structs_of_structFields found fields member
  | plain used =>
    rw [Chunk.structs_singleton] at member
    exact nodup_structs_of_use.1 used fields member

/-- A definition whose identifier the scope has just accepted. -/
theorem Defines.adds {Allowed : String → Prop} {first : NameScope}
    (standard : ∀ path ∈ standardPaths, Allowed path)
    (references : ∀ path, site.Needs node.references path → Allowed path)
    (solid : SolidName ident) (declared : first.declare ident = .ok scope)
    (h : site.Defines node ident doc scope next chunk) : Adds Allowed first next chunk := by
  obtain ⟨constants, names, accepted, prefixed⟩ := h.names
  refine ⟨?_, fun name member => ?_, fun path member => ?_, h.structs⟩
  · rw [names]
    exact NameScope.declareAll_cons_eq_ok.2 ⟨scope, declared, accepted⟩
  · rw [names, List.mem_cons] at member
    rcases member with rfl | member
    · exact solid
    · obtain ⟨literal, rfl, solidLiteral⟩ := prefixed name member
      exact solidName_append.2 ⟨solid, solidLiteral⟩
  · exact (h.imports path member).elim (standard path) (references path)

/-- A declared type in the package of its domain is the alias of a shared one, or defined there. -/
theorem declared_eq_ok (h : site.declared scope node = .ok (next, chunk)) :
    ∃ accepted, scope.declare (node.ident site.domain) = .ok accepted ∧
      ((∃ shared, sharedIdent? site.domain (node.id.getD "") = some shared ∧ next = accepted ∧
          chunk = .ofDecls [Imports.internal site.root]
            [.synonym (typeDoc node (node.ident site.domain)).lines (node.ident site.domain)
              (.imported (Imports.internal site.root) shared)]) ∨
        (sharedIdent? site.domain (node.id.getD "") = none ∧
          site.Defines node (node.ident site.domain) (typeDoc node (node.ident site.domain))
            accepted next chunk)) := by
  obtain ⟨accepted, declared, rest⟩ := bind_eq_ok.1 h
  refine ⟨accepted, declared, ?_⟩
  split at rest
  · next shared found =>
    cases pure_eq_ok.1 rest
    exact .inl ⟨shared, found, rfl, rfl⟩
  · next found => exact .inr ⟨found, definition_eq_ok rest⟩

/-- A shared type is defined in the shared package, where no reference can be followed. -/
theorem share_eq_ok {before after : SharedPackage} (h : site.share before node = .ok after) :
    sharedIdent? site.domain (node.id.getD "") = none ∧ after = before ∨
      ∃ ident accepted next chunk, sharedIdent? site.domain (node.id.getD "") = some ident ∧
        before.scope.declare ident = .ok accepted ∧
        Defines { site with shared := some ident } node ident (typeDoc node ident) accepted next
          chunk ∧
        after = ⟨next, before.chunk ++ chunk⟩ := by
  rw [share] at h
  split at h
  · next found =>
    cases h
    exact .inl ⟨found, rfl⟩
  · next ident found =>
    obtain ⟨accepted, declared, rest⟩ := bind_eq_ok.1 h
    obtain ⟨⟨next, chunk⟩, defined, rest⟩ := bind_eq_ok.1 rest
    exact .inr ⟨ident, accepted, next, chunk, found, declared, definition_eq_ok defined,
      (pure_eq_ok.1 rest).symm⟩

theorem typeStep_eq_ok {before after : SharedPackage × NameScope}
    (h : site.typeStep before node = .ok (after, chunk)) :
    site.declared before.2 node = .ok (after.2, chunk) ∧
      site.share before.1 node = .ok after.1 := by
  obtain ⟨⟨scope, emitted⟩, declared, rest⟩ := bind_eq_ok.1 h
  obtain ⟨shared, defined, rest⟩ := bind_eq_ok.1 rest
  cases pure_eq_ok.1 rest
  exact ⟨declared, defined⟩

theorem declared_adds {Allowed : String → Prop} (standard : ∀ path ∈ standardPaths, Allowed path)
    (internal : Allowed (Imports.internal site.root).path)
    (references : ∀ path, site.Needs node.references path → Allowed path)
    (h : site.declared scope node = .ok (next, chunk)) : Adds Allowed scope next chunk := by
  have solid := solidName_typeIdent node site.domain
  obtain ⟨accepted, declared, ⟨shared, -, rfl, rfl⟩ | ⟨-, defines⟩⟩ := declared_eq_ok h
  · refine .of_names_singleton rfl declared solid (fun path member => ?_) (fun fields member => ?_)
    · exact List.mem_singleton.1 member ▸ internal
    · cases member
  · exact defines.adds standard references solid declared

end Site

/-- The shared package is accounted for: its scope holds what its definitions declare, all of it
named after shared types, and its imports are standard. -/
structure SharedPackage.Sound (shared : SharedPackage) : Prop where
  adds : Adds (· ∈ standardPaths) ⟨"package internal", []⟩ shared.scope shared.chunk
  named : ∀ name ∈ shared.chunk.names, ∃ ident ∈ sharedTypes.map (·.ident), ∃ literal,
    name = ident ++ literal

theorem SharedPackage.sound_empty : SharedPackage.Sound {} :=
  ⟨.empty, fun _ member => nomatch member⟩

theorem mem_idents_of_sharedIdent? {domain type ident : String}
    (h : sharedIdent? domain type = some ident) : ident ∈ sharedTypes.map (·.ident) := by
  obtain ⟨shared, found, rfl⟩ := Option.map_eq_some_iff.1 h
  exact List.mem_map_of_mem (List.mem_of_find?_eq_some found)

theorem solid_sharedIdents : ∀ ident ∈ sharedTypes.map (·.ident), SolidName ident := by
  decide

theorem Site.sound_share {site : Site} {node : TypeNode} {before after : SharedPackage}
    (sound : before.Sound) (h : site.share before node = .ok after) : after.Sound := by
  rcases share_eq_ok h with ⟨-, rfl⟩ | ⟨ident, accepted, next, chunk, found, declared, defines, rfl⟩
  · exact sound
  · have member := mem_idents_of_sharedIdent? found
    refine ⟨sound.adds.append ?_, fun name inside => ?_⟩
    · -- The shared package follows no reference, so JSON is all that its types need.
      refine defines.adds (fun _ standard => standard) (fun path needs => ?_)
        (solid_sharedIdents ident member) declared
      rcases needs with rfl | ⟨alone, -⟩
      · decide
      · cases alone
    · rw [Chunk.names_append, List.mem_append] at inside
      rcases inside with inside | inside
      · exact sound.named name inside
      · obtain ⟨constants, names, -, prefixed⟩ := defines.names
        rw [names, List.mem_cons] at inside
        rcases inside with rfl | inside
        · exact ⟨name, member, "", by simp⟩
        · obtain ⟨literal, same, -⟩ := prefixed name inside
          exact ⟨ident, member, literal, same⟩

end Bindings.Emission
