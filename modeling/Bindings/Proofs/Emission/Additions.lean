import Bindings.Emission.Chunk
import Bindings.Proofs.Emission.Uses
import Bindings.Proofs.Name.Separators

/-! What a step of emission adds to its package.

An addition is accounted for in one place: the identifiers that its declarations
declare are the ones the scope has accepted, and what it imports is allowed.
Additions compose, so a package is accounted for from its parts.
-/

set_option autoImplicit false

namespace Bindings.Emission

open Go (Decl Item NameScope)
open Name (SolidName)

namespace Chunk

def names (chunk : Chunk) : List String := Go.itemNames chunk.items

def structs (chunk : Chunk) : List (List String) := chunk.items.flatMap (·.decl.structs)

@[simp] theorem items_append (first second : Chunk) :
    (first ++ second).items = first.items ++ second.items := rfl

@[simp] theorem imports_append (first second : Chunk) :
    (first ++ second).imports = first.imports ++ second.imports := rfl

@[simp] theorem names_append (first second : Chunk) :
    (first ++ second).names = first.names ++ second.names := by
  simp [names]

@[simp] theorem structs_append (first second : Chunk) :
    (first ++ second).structs = first.structs ++ second.structs := by
  simp [structs]

theorem concat_cons (chunk : Chunk) (chunks : List Chunk) :
    concat (chunk :: chunks) = chunk ++ concat chunks := rfl

theorem items_concat (chunks : List Chunk) : (concat chunks).items = chunks.flatMap (·.items) := by
  induction chunks with
  | nil => rfl
  | cons chunk chunks ih => rw [concat_cons, items_append, ih, List.flatMap_cons]

theorem items_subset_concat {chunk : Chunk} {chunks : List Chunk} (found : chunk ∈ chunks) :
    chunk.items ⊆ (concat chunks).items := by
  rw [items_concat]
  exact fun item member => List.mem_flatMap.2 ⟨chunk, found, member⟩

theorem imports_concat (chunks : List Chunk) :
    (concat chunks).imports = chunks.flatMap (·.imports) := by
  induction chunks with
  | nil => rfl
  | cons chunk chunks ih => rw [concat_cons, imports_append, ih, List.flatMap_cons]

theorem names_concat (chunks : List Chunk) : (concat chunks).names = chunks.flatMap (·.names) := by
  simp [names, Go.itemNames, items_concat, List.flatMap_assoc]

theorem structs_concat (chunks : List Chunk) :
    (concat chunks).structs = chunks.flatMap (·.structs) := by
  simp [structs, items_concat, List.flatMap_assoc]

theorem items_ofDecls (packages : List Go.Package) (decls : List Decl) :
    (ofDecls packages decls).items = decls.map fun decl => ⟨decl, true⟩ := rfl

theorem names_ofDecls (packages : List Go.Package) (decls : List Decl) :
    (ofDecls packages decls).names = decls.flatMap Decl.names := by
  simp [names, Go.itemNames, items_ofDecls, List.flatMap_map]

theorem structs_ofDecls (packages : List Go.Package) (decls : List Decl) :
    (ofDecls packages decls).structs = decls.flatMap Decl.structs := by
  simp [structs, items_ofDecls, List.flatMap_map]

theorem structs_singleton (imports : List String) (item : Item) :
    structs ⟨imports, [item]⟩ = item.decl.structs := List.append_nil _

theorem mem_imports_ofDecls {packages : List Go.Package} {decls : List Decl} {path : String} :
    path ∈ (ofDecls packages decls).imports ↔ ∃ package ∈ packages, package.path = path := by
  simp [ofDecls]

theorem standard_imports_ofDecls {packages : List Go.Package} {decls : List Decl} {path : String}
    (standard : ∀ package ∈ packages, package.path ∈ standardPaths)
    (member : path ∈ (ofDecls packages decls).imports) : path ∈ standardPaths := by
  obtain ⟨package, found, rfl⟩ := mem_imports_ofDecls.1 member
  exact standard package found

theorem mem_imports_file {chunk : Chunk} {path package used : String} {doc : List String} :
    used ∈ (chunk.file path package doc).imports ↔ used ∈ chunk.imports := by
  rw [file]
  dsimp only
  -- The file keeps its imports sorted: they are inserted one by one.
  induction chunk.imports with
  | nil => rfl
  | cons head rest ih => rw [List.foldr_cons, mem_insertSorted, ih, List.mem_cons]

end Chunk

/-- A chunk that has been added to a package: the scope went from `scope` to `next` by accepting
the identifiers that the chunk declares. -/
structure Adds (Allowed : String → Prop) (scope next : NameScope) (chunk : Chunk) : Prop where
  declares : scope.declareAll chunk.names = .ok next
  solid : ∀ name ∈ chunk.names, SolidName name
  imports : ∀ path ∈ chunk.imports, Allowed path
  structs : ∀ fields ∈ chunk.structs, fields.Nodup

namespace Adds

variable {Allowed : String → Prop} {scope next last : NameScope} {first second chunk : Chunk}

theorem empty : Adds Allowed scope scope {} where
  declares := rfl
  solid _ member := nomatch member
  imports _ member := nomatch member
  structs _ member := nomatch member

theorem append (before : Adds Allowed scope next first) (after : Adds Allowed next last second) :
    Adds Allowed scope last (first ++ second) where
  declares := by
    rw [Chunk.names_append]
    exact NameScope.declareAll_append before.declares after.declares
  solid name member := by
    rw [Chunk.names_append, List.mem_append] at member
    exact member.elim (before.solid name) (after.solid name)
  imports path member :=
    (List.mem_append.1 member).elim (before.imports path) (after.imports path)
  structs fields member := by
    rw [Chunk.structs_append, List.mem_append] at member
    exact member.elim (before.structs fields) (after.structs fields)

/-- Chunks that are added one after the other are added together. -/
theorem thread {σ α : Type} {step : σ → α → Except Error (σ × Chunk)} {xs : List α}
    (state : σ → NameScope)
    (adds : ∀ {s x t chunk}, x ∈ xs → step s x = .ok (t, chunk) →
      Adds Allowed (state s) (state t) chunk)
    {before after : σ} {chunks : List Chunk}
    (h : Bindings.thread step before xs = .ok (after, chunks)) :
    Adds Allowed (state before) (state after) (.concat chunks) := by
  induction xs generalizing before chunks with
  | nil =>
    obtain ⟨rfl, rfl⟩ := thread_nil h
    exact empty
  | cons x xs ih =>
    obtain ⟨middle, chunk, rest, hx, hrest, rfl⟩ := thread_cons h
    exact (adds List.mem_cons_self hx).append
      (ih (fun member => adds (List.mem_cons_of_mem x member)) hrest)

/-- A chunk without package-level identifiers leaves the scope as it is. -/
theorem of_names_nil (nameless : chunk.names = []) (imports : ∀ path ∈ chunk.imports, Allowed path)
    (structs : ∀ fields ∈ chunk.structs, fields.Nodup) : Adds Allowed scope scope chunk where
  declares := by rw [nameless]; rfl
  solid name member := by rw [nameless] at member; cases member
  imports := imports
  structs := structs

/-- A chunk with one package-level identifier, which the scope has accepted. -/
theorem of_names_singleton {ident : String} (single : chunk.names = [ident])
    (declared : scope.declare ident = .ok next) (solid : SolidName ident)
    (imports : ∀ path ∈ chunk.imports, Allowed path)
    (structs : ∀ fields ∈ chunk.structs, fields.Nodup) : Adds Allowed scope next chunk where
  declares := by
    rw [single]
    exact NameScope.declareAll_singleton.2 declared
  solid name member := by
    rw [single] at member
    exact List.mem_singleton.1 member ▸ solid
  imports := imports
  structs := structs

/-- A struct declared under an identifier that the scope has accepted. -/
theorem struct {doc : List String} {ident : String} {uses : FieldUses}
    (declared : scope.declare ident = .ok next) (solid : SolidName ident)
    (imports : ∀ path ∈ uses.imports, Allowed path)
    (structs : ∀ fields ∈ (Go.TypeExpr.struct uses.fields).structs, fields.Nodup) :
    Adds Allowed scope next ⟨uses.imports, [⟨.type doc ident (.struct uses.fields), true⟩]⟩ := by
  refine .of_names_singleton rfl declared solid imports ?_
  rw [Chunk.structs_singleton]
  exact structs

end Adds

end Bindings.Emission
