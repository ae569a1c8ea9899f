import Bindings.Go.SourceFile

/-! Part of a source file: declarations with the imports recorded for them. -/

set_option autoImplicit false

namespace Bindings.Emission

structure Chunk where
  imports : List String := []
  items : List Go.Item := []

namespace Chunk

instance : Append Chunk where
  append a b := ⟨a.imports ++ b.imports, a.items ++ b.items⟩

def concat (chunks : List Chunk) : Chunk := chunks.foldr (· ++ ·) {}

def ofDecls (imports : List Go.Package) (decls : List Go.Decl) : Chunk :=
  ⟨imports.map (·.path), decls.map fun decl => ⟨decl, true⟩⟩

end Chunk

def Chunk.file (chunk : Chunk) (path package : String) (doc : List String := []) : Go.SourceFile :=
  { path := path, package := package, doc := doc, imports := chunk.imports.foldr insertSorted [],
    items := chunk.items }

end Bindings.Emission
