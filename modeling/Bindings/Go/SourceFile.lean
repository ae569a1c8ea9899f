import Bindings.Go.Printer
import Bindings.SortedList
import Bindings.Unicode.Blank

/-! Go source files. -/

set_option autoImplicit false

namespace Bindings.Go

structure Item where
  decl : Decl
  spaced : Bool := true

def Item.print (item : Item) : List Piece :=
  item.decl.print ++ if item.spaced then [.code "\n"] else []

structure SourceFile where
  path : String
  package : String
  doc : List String := []
  imports : List String := []
  items : List Item := []

def generatedHeader : String := "// Code generated by cdpgen. DO NOT EDIT."

/-- Paths whose first element has no dot belong to the standard library. -/
def isStandard (path : String) : Bool := !(path.toList.takeWhile (· != '/')).contains '.'

namespace SourceFile

def addImport (file : SourceFile) (path : String) : SourceFile :=
  { file with imports := insertSorted path file.imports }

def addImports (file : SourceFile) (paths : List String) : SourceFile :=
  paths.foldl addImport file

def push (file : SourceFile) (items : List Item) : SourceFile :=
  { file with items := file.items ++ items }

def body (file : SourceFile) : String := Piece.join (file.items.flatMap Item.print)

/-- A file without declarations is not written. -/
def isEmpty (file : SourceFile) : Bool := file.body.toList.all Unicode.isBlank

def importLines (paths : List String) : String :=
  String.join (paths.map fun path => "\t\"" ++ path ++ "\"\n")

def importBlock (imports : List String) : String :=
  let standard := imports.filter isStandard
  let others := imports.filter fun path => !isStandard path
  if imports.isEmpty then ""
  else
    "\nimport (\n" ++ importLines standard
      ++ (if standard.isEmpty || others.isEmpty then "" else "\n")
      ++ importLines others ++ ")\n"

def heading (file : SourceFile) : String :=
  generatedHeader ++ "\n\n" ++ Piece.join (printDoc 0 file.doc) ++ "package " ++ file.package
    ++ "\n" ++ importBlock file.imports

def render (file : SourceFile) : String :=
  if file.isEmpty then file.heading
  else
    let text := file.heading ++ "\n" ++ .ofList (file.body.toList.dropWhile (· == '\n'))
    if text.endsWith "\n" then text else text ++ "\n"

end SourceFile

end Bindings.Go
