import Bindings.Run.Program
import Bindings.Workspace.Memory

/-! The command line.

The files that a run reads are brought into memory, the run takes place there, and
the files that it has written are brought out.
-/

set_option autoImplicit false

open Bindings
open Bindings.Workspace (FileTree Path memory)

namespace Bindings.CommandLine

def names (path : String) : Path := (FileTree.parts [] path).2

/-- Bring files into memory; those that cannot be read are missing there too. -/
def bringIn (base : Path) (tree : FileTree) (paths : List String) : IO FileTree := do
  let mut tree := tree
  for path in paths do
    try
      let content ← IO.FS.readBinFile path
      tree := FileTree.addFile base tree (path, content.toList)
    catch _ => pure ()
  return tree

def bringOut (before after : FileTree) : IO Unit := do
  let known := before.files []
  for (name, content) in after.files [] do
    unless known.contains (name, content) do
      let path := "/" ++ name
      IO.FS.createDirAll (FileTree.directoryPart path)
      IO.FS.writeBinFile path (ByteArray.mk content.toArray)

end Bindings.CommandLine

open Bindings.CommandLine in
def main (args : List String) : IO UInt32 := do
  let base := names (← IO.currentDir).toString
  let machine := memory base
  let empty := FileTree.ofFiles base []
  let withConfig ← bringIn base empty (Program.inputs machine args empty)
  let tree ← bringIn base empty (Program.inputs machine args withConfig)
  let (result, after) := Program.main machine args (← IO.getEnv "RUST_LOG") tree
  bringOut tree after
  for line in result.log do
    IO.eprintln line
  IO.print result.output
  if let some error := result.error then
    IO.eprintln error
  return result.code.toUInt32
