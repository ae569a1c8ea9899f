import Bindings.Workspace.FileTree
import Bindings.Workspace.Octets

/-! Files and what processes have opened.

An open file keeps its place; whoever shares it shares the place as well.
-/

set_option autoImplicit false

namespace Bindings.Workspace

open Text (Bytes)

inductive Channel where
  /-- Bytes that are still to be read. -/
  | source (rest : Bytes)
  /-- Pieces that have been written, the last one first. -/
  | collector (written : List Bytes)
  | file (path : Path) (place : Nat) (appending : Bool)
  /-- Takes everything, holds nothing. -/
  | nothing

/-- The files and all that has been opened, which is known by its number. -/
structure System where
  tree : FileTree
  channels : List Channel := []

namespace System

def attach (system : System) (channel : Channel) : Nat × System :=
  (system.channels.length, { system with channels := system.channels ++ [channel] })

def replace (system : System) (number : Nat) (channel : Channel) : System :=
  { system with channels := system.channels.set number channel }

def pending (system : System) (number : Nat) : Bytes :=
  match system.channels[number]? with
  | some (.source rest) => rest
  | some (.file path place _) =>
    match system.tree.content path with
    | .ok content => content.drop place
    | .error _ => []
  | _ => []

def advance (system : System) (number count : Nat) : System :=
  match system.channels[number]? with
  | some (.source rest) => system.replace number (.source (rest.drop count))
  | some (.file path place appending) =>
    system.replace number (.file path (place + count) appending)
  | _ => system

def readAll (system : System) (number : Nat) : Bytes × System :=
  let bytes := system.pending number
  (bytes, system.advance number bytes.length)

def write (system : System) (number : Nat) (bytes : Bytes) : System :=
  match system.channels[number]? with
  | some (.collector written) => system.replace number (.collector (bytes :: written))
  | some (.file path place appending) =>
    let place := if appending then (system.tree.content path).toOption.elim 0 List.length else place
    { system with tree := system.tree.overwrite path place bytes }.replace number
      (.file path (place + bytes.length) appending)
  | _ => system

def collected (system : System) (number : Nat) : Bytes :=
  match system.channels[number]? with
  | some (.collector written) => written.reverse.flatten
  | _ => []

inductive Access where
  | read
  /-- Whatever the file holds is lost. -/
  | replace
  /-- The same, even if files are to be kept. -/
  | renew
  | append
  /-- For reading and writing. -/
  | update
  deriving DecidableEq

/-- Open a file; unless it is only read, one that is missing is created. -/
def openFile (system : System) (base : Path) (text : String) (access : Access) :
    Except OsError (Nat × System) := do
  let path ← system.tree.locate base text
  match access with
  | .read =>
    if (system.tree.get? path).isNone then .error .noEntry
    else return system.attach (.file path 0 false)
  | access =>
    let content ← match access, system.tree.get? path with
      | .replace, _ => pure []
      | .renew, _ => pure []
      | _, none => pure []
      | _, some _ => system.tree.content path
    let tree ← system.tree.write path content
    let channel := if tree.get? path = some .sink then .nothing
      else .file path 0 (access = .append)
    return { system with tree := tree }.attach channel

end System

end Bindings.Workspace
