import Bindings.Run.Machine
import Bindings.Text.Split

/-! Files and directories in memory.

A path is the list of names from the top. The text of a path is followed name by
name: every name but the first is looked up in a directory that is there.
-/

set_option autoImplicit false

namespace Bindings.Workspace

open Text (Bytes)

abbrev Path := List String

inductive Utility where
  | cat
  | echo
  | env
  | fail
  | printf
  | shell
  | succeed
  | test
  | tr
  deriving DecidableEq

inductive Entry where
  | directory
  | file (content : Bytes) (executable : Bool)
  | utility (program : Utility)
  /-- Takes everything, holds nothing. -/
  | sink
  /-- What the process that asks has opened under a number. -/
  | opened (descriptor : Nat)
  deriving DecidableEq

structure FileTree where
  entries : List (Path × Entry)

namespace FileTree

def standard : FileTree :=
  ⟨[(["bin"], .directory), (["usr"], .directory), (["usr", "bin"], .directory),
      (["dev"], .directory), (["dev", "null"], .sink), (["dev", "stdin"], .opened 0),
      (["dev", "stdout"], .opened 1), (["dev", "stderr"], .opened 2)]
    ++ programs.flatMap fun program =>
      [(["bin", program.1], .utility program.2), (["usr", "bin", program.1], .utility program.2)]⟩
where
  programs : List (String × Utility) :=
    [("cat", .cat), ("echo", .echo), ("env", .env), ("false", .fail), ("printf", .printf),
     ("sh", .shell), ("dash", .shell), ("true", .succeed), ("test", .test), ("[", .test),
     ("tr", .tr)]

/-- The entry at a path; the top is a directory. -/
def get? (tree : FileTree) (path : Path) : Option Entry :=
  if path = [] then some .directory else tree.entries.lookup path

def put (tree : FileTree) (path : Path) (entry : Entry) : FileTree :=
  ⟨replace tree.entries⟩
where
  replace : List (Path × Entry) → List (Path × Entry)
    | [] => [(path, entry)]
    | old :: rest => if old.1 = path then (path, entry) :: rest else old :: replace rest

theorem get?_put_self (tree : FileTree) {path : Path} (entry : Entry) (h : path ≠ []) :
    (tree.put path entry).get? path = some entry := by
  simp only [get?, h, if_false, put]
  induction tree.entries with
  | nil => simp [put.replace]
  | cons old rest ih =>
    obtain ⟨place, _⟩ := old
    by_cases same : place = path
    · simp [put.replace, same]
    · simp [put.replace, same, List.lookup_cons, beq_false_of_ne (Ne.symm same), ih]

theorem get?_put_of_ne (tree : FileTree) {path other : Path} (entry : Entry)
    (h : other ≠ path) : (tree.put path entry).get? other = tree.get? other := by
  by_cases top : other = []
  · simp [get?, top]
  simp only [get?, top, if_false, put]
  induction tree.entries with
  | nil => simp [put.replace, List.lookup_cons, beq_false_of_ne h]
  | cons old rest ih =>
    obtain ⟨place, _⟩ := old
    by_cases same : place = path
    · simp [put.replace, same, List.lookup_cons, beq_false_of_ne h]
    · simp [put.replace, same, List.lookup_cons, ih]

def nameLimit : Nat := 255

def pathLimit : Nat := 4095

def step (tree : FileTree) (base : Path) (name : String) : Except OsError Path :=
  match tree.get? base with
  | none => .error .noEntry
  | some .directory =>
    if name = "" || name = "." then .ok base
    else if name = ".." then .ok base.dropLast
    else if nameLimit < name.utf8ByteSize then .error .nameTooLong
    else .ok (base ++ [name])
  | some _ => .error .notDirectory

/-- A text that cannot be the text of a path is refused before anything is looked up. -/
def checkPath (text : String) : Except OsError Unit :=
  if text.toList.contains '\x00' then .error .zeroInPath
  else if pathLimit < text.utf8ByteSize then .error .nameTooLong
  else .ok ()

def parts (base : Path) (text : String) : Path × List String :=
  match (Text.splitWhere (· == '/') text.toList).map String.ofList with
  | "" :: next :: names => ([], next :: names)
  | names => (base, names)

/-- The path that a text stands for in a directory. There may be nothing at its end. -/
def locate (tree : FileTree) (base : Path) (text : String) : Except OsError Path := do
  checkPath text
  if text = "" then .error .noEntry
  else
    let (start, names) := parts base text
    names.foldlM tree.step start

def content (tree : FileTree) (path : Path) : Except OsError Bytes :=
  match tree.get? path with
  | none => .error .noEntry
  | some .directory => .error .isDirectory
  | some (.file content _) => .ok content
  | some _ => .ok []

/-- Create or replace a file; one that can be executed stays so. -/
def write (tree : FileTree) (path : Path) (content : Bytes) : Except OsError FileTree :=
  match tree.get? path with
  | none => .ok (tree.put path (.file content false))
  | some .directory => .error .isDirectory
  | some (.file _ executable) => .ok (tree.put path (.file content executable))
  | some (.utility _) => .error .accessDenied
  | some _ => .ok tree

/-- Replace the bytes of a file from a place on. Anything else takes nothing. -/
def overwrite (tree : FileTree) (path : Path) (place : Nat) (bytes : Bytes) : FileTree :=
  match tree.get? path with
  | some (.file content executable) =>
    let gap : Bytes := List.replicate (place - content.length) 0
    let content := content.take place ++ gap ++ bytes ++ content.drop (place + bytes.length)
    tree.put path (.file content executable)
  | _ => tree

def names (tree : FileTree) (path : Path) : List String :=
  tree.entries.filterMap fun entry =>
    match entry.1.getLast? with
    | some name => if entry.1.dropLast = path then some name else none
    | none => none

def create (tree : FileTree) (base : Path) : List String → Except OsError FileTree
  | [] => .ok tree
  | name :: names => do
    let path ← tree.step base name
    match tree.get? path with
    | none => create (tree.put path .directory) path names
    | some .directory => create tree path names
    | some _ => .error (if names.isEmpty then .exists else .notDirectory)

def createDirectories (tree : FileTree) (base : Path) (text : String) :
    Except OsError FileTree := do
  checkPath text
  if text = "" then .ok tree
  else
    let (start, names) := parts base text
    tree.create start names

def files (tree : FileTree) (base : Path) : List (String × Bytes) :=
  tree.entries.filterMap fun item =>
    match item.2 with
    | .file content _ =>
      if base.isPrefixOf item.1 then
        some ("/".intercalate (item.1.drop base.length), content)
      else none
    | _ => none

end FileTree

end Bindings.Workspace
