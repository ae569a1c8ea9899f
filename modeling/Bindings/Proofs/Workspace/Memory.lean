import Bindings.Proofs.Run.Writing
import Bindings.Proofs.Text.Utf8
import Bindings.Proofs.Workspace.FileTree
import Bindings.Workspace.Memory

/-! Runs on the machine in memory.

Its file tree is a map from places to contents, so that what a run has written is read back. A run
may format with a program of the machine: `cat` accepts every text as it is, `false` accepts none.
-/

set_option autoImplicit false

namespace Bindings

open Text (Bytes utf8)

/-- Without a formatter every text stays as it is. -/
theorem Machine.FileView.formats_none {σ π : Type} [DecidableEq π] {m : Machine σ}
    (view : m.FileView π) : view.Formats none .ok where
  formatted _ := rfl
  untouched same := nomatch same

namespace Workspace

variable {base : Path} {tree next : FileTree}

namespace FileTree

/-- The text of a file; other entries have none, nor have files that are no text. -/
def textAt? (tree : FileTree) (path : Path) : Option String :=
  match tree.get? path with
  | some (.file content _) => (Text.Utf8.decode content).toOption
  | _ => none

def place? (base : Path) (text : String) : Option Path :=
  if place base text ∈ devices then none else some (place base text)

theorem place_eq_of_place? {text : String} {path : Path} (h : place? base text = some path) :
    place base text = path := by
  rw [place?] at h
  split at h
  · cases h
  · exact Option.some.inj h

theorem textAt?_write (valid : tree.Valid) {path : Path} {text : String}
    (h : tree.write path (utf8 text) = .ok next) :
    next.textAt? = stored tree.textAt? (if path ∈ devices then none else some path) text := by
  funext other
  obtain ⟨executable, rfl, given, file⟩ | ⟨rfl, entry, found, device⟩ := write_eq_ok h
  · have elsewhere : path ∉ devices := valid.notMem_devices fun entry found => by
      have file := file entry found
      cases entry <;> first | rfl | cases file
    rw [if_neg elsewhere, stored, textAt?, get?_put tree _ given]
    by_cases same : other = path
    · subst same
      rw [if_pos rfl, if_pos rfl]
      simp [Text.Utf8.decode_utf8, Except.toOption]
    · rw [if_neg same, if_neg fun equal => same (Option.some.inj equal).symm]
      rfl
  · rw [if_pos (valid.placed found device), stored, if_neg (by simp)]

theorem isDirectory_write {path : Path} {content : Bytes} (h : tree.write path content = .ok next)
    (other : Path) : next.get? other = some .directory ↔ tree.get? other = some .directory := by
  obtain ⟨executable, rfl, given, file⟩ | ⟨rfl, -⟩ := write_eq_ok h
  · rw [get?_put tree _ given]
    by_cases same : other = path
    · subst same
      simp only [if_true, reduceCtorEq, Option.some.injEq, false_iff]
      intro found
      nomatch file _ found
    · rw [if_neg same]
  · rfl

end FileTree

open FileTree (place? textAt?)

theorem memory_write_eq_ok {path text : String}
    (h : (memory base).write path text tree = .ok next) :
    tree.locate base path = .ok (FileTree.place base path) ∧
      tree.write (FileTree.place base path) (utf8 text) = .ok next := by
  change (tree.locate base path).bind _ = _ at h
  cases located : tree.locate base path with
  | error refusal => rw [located] at h; cases h
  | ok found =>
    rw [located] at h
    obtain rfl := FileTree.eq_place_of_locate located
    exact ⟨rfl, h⟩

def memoryView (base : Path) : (memory base).FileView Path where
  Valid := FileTree.Valid
  place := place? base
  content := textAt?
  isDirectory tree path := tree.get? path = some .directory
  above := FileTree.above base
  valid_write valid written := valid.write (memory_write_eq_ok written).2
  content_write valid written := FileTree.textAt?_write valid (memory_write_eq_ok written).2
  isDirectory_write _ written := by
    funext path
    exact propext (FileTree.isDirectory_write (memory_write_eq_ok written).2 path)
  valid_createDirectories valid created := valid.createDirectories created
  content_createDirectories {path state next} _ created := by
    funext other
    have all := (FileTree.createDirectories_eq_ok created).1 other
    by_cases missing : state.get? other = none ∧ other ∈ FileTree.above base path
    · rw [textAt?, textAt?, all, if_pos missing, missing.1]
    · rw [textAt?, textAt?, all, if_neg missing]
  isDirectory_createDirectories {path state next} _ created other := by
    obtain ⟨all, there⟩ := FileTree.createDirectories_eq_ok created
    constructor
    · intro found
      rw [all] at found
      split at found
      · next missing => exact .inr missing.2
      · exact .inl found
    · rintro (found | member)
      · rw [all, if_neg (by simp [found]), found]
      · exact there other member

/-- A text that is found is read. -/
theorem read_of_textAt? {path text : String} {found : Path}
    (located : tree.locate base path = .ok found) (holds : tree.textAt? found = some text) :
    (memory base).read path tree = .ok text := by
  change (tree.locate base path).bind _ = _
  rw [located]
  change (tree.content found).bind _ = _
  rw [textAt?] at holds
  split at holds
  · next bytes executable entry =>
    rw [FileTree.content, entry]
    change (Text.Utf8.decode bytes).mapError _ = _
    cases decoded : Text.Utf8.decode bytes with
    | error fault => rw [decoded] at holds; cases holds
    | ok read =>
      rw [decoded] at holds
      exact congrArg Except.ok (Option.some.inj holds)
  · cases holds

section Start

open FileTree (addFile ofFiles standard)

/-- Files may be added wherever nothing stands that is always there. -/
theorem valid_addFile (valid : tree.Valid) {file : String × Bytes}
    (elsewhere : ∀ item ∈ standard.entries, item.1 ≠ FileTree.place base file.1) :
    (addFile base tree file).Valid := by
  rw [addFile]
  cases created : tree.createDirectories base (FileTree.directoryPart file.1) with
  | error refusal => exact valid
  | ok made =>
    have kept := valid.createDirectories created
    cases located : made.locate base file.1 with
    | error refusal => simpa [bind, Except.bind, located] using valid
    | ok path =>
      obtain rfl := FileTree.eq_place_of_locate located
      have added : (made.put (FileTree.place base file.1)
          (.file file.2 ((utf8 "#!").isPrefixOf file.2))).Valid := kept.put rfl elsewhere
      simpa [bind, Except.bind, located, pure, Except.pure] using added

theorem valid_addFiles (valid : tree.Valid) {files : List (String × Bytes)}
    (elsewhere : ∀ file ∈ files, ∀ item ∈ standard.entries, item.1 ≠ FileTree.place base file.1) :
    (files.foldl (addFile base) tree).Valid := by
  induction files generalizing tree with
  | nil => exact valid
  | cons file files ih =>
    exact ih (valid_addFile valid (elsewhere file List.mem_cons_self)) fun other member =>
      elsewhere other (List.mem_cons_of_mem _ member)

/-- The trees that runs begin with are valid. -/
theorem valid_ofFiles {files : List (String × Bytes)}
    (elsewhere : ∀ file ∈ files, ∀ item ∈ standard.entries, item.1 ≠ FileTree.place base file.1) :
    (ofFiles base files).Valid := by
  refine valid_addFiles ?_ elsewhere
  cases created : standard.create [] base with
  | error refusal => exact FileTree.valid_standard
  | ok made => exact FileTree.valid_standard.of_created (FileTree.create_eq_ok created).1

end Start

section Programs

open Memory (environment execute start utility)

theorem step_of_plain {path : Path} {name : String} (directory : tree.get? path = some .directory)
    (plain : name ∉ ["", ".", ".."] ∧ name.utf8ByteSize ≤ FileTree.nameLimit) :
    tree.step path name = .ok (path ++ [name]) := by
  obtain ⟨⟨given, here, up⟩, fits⟩ : (name ≠ "" ∧ name ≠ "." ∧ name ≠ "..") ∧ _ := by
    simpa using plain
  simp [FileTree.step, directory, given, here, up, Nat.not_lt.2 fits]

/-- The programs that are always there can be named by their paths from everywhere. -/
theorem locate_program (valid : tree.Valid) {program : String × Utility}
    (listed : program ∈ FileTree.standard.programs) :
    tree.locate base ("/usr/bin/" ++ program.1) = .ok ["usr", "bin", program.1] := by
  have fits : ∀ program ∈ FileTree.standard.programs,
      ("/usr/bin/" ++ program.1).toList.contains '\x00' = false ∧
        ("/usr/bin/" ++ program.1).utf8ByteSize ≤ FileTree.pathLimit ∧
        (Text.splitWhere (· == '/') ("/usr/bin/" ++ program.1).toList).map String.ofList =
          ["", "usr", "bin", program.1] ∧
        program.1 ∉ ["", ".", ".."] ∧ program.1.utf8ByteSize ≤ FileTree.nameLimit := by
    decide +kernel
  obtain ⟨noZero, short, names, plain⟩ := fits program listed
  have parts : FileTree.parts base ("/usr/bin/" ++ program.1) =
      ([], ["usr", "bin", program.1]) := by
    simp only [FileTree.parts, names]
  rw [FileTree.locate_eq_ok_iff, parts]
  refine ⟨?_, ?_, ?_⟩
  · simp only [FileTree.checkPath, noZero, Bool.false_eq_true, if_false, Nat.not_lt.2 short]
  · intro empty
    simp [← String.toList_inj] at empty
  · have usr := valid.present (["usr"], .directory) (by decide)
    have bin := valid.present (["usr", "bin"], .directory) (by decide)
    rw [List.foldlM_cons, step_of_plain (FileTree.get?_nil tree) (by decide)]
    change (["bin", program.1].foldlM tree.step ["usr"]) = _
    rw [List.foldlM_cons, step_of_plain usr (by decide)]
    change ([program.1].foldlM tree.step ["usr", "bin"]) = _
    rw [List.foldlM_cons, step_of_plain bin plain]
    rfl

theorem atPath_program {call : Call} {system : System} (valid : system.tree.Valid)
    {program : String × Utility} (listed : program ∈ FileTree.standard.programs) :
    Program.atPath call system ("/usr/bin/" ++ program.1) =
      .ok ⟨.utility program.2, "/usr/bin/" ++ program.1⟩ := by
  have facts : ∀ program ∈ FileTree.standard.programs,
      Octets.toText ("/usr/bin/" ++ program.1) = "/usr/bin/" ++ program.1 ∧
        (["usr", "bin", program.1], Entry.utility program.2) ∈ FileTree.standard.entries := by
    decide +kernel
  obtain ⟨same, entry⟩ := facts program listed
  rw [Program.atPath, same, locate_program valid listed]
  simp only [bind, Except.bind, valid.present _ entry]
  rfl

/-- A name without directories stands for the program of that name. -/
theorem find_program {call : Call} {system : System} (valid : system.tree.Valid)
    {program : String × Utility} (listed : program ∈ FileTree.standard.programs)
    (named : call.name = program.1) (searched : call.environment = environment) :
    Program.find call system = .ok ⟨.utility program.2, "/usr/bin/" ++ program.1⟩ := by
  have facts : ∀ program ∈ FileTree.standard.programs,
      program.1.toList.contains '/' = false ∧ program.1 ≠ "" ∧
        program.1.length ≤ FileTree.nameLimit := by
    decide +kernel
  obtain ⟨plain, given, short⟩ := facts program listed
  have directories : (Text.splitWhere (· == ':')
      ((environment.lookup "PATH").getD Program.defaultDirectories).toList) =
        ["/usr/bin".toList, "/bin".toList] := by
    decide +kernel
  rw [Program.find, named, searched]
  simp only [plain, given, Nat.not_lt.2 short, directories, Bool.false_eq_true, if_false,
    List.map_cons]
  have first : String.ofList "/usr/bin".toList ++ "/" ++ program.1 = "/usr/bin/" ++ program.1 := by
    rw [show String.ofList "/usr/bin".toList ++ "/" = "/usr/bin/" by decide +kernel]
  rw [if_neg (by decide), first, Program.first, atPath_program valid listed]

def callOf (base : Path) (name : String) : Call where
  name := name
  arguments := []
  directory := base
  environment := environment
  descriptors := [(Call.input, 0), (Call.output, 1), (Call.errors, 2)]

def systemOf (tree : FileTree) (text : String) : System :=
  ⟨tree, [.source (utf8 text), .collector [], .collector []]⟩

theorem execute_program (valid : tree.Valid) {program : String × Utility}
    (listed : program ∈ FileTree.standard.programs) {text : String} {status : ExitStatus}
    {system : System}
    (ran : utility (start 63) (callOf base program.1) (systemOf tree text) program.2 =
      .ok (status, system)) :
    execute base { program := program.1, input := text } tree =
      .ok (⟨status, system.collected 1, system.collected 2,
        if Memory.pipeSize < (system.pending 0).length then some .brokenPipe else none⟩,
        system.tree) := by
  have facts : ∀ program ∈ FileTree.standard.programs,
      ([program.1].any fun text => text.toList.contains '\x00') = false ∧
        Octets.ofText program.1 = program.1 := by
    decide +kernel
  obtain ⟨noZero, same⟩ := facts program listed
  have found : Program.find (callOf base program.1) (systemOf tree text) =
      .ok ⟨.utility program.2, "/usr/bin/" ++ program.1⟩ := find_program valid listed rfl rfl
  have started : start 64 (callOf base program.1) (systemOf tree text) = .ok (status, system) := by
    rw [start, found]
    exact ran
  rw [execute]
  simp only [Option.toList_none, List.append_nil, noZero, Bool.false_eq_true, if_false,
    List.map_nil, same, Memory.directoryOf]
  change (start 64 (callOf base program.1) (systemOf tree text)).bind _ = _
  rw [started]
  rfl

/-- `cat` without arguments passes its input on. -/
theorem copy_input (text : String) :
    copy (callOf base "cat") (systemOf tree text) =
      (.code 0, ⟨tree, [.source [], .collector [utf8 text], .collector []]⟩) := by
  have all : (utf8 text).drop (utf8 text).length = [] := List.drop_length
  have input : (callOf base "cat").read (systemOf tree text) =
      (utf8 text, ⟨tree, [.source [], .collector [], .collector []]⟩) := by
    rw [← all]
    rfl
  have added : copy.add (callOf base "cat") (.code 0, [], systemOf tree text) "-" =
      (.code 0, utf8 text, ⟨tree, [.source [], .collector [], .collector []]⟩) := by
    rw [copy.add, if_pos rfl, input]
    rfl
  have begun : copy (callOf base "cat") (systemOf tree text) =
      let state := copy.add (callOf base "cat") (.code 0, [], systemOf tree text) "-"
      (state.1, (callOf base "cat").write Call.output state.2.1 state.2.2) := rfl
  rw [begun, added]
  rfl

theorem execute_cat (valid : tree.Valid) (text : String) :
    (memory base).execute { program := "cat", input := text } tree =
      .ok (⟨.code 0, utf8 text, [], none⟩, tree) := by
  have listed : ("cat", Utility.cat) ∈ FileTree.standard.programs := by decide
  change execute base _ tree = _
  simpa [System.collected, System.pending] using
    execute_program valid listed (congrArg Except.ok (copy_input text))

/-- A run that formats with `cat` writes every text as it is. -/
theorem memory_formats_cat : (memoryView base).Formats (some "cat") .ok where
  formatted valid := by
    rw [Machine.formatted, execute_cat valid]
    simp [FormatError.ofExecution, Except.map, ExitStatus.isSuccess, Text.Utf8.decode_utf8,
      Except.mapError]
  untouched := by
    rintro _ text state next execution ⟨⟩ valid executed
    rw [execute_cat valid] at executed
    obtain ⟨-, rfl⟩ := Prod.mk.inj (Except.ok.inj executed)
    exact ⟨valid, rfl, rfl⟩

theorem execute_false (valid : tree.Valid) (text : String) :
    ∃ refusal, (memory base).execute { program := "false", input := text } tree =
      .ok (⟨.code 1, [], [], refusal⟩, tree) := by
  have listed : ("false", Utility.fail) ∈ FileTree.standard.programs := by decide
  exact ⟨_, execute_program valid listed rfl⟩

/-- A run that formats with `false` writes every text as it is, but counts it as not formatted. -/
theorem memory_formats_false :
    (memoryView base).Formats (some "false") fun _ => .error (.rejected "false" "") where
  formatted {text state} valid := by
    obtain ⟨refusal, executed⟩ := execute_false valid text
    rw [Machine.formatted, executed]
    rfl
  untouched := by
    rintro _ text state next execution ⟨⟩ valid executed
    obtain ⟨refusal, ended⟩ := execute_false valid text
    rw [ended] at executed
    obtain ⟨-, rfl⟩ := Prod.mk.inj (Except.ok.inj executed)
    exact ⟨valid, rfl, rfl⟩

end Programs

section Runs

open Materialize (writtenText writeAll)
open Emission (joinPath)
open Go (SourceFile)

variable {formatter : Option String} {outcome : String → Except FormatError String} {root : String}
  {file : SourceFile} {files : List SourceFile} {first last : RunState FileTree}
  {stats after : WriteStats}

/-- The way to a file that has been written is open. -/
theorem locate_of_writeFile (formats : (memoryView base).Formats formatter outcome)
    (valid : first.machine.Valid) (nonempty : file.isEmpty = false)
    (leads : (Materialize.writeFile (memory base) formatter root stats file).Leads first (.ok after)
      last) :
    last.machine.locate base (joinPath root file.path) =
      .ok (FileTree.place base (joinPath root file.path)) := by
  obtain ⟨state, -, -, -, ⟨_, -, ⟨⟩, -⟩ | ⟨made, -, ⟨_, -, ⟨⟩, -⟩ | ⟨written, -⟩⟩⟩ :=
    Materialize.leads_writeFile formats valid nonempty leads
  obtain ⟨located, written⟩ := memory_write_eq_ok written
  exact FileTree.locate_congr (fun other => (FileTree.isDirectory_write written other).2) located

theorem locate_of_writeAll (formats : (memoryView base).Formats formatter outcome)
    (valid : first.machine.Valid)
    (leads : (writeAll (memory base) formatter root files stats).Leads first (.ok after) last)
    (member : file ∈ files) (nonempty : file.isEmpty = false) :
    last.machine.locate base (joinPath root file.path) =
      .ok (FileTree.place base (joinPath root file.path)) := by
  induction files generalizing first stats with
  | nil => nomatch member
  | cons head files ih =>
    rw [writeAll, Action.leads_bind_ok] at leads
    obtain ⟨between, next, writing, rest⟩ := leads
    obtain ⟨-, kept⟩ := Materialize.Written.writeFile formats valid writing
    rcases List.mem_cons.1 member with rfl | member
    · have written := Materialize.Written.writeAll formats kept rest
      exact FileTree.locate_congr (fun place found => (written.directories place).2 (.inl found))
        (locate_of_writeFile formats valid nonempty writing)
    · exact ih kept rest member

/-- A run that gets past all files leaves behind what it has written: each file is read back as the
formatter has left it, if no later one belongs in its place and no device is there. -/
theorem read_of_writeAll (formats : (memoryView base).Formats formatter outcome)
    (valid : first.machine.Valid) {earlier later : List SourceFile}
    (leads : (writeAll (memory base) formatter root (earlier ++ file :: later) stats).Leads first
      (.ok after) last)
    (nonempty : file.isEmpty = false)
    (held : FileTree.place base (joinPath root file.path) ∉ FileTree.devices)
    (final : ∀ other ∈ later, other.isEmpty = false →
      FileTree.place base (joinPath root other.path) ≠
        FileTree.place base (joinPath root file.path)) :
    (memory base).read (joinPath root file.path) last.machine =
      .ok (writtenText outcome file.render) := by
  have here : (memoryView base).place (joinPath root file.path) =
      some (FileTree.place base (joinPath root file.path)) := if_neg held
  have stays : Materialize.lastWritten (memoryView base) root (earlier ++ file :: later)
      (FileTree.place base (joinPath root file.path)) = some file :=
    Materialize.lastWritten_eq nonempty here fun other member filled same =>
      final other member filled (FileTree.place_eq_of_place? same)
  refine read_of_textAt? (locate_of_writeAll formats valid leads (by simp) nonempty) ?_
  have content := (Materialize.Written.writeAll formats valid leads).content
  rw [show last.machine.textAt? = _ from content, Materialize.contentAfter, stays]

end Runs

end Workspace

end Bindings
