import Bindings.Workspace.FileTree

/-! What the operations on a file tree change.

A path is followed by its names alone, whatever the tree holds; the tree only decides whether the
way is open. Nothing is ever taken away: writing replaces one file or adds it, and creating directories
adds those that are missing on the way.
-/

set_option autoImplicit false

namespace Bindings.Workspace

open Text (Bytes)

def Entry.isDevice : Entry → Bool
  | .sink | .opened _ => true
  | .directory | .file _ _ | .utility _ => false

def Entry.isFile : Entry → Bool
  | .file _ _ => true
  | .directory | .utility _ | .sink | .opened _ => false

namespace FileTree

variable {tree next : FileTree} {base path : Path} {text name : String} {names : List String}
  {content : Bytes}

theorem get?_nil (tree : FileTree) : tree.get? [] = some .directory := rfl

theorem get?_put (tree : FileTree) (entry : Entry) (given : path ≠ []) (other : Path) :
    (tree.put path entry).get? other = if other = path then some entry else tree.get? other := by
  by_cases same : other = path
  · subst same
    rw [if_pos rfl, get?_put_self tree entry given]
  · rw [if_neg same, get?_put_of_ne tree entry same]

section Walking

def enter (base : Path) (name : String) : Path :=
  if name = "" || name = "." then base
  else if name = ".." then base.dropLast
  else base ++ [name]

def walk : Path → List String → List Path
  | _, [] => []
  | base, name :: names => enter base name :: walk (enter base name) names

def place (base : Path) (text : String) : Path :=
  (parts base text).2.foldl enter (parts base text).1

theorem step_eq_ok (h : tree.step base name = .ok path) :
    tree.get? base = some .directory ∧ path = enter base name := by
  rw [step] at h
  split at h
  · cases h
  · next found =>
    refine ⟨found, ?_⟩
    rw [enter]
    split at h
    · next stays => rw [if_pos stays, Except.ok.inj h]
    · next goes =>
      rw [if_neg goes]
      split at h
      · next up => rw [if_pos up, Except.ok.inj h]
      · next down =>
        rw [if_neg down]
        split at h
        · cases h
        · exact (Except.ok.inj h).symm
  · cases h

/-- A way that is open in one tree is open in another with the same directories. -/
theorem step_congr (same : tree.get? base = some .directory → next.get? base = some .directory)
    (h : tree.step base name = .ok path) : next.step base name = .ok path := by
  obtain ⟨directory, -⟩ := step_eq_ok h
  rw [step, directory] at h
  rw [step, same directory]
  exact h

theorem foldlM_step_eq_ok (h : names.foldlM tree.step base = .ok path) :
    path = names.foldl enter base := by
  induction names generalizing base with
  | nil => exact (Except.ok.inj h).symm
  | cons name names ih =>
    rw [List.foldlM_cons] at h
    cases first : tree.step base name with
    | error refusal => rw [first] at h; cases h
    | ok between =>
      rw [first] at h
      rw [List.foldl_cons, ← (step_eq_ok first).2]
      exact ih h

theorem foldlM_step_congr
    (same : ∀ place, tree.get? place = some .directory → next.get? place = some .directory)
    (h : names.foldlM tree.step base = .ok path) : names.foldlM next.step base = .ok path := by
  induction names generalizing base with
  | nil => exact h
  | cons name names ih =>
    rw [List.foldlM_cons] at h ⊢
    cases first : tree.step base name with
    | error refusal => rw [first] at h; cases h
    | ok between =>
      rw [first] at h
      rw [step_congr (same base) first]
      exact ih h

theorem locate_eq_ok_iff : tree.locate base text = .ok path ↔
    checkPath text = .ok () ∧ text ≠ "" ∧
      (parts base text).2.foldlM tree.step (parts base text).1 = .ok path := by
  rw [locate]
  cases checkPath text with
  | error refusal => simp [bind, Except.bind]
  | ok _ =>
    by_cases empty : text = ""
    · simp [empty, bind, Except.bind]
    · simp [empty, bind, Except.bind]

/-- A text leads to one place only, if it leads anywhere. -/
theorem eq_place_of_locate (h : tree.locate base text = .ok path) : path = place base text :=
  foldlM_step_eq_ok (locate_eq_ok_iff.1 h).2.2

theorem locate_congr
    (same : ∀ place, tree.get? place = some .directory → next.get? place = some .directory)
    (h : tree.locate base text = .ok path) : next.locate base text = .ok path := by
  obtain ⟨fits, given, open_⟩ := locate_eq_ok_iff.1 h
  exact locate_eq_ok_iff.2 ⟨fits, given, foldlM_step_congr same open_⟩

end Walking

section Operations

/-- Writing replaces a file, adds one where there is nothing, or leaves all to a device. -/
theorem write_eq_ok (h : tree.write path content = .ok next) :
    (∃ executable, next = tree.put path (.file content executable) ∧ path ≠ [] ∧
        ∀ entry, tree.get? path = some entry → entry.isFile = true) ∨
      next = tree ∧ ∃ entry, tree.get? path = some entry ∧ entry.isDevice = true := by
  have top (other : tree.get? path ≠ some .directory) : path ≠ [] := by
    rintro rfl
    exact other (get?_nil tree)
  rw [write] at h
  cases found : tree.get? path with
  | none =>
    rw [found] at h
    exact .inl ⟨false, (Except.ok.inj h).symm, top (by simp [found]), by simp⟩
  | some entry =>
    rw [found] at h
    cases entry with
    | directory | utility => cases h
    | file old executable =>
      exact .inl ⟨executable, (Except.ok.inj h).symm, top (by simp [found]), by simp [Entry.isFile]⟩
    | sink | opened => exact .inr ⟨(Except.ok.inj h).symm, _, rfl, rfl⟩

/-- Creating directories adds those on the way that are missing; then all on the way are there. -/
theorem create_eq_ok (h : tree.create base names = .ok next) :
    (∀ path, next.get? path =
        if tree.get? path = none ∧ path ∈ walk base names then some .directory
        else tree.get? path) ∧
      ∀ path ∈ walk base names, next.get? path = some .directory := by
  induction names generalizing tree base with
  | nil =>
    obtain rfl := Except.ok.inj h
    exact ⟨fun path => by simp [walk], fun _ member => nomatch member⟩
  | cons name names ih =>
    rw [create] at h
    cases first : tree.step base name with
    | error refusal => rw [first] at h; cases h
    | ok between =>
      obtain rfl := (step_eq_ok first).2
      rw [first] at h
      simp only [bind, Except.bind] at h
      split at h
      · next missing =>
        have given : enter base name ≠ [] := by
          intro top
          rw [top, get?_nil] at missing
          cases missing
        obtain ⟨all, there⟩ := ih h
        simp only [get?_put tree _ given] at all
        have head : next.get? (enter base name) = some .directory := by
          rw [all, if_neg (by simp), if_pos rfl]
        refine ⟨fun path => ?_, fun path member => ?_⟩
        · by_cases same : path = enter base name
          · subst same
            rw [head, if_pos ⟨missing, List.mem_cons_self⟩]
          · rw [all]
            simp [walk, same]
        · rcases List.mem_cons.1 member with rfl | member
          · exact head
          · exact there path member
      · next found =>
        obtain ⟨all, there⟩ := ih h
        have head : next.get? (enter base name) = some .directory := by
          rw [all, if_neg (by simp [found]), found]
        refine ⟨fun path => ?_, fun path member => ?_⟩
        · by_cases same : path = enter base name
          · subst same
            rw [head, if_neg (by simp [found]), found]
          · rw [all]
            simp [walk, same]
        · rcases List.mem_cons.1 member with rfl | member
          · exact head
          · exact there path member
      · cases h

def above (base : Path) (text : String) : List Path :=
  if text = "" then [] else walk (parts base text).1 (parts base text).2

theorem createDirectories_eq_ok (h : tree.createDirectories base text = .ok next) :
    (∀ path, next.get? path =
        if tree.get? path = none ∧ path ∈ above base text then some .directory
        else tree.get? path) ∧
      ∀ path ∈ above base text, next.get? path = some .directory := by
  rw [createDirectories] at h
  cases fits : checkPath text with
  | error refusal => rw [fits] at h; cases h
  | ok _ =>
    rw [fits] at h
    by_cases empty : text = ""
    · obtain rfl : tree = next := by simpa [empty, bind, Except.bind] using h
      simp [above, empty]
    · simp only [above, if_neg empty]
      exact create_eq_ok (by simpa [empty, bind, Except.bind] using h)

end Operations

section Validity

def devices : List Path := (standard.entries.filter (·.2.isDevice)).map (·.1)

/-- What is always there is there, and no device is anywhere else. -/
structure Valid (tree : FileTree) : Prop where
  present : ∀ item ∈ standard.entries, tree.get? item.1 = some item.2
  placed : ∀ {path : Path} {entry : Entry}, tree.get? path = some entry → entry.isDevice = true →
    path ∈ devices

theorem isFile_standard : ∀ item ∈ standard.entries, item.2.isFile = false := by decide

theorem get?_standard : ∀ item ∈ standard.entries, standard.get? item.1 = some item.2 := by
  decide

theorem valid_standard : standard.Valid where
  present := get?_standard
  placed {path entry} found device := by
    have listed : (path, entry) ∈ standard.entries := by
      rw [get?] at found
      split at found
      · obtain rfl := Option.some.inj found
        cases device
      · obtain ⟨before, after, split, -⟩ := List.lookup_eq_some_iff.1 found
        rw [split]
        simp
    exact List.mem_map_of_mem (f := Prod.fst) (List.mem_filter.2 ⟨listed, device⟩)

/-- Whatever is put elsewhere and is no device leaves a tree valid. -/
theorem Valid.put (valid : tree.Valid) {entry : Entry} (plain : entry.isDevice = false)
    (elsewhere : ∀ item ∈ standard.entries, item.1 ≠ path) : (tree.put path entry).Valid where
  present item member := by
    rw [get?_put_of_ne tree entry (elsewhere item member), valid.present item member]
  placed {other found} at_ device := by
    by_cases top : other = []
    · rw [top, get?_nil] at at_
      obtain rfl := Option.some.inj at_
      cases device
    · by_cases same : other = path
      · subst same
        rw [get?_put_self tree entry top] at at_
        obtain rfl := Option.some.inj at_
        rw [plain] at device
        cases device
      · rw [get?_put_of_ne tree entry same] at at_
        exact valid.placed at_ device

theorem Valid.notMem_devices (valid : tree.Valid)
    (free : ∀ entry, tree.get? path = some entry → entry.isDevice = false) : path ∉ devices := by
  intro device
  obtain ⟨item, member, rfl⟩ := List.mem_map.1 device
  obtain ⟨listed, isDevice⟩ := List.mem_filter.1 member
  rw [free _ (valid.present item listed)] at isDevice
  cases isDevice

theorem Valid.write (valid : tree.Valid) (h : tree.write path content = .ok next) :
    next.Valid := by
  obtain ⟨executable, rfl, given, file⟩ | ⟨rfl, -⟩ := write_eq_ok h
  · refine valid.put rfl ?_
    rintro item member rfl
    have clash := file _ (valid.present item member)
    rw [isFile_standard item member] at clash
    cases clash
  · exact valid

theorem Valid.of_created (valid : tree.Valid) {added : List Path}
    (all : ∀ path, next.get? path =
      if tree.get? path = none ∧ path ∈ added then some .directory else tree.get? path) :
    next.Valid where
  present item member := by
    have there := valid.present item member
    rw [all, if_neg (by simp [there]), there]
  placed {path entry} found device := by
    rw [all] at found
    split at found
    · obtain rfl := Option.some.inj found
      cases device
    · exact valid.placed found device

theorem Valid.createDirectories (valid : tree.Valid)
    (h : tree.createDirectories base text = .ok next) : next.Valid :=
  valid.of_created (createDirectories_eq_ok h).1

end Validity

end FileTree

end Bindings.Workspace
