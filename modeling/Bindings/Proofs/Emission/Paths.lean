import Bindings.Emission.Output
import Bindings.Proofs.Go.Declarations
import Bindings.Proofs.Text.Pieces
import Bindings.Proofs.Unicode.Letters

/-! Paths as places below the working directory.

Texts that differ may lead to one place: separators may be repeated, and a point leads nowhere. So
paths are compared by what they lead through.
-/

set_option autoImplicit false

namespace Bindings

/-- Whether a path starts at the root, and the names that it leads through. -/
structure Place where
  absolute : Bool
  names : List (List Char)
  deriving DecidableEq

def place (path : String) : Place where
  absolute := path.startsWith "/"
  names := (Text.fields (· == '/') path.toList).filter (· ≠ ['.'])

def Place.below (base : Place) (name : String) : Place :=
  ⟨base.absolute, base.names ++ [name.toList]⟩

theorem Place.below_inj {base other : Place} {name last : String} :
    base.below name = other.below last ↔ base = other ∧ name = last := by
  constructor
  · intro same
    obtain ⟨absolute, names⟩ := Place.mk.inj same
    obtain ⟨names, ends⟩ := List.append_inj' names rfl
    refine ⟨?_, String.toList_inj.1 (List.singleton_inj.1 ends)⟩
    cases base
    cases other
    exact congrArg₂ Place.mk absolute names
  · rintro ⟨rfl, rfl⟩
    rfl

theorem names_place_append (base name : String) :
    (place (base ++ "/" ++ name)).names = (place base).names ++ (place name).names := by
  have spelled : (base ++ "/" ++ name).toList = base.toList ++ '/' :: name.toList := by simp
  rw [place, place, place, spelled, Text.fields_append_cons (by decide), List.filter_append]

theorem absolute_place_append {base : String} (given : base ≠ "") (name : String) :
    (place (base ++ name)).absolute = (place base).absolute := by
  obtain ⟨c, rest, spelled⟩ : ∃ c rest, base.toList = c :: rest := by
    cases spelled : base.toList with
    | nil => exact absurd (String.toList_eq_nil_iff.1 spelled) given
    | cons c rest => exact ⟨c, rest, rfl⟩
  rw [place, place, Bool.eq_iff_iff, String.startsWith_string_iff, String.startsWith_string_iff,
    String.toList_append, spelled]
  simp

namespace Emission

theorem exists_of_endsWith {text : String} (ends : text.endsWith "/" = true) :
    ∃ start, text = start ++ "/" := by
  rw [String.endsWith_eq_endsWith_toSlice, String.Slice.endsWith_string_iff] at ends
  obtain ⟨start, spelled⟩ := ends
  refine ⟨.ofList start, String.toList_inj.1 ?_⟩
  simpa using spelled.symm

/-- A path joined to a name of its own leads below the place of the path. -/
theorem place_joinPath {base name : String} (given : base ≠ "")
    (single : place name = ⟨false, [name.toList]⟩) :
    place (joinPath base name) = (place base).below name := by
  have relative : name.startsWith "/" = false := congrArg Place.absolute single
  have present : base.isEmpty = false := by simpa using given
  rw [joinPath, relative, present, Bool.or_false, if_neg Bool.false_ne_true, Place.below]
  have step : (place name).names = [name.toList] := congrArg Place.names single
  split
  · next ends =>
    obtain ⟨start, rfl⟩ := exists_of_endsWith ends
    have whole : (place (start ++ "/")).names = (place start).names := by
      have nothing := names_place_append start ""
      rwa [String.append_empty, show (place "").names = [] from rfl, List.append_nil] at nothing
    rw [← absolute_place_append given name, whole, ← step, ← names_place_append]
  · rw [String.append_assoc, ← absolute_place_append given ("/" ++ name), ← step,
      ← String.append_assoc, ← names_place_append]

end Emission

/-- A text without separators is the name that it leads to, unless it leads nowhere. -/
theorem names_place_of_notMem {name : String} (plain : '/' ∉ name.toList) :
    (place name).names = if name = "" ∨ name = "." then [] else [name.toList] := by
  have uncut : ∀ c ∈ name.toList, (c == '/') = false :=
    fun c member => beq_false_of_ne fun same => plain (same ▸ member)
  rw [place, Text.fields_of_forall uncut]
  by_cases empty : name = ""
  · subst empty
    rfl
  · have given : name.toList ≠ [] := fun nothing => empty (String.toList_eq_nil_iff.1 nothing)
    have point : name.toList = ['.'] ↔ name = "." := by
      rw [← String.toList_inj]
      rfl
    by_cases nowhere : name = "." <;> simp [empty, given, nowhere, point]

def Domain.folder (domain : Domain) : Place := place (Emission.joinPath "protocol" domain.package)

section Folders
variable {domain other : Domain}

theorem separator_notMem_package (plain : '/' ∉ domain.name.toList) :
    '/' ∉ domain.package.toList := by
  intro inside
  rw [Domain.package, Name.package, String.toList_ofList, Unicode.asciiLowercase] at inside
  obtain ⟨c, member, same⟩ := List.mem_map.1 inside
  exact plain (Unicode.eq_of_toLower_eq (by decide) same ▸ member)

theorem folder_names (plain : '/' ∉ domain.name.toList) :
    domain.folder.names = "protocol".toList ::
      if domain.package = "" ∨ domain.package = "." then [] else [domain.package.toList] := by
  have separated := separator_notMem_package plain
  have relative : domain.package.startsWith "/" = false := by
    rw [← Bool.not_eq_true, String.startsWith_string_iff]
    exact fun begins => separated (begins.subset List.mem_cons_self)
  have joined : Emission.joinPath "protocol" domain.package =
      "protocol" ++ "/" ++ domain.package := by
    rw [Emission.joinPath, relative, if_neg (by decide +kernel), if_neg (by decide +kernel)]
  rw [Domain.folder, joined, names_place_append, names_place_of_notMem separated]
  rfl

/-- Where a package adds nothing to the directory of all packages, its domain has no identifier. -/
theorem ident_of_package (nowhere : domain.package = "" ∨ domain.package = ".") :
    domain.ident = "" := by
  have spelled : domain.package.toList = domain.name.toList.map Char.toLower := by
    rw [Domain.package, Name.package, String.toList_ofList, Unicode.asciiLowercase]
  rw [Domain.ident]
  rcases nowhere with empty | point
  · have nothing : domain.name = "" := by simpa [empty] using spelled.symm
    rw [nothing]
    decide
  · rw [point] at spelled
    obtain ⟨c, only, same⟩ := List.map_eq_singleton_iff.1 spelled.symm
    obtain rfl := Unicode.eq_of_toLower_eq (by decide) same
    have single : domain.name = "." := String.toList_inj.1 only
    rw [single]
    decide

/-- Domains whose names have no separators share a directory only if they share a package, or if both
have no identifier. -/
theorem package_eq_of_folder (plain : '/' ∉ domain.name.toList) (also : '/' ∉ other.name.toList)
    (same : domain.folder = other.folder) :
    domain.package = other.package ∨ domain.ident = other.ident := by
  have names := congrArg Place.names same
  rw [folder_names plain, folder_names also, List.cons_inj_right] at names
  by_cases left : domain.package = "" ∨ domain.package = "."
  · by_cases right : other.package = "" ∨ other.package = "."
    · exact .inr ((ident_of_package left).trans (ident_of_package right).symm)
    · rw [if_pos left, if_neg right] at names
      cases names
  · by_cases right : other.package = "" ∨ other.package = "."
    · rw [if_neg left, if_pos right] at names
      cases names
    · rw [if_neg left, if_neg right] at names
      exact .inl (String.toList_inj.1 (List.singleton_inj.1 names))

end Folders

end Bindings
