import Bindings.Proofs.Name.Idempotence
import Bindings.Proofs.Name.Letters

/-! Parameter names as identifiers.

The name of a parameter begins with a small letter and is otherwise the identifier of its field with some
of the first characters in small letters, or that with a suffix where the name is not to be had.
-/

set_option autoImplicit false

namespace Bindings.Name

open Unicode

def unavailable : List String := "a" :: "args" :: "new" :: Go.keywords

theorem mem_reserved_iff {text : List Char} :
    text ∈ reserved ↔ String.ofList text ∈ unavailable := by
  have same : reserved.Perm (unavailable.map String.toList) := by decide
  rw [same.mem_iff, List.mem_map]
  constructor
  · rintro ⟨name, member, rfl⟩
    rwa [String.ofList_toList]
  · exact fun member => ⟨_, member, String.toList_ofList⟩

section
variable {ident raw : List Char} {c : Char}

/-- Small letters at the front make an identifier begin with one. -/
theorem head?_lowercase_append {count : Nat} (alnum : AlnumText (c :: ident)) (given : count ≠ 0) :
    (lowercase ((c :: ident).take count) ++ (c :: ident).drop count).head? = some c.toLower := by
  obtain ⟨less, rfl⟩ := Nat.exists_eq_succ_of_ne_zero given
  have front : AlnumText ((c :: ident).take (less + 1)) := alnum.subset (List.take_subset _ _)
  rw [lowercase_of_ascii front.ascii, List.take_succ_cons, List.map_cons, List.cons_append,
    List.head?_cons]

/-- A name that begins with a letter is exported to an identifier that does. -/
theorem exists_exportedChars_eq_cons
    (plain : ∀ c ∈ raw, c.isAlphanum = true ∨ isSeparator c = true)
    (first : ∃ c ∈ (raw.filter fun c => !isSeparator c).head?, c.isAlpha = true) :
    ∃ c ident, exportedChars raw = c :: ident ∧ c.isAlpha = true := by
  have raises := raises_exportedChars plain
  rw [flatten_words_eq_filter] at raises
  obtain ⟨c, member, letter⟩ := first
  obtain ⟨rest, split⟩ : ∃ rest, (raw.filter fun c => !isSeparator c) = c :: rest :=
    List.head?_eq_some_iff.1 member
  rw [split] at raises
  cases exported : exportedChars raw with
  | nil =>
    rw [exported] at raises
    cases raises
  | cons d ident =>
    rw [exported] at raises
    obtain ⟨same, -⟩ := List.forall₂_cons.1 raises
    refine ⟨d, ident, rfl, ?_⟩
    rcases same with rfl | rfl
    · exact letter
    · rwa [Char.isAlpha_toUpper_eq_isAlpha]

theorem parameterChars_cases (raw : List Char) :
    unexportedChars (exportedChars raw) ∈ reserved ∧
        parameterChars raw = unexportedChars (exportedChars raw) ++ suffix ∨
      unexportedChars (exportedChars raw) ∉ reserved ∧
        parameterChars raw = unexportedChars (exportedChars raw) := by
  by_cases taken : unexportedChars (exportedChars raw) ∈ reserved
  · exact .inl ⟨taken, parameterChars_of_mem taken⟩
  · exact .inr ⟨taken, parameterChars_of_notMem taken⟩

theorem alnum_suffix : AlnumText suffix := by
  decide

theorem alnum_unexportedChars (solid : Solid ident) (alnum : AlnumText ident) :
    AlnumText (unexportedChars ident) := by
  obtain ⟨count, -, -, same⟩ := exists_unexportedChars solid
  rw [same]
  exact alnumText_append.2 ⟨(alnum.subset (List.take_subset count ident)).lowercase,
    alnum.subset (List.drop_subset count ident)⟩

theorem head?_unexportedChars (solid : Solid (c :: ident)) (alnum : AlnumText (c :: ident)) :
    (unexportedChars (c :: ident)).head? = some c.toLower := by
  obtain ⟨count, -, given, same⟩ := exists_unexportedChars solid
  rw [same, head?_lowercase_append alnum (given (List.cons_ne_nil _ _))]

theorem alnum_parameterChars (plain : ∀ c ∈ raw, c.isAlphanum = true ∨ isSeparator c = true) :
    AlnumText (parameterChars raw) := by
  have word := alnum_unexportedChars (solid_exportedChars raw) (alnum_exportedChars plain)
  rcases parameterChars_cases raw with ⟨-, same⟩ | ⟨-, same⟩
  · rw [same]
    exact alnumText_append.2 ⟨word, alnum_suffix⟩
  · rwa [same]

theorem head?_parameterChars (plain : ∀ c ∈ raw, c.isAlphanum = true ∨ isSeparator c = true)
    (begins : exportedChars raw = c :: ident) : (parameterChars raw).head? = some c.toLower := by
  have head : (unexportedChars (exportedChars raw)).head? = some c.toLower := by
    have solid := solid_exportedChars raw
    have alnum := alnum_exportedChars plain
    rw [begins] at solid alnum ⊢
    exact head?_unexportedChars solid alnum
  -- The suffix is not what the name begins with.
  rcases parameterChars_cases raw with ⟨-, same⟩ | ⟨-, same⟩
  · rw [same, List.head?_append, head]
    rfl
  · rw [same, head]

end

/-- The parameter name of a name of letters and digits, a letter first, is an identifier with a small
letter first, and can be had. It is the identifier of the field with some of the first characters in small
letters, and a suffix only where that could not be had. -/
theorem parameter_unexported {raw : String}
    (plain : ∀ c ∈ raw.toList, c.isAlphanum = true ∨ isSeparator c = true)
    (first : ∃ c ∈ (raw.toList.filter fun c => !isSeparator c).head?, c.isAlpha = true) :
    (∃ c ∈ (parameter raw).toList.head?, c.isLower = true) ∧
      (∀ c ∈ (parameter raw).toList, c.isAlphanum = true) ∧
      parameter raw ∉ unavailable ∧
      ∃ count name, count ≠ 0 ∧ count ≤ (exported raw).toList.length ∧
        String.toList name = lowercase ((exported raw).toList.take count) ++
          (exported raw).toList.drop count ∧
        parameter raw = if name ∈ unavailable then name ++ "Val" else name := by
  obtain ⟨c, ident, begins, letter⟩ := exists_exportedChars_eq_cons plain first
  have spelled : (exported raw).toList = exportedChars raw.toList := String.toList_ofList
  have named : (parameter raw).toList = parameterChars raw.toList := String.toList_ofList
  rw [named, spelled]
  refine ⟨⟨c.toLower, head?_parameterChars plain begins, ?_⟩, alnum_parameterChars plain, ?_, ?_⟩
  · rw [Char.isLower_toLower_eq_isAlpha]
    exact letter
  · rw [parameter, ← mem_reserved_iff]
    exact parameterChars_notMem_reserved
  · obtain ⟨count, inside, given, same⟩ := exists_unexportedChars (solid_exportedChars raw.toList)
    refine ⟨count, .ofList (unexportedChars (exportedChars raw.toList)),
      given (by rw [begins]; exact List.cons_ne_nil _ _), inside, ?_, ?_⟩
    · rw [String.toList_ofList, same]
    · rw [← String.toList_inj, named]
      rcases parameterChars_cases raw.toList with ⟨taken, spells⟩ | ⟨free, spells⟩
      · rw [if_pos (mem_reserved_iff.1 taken), spells, String.toList_append, String.toList_ofList]
        rfl
      · rw [if_neg (mem_reserved_iff.not.1 free), spells, String.toList_ofList]

/-- The longer one of two initialisms at the front is put in small letters. -/
theorem parameter_unexported_https :
    (∀ c ∈ "https-url".toList, c.isAlphanum = true ∨ isSeparator c = true) ∧
      (∃ c ∈ ("https-url".toList.filter fun c => !isSeparator c).head?, c.isAlpha = true) ∧
      exported "https-url" = "HTTPSURL" ∧ parameter "https-url" = "httpsURL" ∧
      parameter "https-url" ∉ unavailable := by
  have plain : ∀ c ∈ "https-url".toList, c.isAlphanum = true ∨ isSeparator c = true := by decide
  have first : ∃ c ∈ ("https-url".toList.filter fun c => !isSeparator c).head?, c.isAlpha = true :=
    ⟨'h', by decide, by decide⟩
  obtain ⟨-, -, free, -⟩ := parameter_unexported plain first
  exact ⟨plain, first, by decide +kernel, by decide +kernel, free⟩

end Bindings.Name
