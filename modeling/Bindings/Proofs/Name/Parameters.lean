import Bindings.Proofs.Name.Segments
import Bindings.Proofs.Name.Separators

/-! When two fields have one parameter name.

A parameter name is the identifier of its field with the first word in small letters, and a suffix
where that is reserved. So different identifiers may lead to one parameter name in two ways.
-/

set_option autoImplicit false

namespace Bindings

def Go.keywords : List String :=
  ["break", "case", "chan", "const", "continue", "default", "defer", "else", "fallthrough", "for",
    "func", "go", "goto", "if", "import", "interface", "map", "package", "range", "return", "select",
    "struct", "switch", "type", "var"]

namespace Name

open Unicode

def suffix : List Char := "Val".toList

/-- Identifiers that lead to one parameter name: what is left of them without the capitals of the
first word is the same, or is the same but for the suffix of a reserved name. -/
inductive Clash (first second : List Char) : Prop
  | same (h : unexportedChars first = unexportedChars second)
  | left (taken : unexportedChars first ∈ reserved)
      (h : unexportedChars second = unexportedChars first ++ suffix)
  | right (taken : unexportedChars second ∈ reserved)
      (h : unexportedChars first = unexportedChars second ++ suffix)

theorem suffixed_notMem_reserved : ∀ name ∈ reserved, name ++ suffix ∉ reserved := by
  decide

theorem keywords_subset_reserved :
    ∀ name ∈ "args" :: Go.keywords, name.toList ∈ reserved := by
  decide

section
variable {raw other : List Char}

theorem parameterChars_of_mem (taken : unexportedChars (exportedChars raw) ∈ reserved) :
    parameterChars raw = unexportedChars (exportedChars raw) ++ suffix := by
  rw [parameterChars, if_pos (by simpa using taken)]
  rfl

theorem parameterChars_of_notMem (free : unexportedChars (exportedChars raw) ∉ reserved) :
    parameterChars raw = unexportedChars (exportedChars raw) := by
  rw [parameterChars, if_neg (by simpa using free)]

theorem parameterChars_notMem_reserved : parameterChars raw ∉ reserved := by
  by_cases taken : unexportedChars (exportedChars raw) ∈ reserved
  · rw [parameterChars_of_mem taken]
    exact suffixed_notMem_reserved _ taken
  · rwa [parameterChars_of_notMem taken]

theorem parameterChars_eq_iff :
    parameterChars raw = parameterChars other ↔
      Clash (exportedChars raw) (exportedChars other) := by
  constructor
  · intro same
    by_cases left : unexportedChars (exportedChars raw) ∈ reserved
    · by_cases right : unexportedChars (exportedChars other) ∈ reserved
      · rw [parameterChars_of_mem left, parameterChars_of_mem right] at same
        exact .same (List.append_cancel_right same)
      · rw [parameterChars_of_mem left, parameterChars_of_notMem right] at same
        exact .left left same.symm
    · by_cases right : unexportedChars (exportedChars other) ∈ reserved
      · rw [parameterChars_of_notMem left, parameterChars_of_mem right] at same
        exact .right right same
      · rw [parameterChars_of_notMem left, parameterChars_of_notMem right] at same
        exact .same same
  · -- A name with the suffix is not reserved, so that it gets no second one.
    rintro (same | ⟨taken, suffixed⟩ | ⟨taken, suffixed⟩)
    · simp only [parameterChars, same]
    · have free := suffixed ▸ suffixed_notMem_reserved _ taken
      rw [parameterChars_of_mem taken, parameterChars_of_notMem free, suffixed]
    · have free := suffixed ▸ suffixed_notMem_reserved _ taken
      rw [parameterChars_of_mem taken, parameterChars_of_notMem free, suffixed]

end

theorem parameter_eq_iff {raw other : String} :
    parameter raw = parameter other ↔ Clash (exported raw).toList (exported other).toList := by
  rw [parameter, parameter, String.ofList_inj, parameterChars_eq_iff, exported, exported,
    String.toList_ofList, String.toList_ofList]

theorem parameter_ne_keyword {raw name : String} (keyword : name ∈ "args" :: Go.keywords) :
    parameter raw ≠ name := by
  rintro rfl
  have taken := keywords_subset_reserved _ keyword
  rw [parameter, String.toList_ofList] at taken
  exact parameterChars_notMem_reserved taken

section
variable {ident other : List Char} {size : Nat}

theorem flatten_words (solid : Solid ident) : (words ident).flatten = ident := by
  rw [words_of_solid solid, flatten_segment]

theorem exists_of_longestInitialism? (found : longestInitialism? ident = some size) :
    ∃ initialism ∈ initialisms, initialism <+: ident ∧ initialism.length = size := by
  obtain ⟨initialism, kept, same⟩ := List.mem_map.1 (List.max?_mem found)
  obtain ⟨known, begins⟩ := List.mem_filter.1 kept
  exact ⟨initialism, known, List.isPrefixOf_iff_prefix.1 begins, same⟩

theorem length_initialisms : ∀ initialism ∈ initialisms, initialism.length ≠ 0 := by
  decide

/-- A leading initialism is not empty, and lies in the identifier with the letter of its plural. -/
theorem leadingInitialism?_bounds (found : leadingInitialism? ident = some size) :
    size ≠ 0 ∧ size ≤ ident.length := by
  obtain ⟨short, longest, ends⟩ := Option.bind_eq_some_iff.1 found
  obtain ⟨initialism, known, begins, rfl⟩ := exists_of_longestInitialism? longest
  have given := length_initialisms initialism known
  have inside := begins.length_le
  obtain ⟨-, same⟩ := Option.ite_none_right_eq_some.1 ends
  have either : size = initialism.length ∨
      size = initialism.length + 1 ∧ initialism.length < ident.length := by
    rw [← Option.some.inj same]
    split
    · next rest plural =>
      split
      · have longer := congrArg List.length plural
        rw [List.length_drop, List.length_cons] at longer
        exact .inr ⟨rfl, by omega⟩
      · exact .inl rfl
    · exact .inl rfl
  omega

/-- An identifier is unexported by putting some of its first characters in small letters. -/
theorem exists_unexportedChars (solid : Solid ident) : ∃ count, count ≤ ident.length ∧
    (ident ≠ [] → count ≠ 0) ∧
    unexportedChars ident = lowercase (ident.take count) ++ ident.drop count := by
  rw [unexportedChars]
  split
  · next size found =>
    obtain ⟨given, inside⟩ := leadingInitialism?_bounds found
    exact ⟨size, inside, fun _ => given, rfl⟩
  · have whole := flatten_words solid
    split
    · next nothing =>
      rw [nothing] at whole
      exact ⟨0, Nat.zero_le _, fun other => absurd whole.symm other, by rw [← whole]; rfl⟩
    · next first others cut =>
      have given : first ≠ [] := by
        have member : first ∈ words ident := cut ▸ List.mem_cons_self
        rw [words_of_solid solid] at member
        exact ne_nil_of_mem_segment member
      rw [cut, List.flatten_cons] at whole
      refine ⟨first.length, ?_, fun _ => by simpa using given, ?_⟩
      · rw [← whole, List.length_append]
        exact Nat.le_add_right _ _
      · rw [← whole, List.take_left, List.drop_left]

/-- Without its capitals an identifier is what its parameter name is without capitals. -/
theorem asciiLowercase_unexportedChars (ascii : AsciiText ident) (solid : Solid ident) :
    asciiLowercase (unexportedChars ident) = asciiLowercase ident := by
  obtain ⟨count, -, -, same⟩ := exists_unexportedChars solid
  have halves := asciiLowercase_lowercase (ascii.subset (List.take_subset count ident))
  simp only [asciiLowercase, same, List.map_append] at halves ⊢
  rw [halves, ← List.map_append, List.take_append_drop]

/-- ASCII identifiers clash only if they differ in case alone, or in the suffix as well. -/
theorem Clash.asciiLowercase_eq (clash : Clash ident other) (left : AsciiText ident)
    (right : AsciiText other) (solid : Solid ident) (also : Solid other) :
    asciiLowercase ident = asciiLowercase other ∨
      asciiLowercase other = asciiLowercase ident ++ "val".toList ∨
      asciiLowercase ident = asciiLowercase other ++ "val".toList := by
  rw [← asciiLowercase_unexportedChars left solid, ← asciiLowercase_unexportedChars right also]
  have small : asciiLowercase suffix = "val".toList := by decide
  rcases clash with same | ⟨-, suffixed⟩ | ⟨-, suffixed⟩
  · exact .inl (congrArg asciiLowercase same)
  · rw [suffixed, ← small]
    exact .inr (.inl List.map_append)
  · rw [suffixed, ← small]
    exact .inr (.inr List.map_append)

end

end Name

end Bindings
