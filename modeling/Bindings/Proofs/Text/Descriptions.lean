import Bindings.Proofs.Text.Corrections
import Bindings.Proofs.Text.Unbroken

/-! Descriptions in normal form.

Cleaning a description brings it into a form that cleaning does not change. Each step makes one part of the
form, and keeps the parts that the steps before it have made.
-/

set_option autoImplicit false

namespace Bindings.Text

open Unicode (isBlank trim)

structure Tidy (line : List Char) : Prop where
  whole : '\n' ∉ line
  trimmed : Trimmed line
  spaced : Spaced line
  correct : Correct line

/-- Tidy lines, with single empty ones between paragraphs. -/
structure Paragraphs (lines : List (List Char)) : Prop where
  tidy : ∀ line ∈ lines, Tidy line
  first : ∀ line ∈ lines.head?, line ≠ []
  last : ∀ line ∈ lines.getLast?, line ≠ []
  apart : ¬[[], []] <:+: lines

def endings : List String := [".", "!", "?", ":", "```"]

def Closed (line : List Char) : Prop := ∃ ending ∈ endings, ending.toList <:+ line

structure Normal (lines : List (List Char)) : Prop extends Paragraphs lines where
  closed : ∀ line ∈ lines.getLast?, Closed line

def cleanLine (line : List Char) : List Char := correctChars (squeeze (trim line))

def closeLine (line : List Char) : List Char := if endsSentence line then line else line ++ ['.']

section Line
variable {line : List Char}

theorem tidy_cleanLine (whole : '\n' ∉ line) : Tidy (cleanLine line) where
  whole member := by
    have inside := (corrected_correctChars _).mem_of_other (by decide) member
    have plain : ∀ c ∈ line, c ≠ '\n' := fun c member same => whole (same ▸ member)
    exact forall_squeeze (by decide) (forall_trim plain) '\n' inside rfl
  trimmed := (corrected_correctChars _).trimmed (trimmed_trim line).squeeze
  spaced := (corrected_correctChars _).spaced (spaced_squeeze (trim line))
  correct := (corrected_correctChars _).correct

theorem Tidy.cleanLine_eq_self (tidy : Tidy line) : cleanLine line = line := by
  rw [cleanLine, trim_eq_self tidy.trimmed, squeeze_eq_self tidy.spaced,
    (corrected_correctChars line).eq_self tidy.correct]

theorem cleanLine_eq_nil_iff : cleanLine line = [] ↔ ∀ c ∈ line, isBlank c = true := by
  rw [cleanLine, (corrected_correctChars _).eq_nil_iff, squeeze_eq_nil_iff, trim_eq_nil_iff]

theorem tidy_nil : Tidy [] where
  whole := List.not_mem_nil
  trimmed := { first := (fun _ member => nomatch member), last := (fun _ member => nomatch member) }
  spaced := ⟨List.not_mem_nil, by decide⟩
  correct := correct_nil

theorem Tidy.append_period (tidy : Tidy line) : Tidy (line ++ ['.']) where
  whole := by simpa using tidy.whole
  trimmed :=
    { first := by
        cases line with
        | nil => decide
        | cons c line => exact tidy.trimmed.first
      last := by
        rw [List.getLast?_concat]
        decide }
  spaced :=
    { tabless := by simpa using tidy.spaced.tabless
      single := not_infix_pair_append (by decide) tidy.spaced.single }
  correct := (correct_append_cons_iff (by decide)).2 ⟨tidy.correct, correct_nil⟩

theorem endsSentence_iff : endsSentence line = true ↔ Closed line := by
  have single (c : Char) : (∃ d, line.getLast? = some d ∧ d = c) ↔ [c] <:+ line := by
    rw [List.singleton_suffix_iff_getLast?_eq_some]
    simp
  simp only [endsSentence, Closed, endings, Bool.or_eq_true, Option.any_eq_true, beq_iff_eq,
    List.isSuffixOf_iff_suffix, List.mem_cons, List.not_mem_nil, or_false, exists_eq_or_imp,
    exists_eq_left, and_or_left, exists_or, single, or_assoc]
  rfl

theorem closed_closeLine (line : List Char) : Closed (closeLine line) := by
  rw [closeLine]
  split
  · next ends => exact endsSentence_iff.1 ends
  · exact ⟨".", by decide, List.suffix_append line ['.']⟩

theorem closeLine_eq_self (closed : Closed line) : closeLine line = line :=
  if_pos (endsSentence_iff.2 closed)

theorem closeLine_ne_nil (given : line ≠ []) : closeLine line ≠ [] := by
  rw [closeLine]
  split
  · exact given
  · exact List.concat_ne_nil _ _

theorem Tidy.closeLine (tidy : Tidy line) : Tidy (closeLine line) := by
  rw [Text.closeLine]
  split
  · exact tidy
  · exact tidy.append_period

end Line

section Lines
variable {line : List Char} {lines rest : List (List Char)}

/-- An empty line is kept where a line follows that is not. -/
theorem joinBlankLines_cases (line : List Char) (rest : List (List Char)) :
    line ≠ [] ∧ joinBlankLines (line :: rest) = line :: joinBlankLines rest ∨
      line = [] ∧ (joinBlankLines rest = [] ∨ (joinBlankLines rest).head? = some []) ∧
        joinBlankLines (line :: rest) = joinBlankLines rest ∨
      line = [] ∧ joinBlankLines rest ≠ [] ∧ (joinBlankLines rest).head? ≠ some [] ∧
        joinBlankLines (line :: rest) = [] :: joinBlankLines rest := by
  rw [joinBlankLines]
  cases line with
  | cons c line => exact .inl ⟨List.cons_ne_nil _ _, rfl⟩
  | nil =>
    refine .inr ?_
    cases joined : joinBlankLines rest with
    | nil => exact .inl ⟨rfl, .inl rfl, rfl⟩
    | cons next lines =>
      cases next with
      | nil => exact .inl ⟨rfl, .inr rfl, rfl⟩
      | cons c next => exact .inr ⟨rfl, List.cons_ne_nil _ _, by simp, rfl⟩

theorem joinBlankLines_eq_nil_iff : joinBlankLines lines = [] ↔ ∀ line ∈ lines, line = [] := by
  induction lines with
  | nil => simp [joinBlankLines]
  | cons line rest ih =>
    rw [List.forall_mem_cons, ← ih]
    rcases joinBlankLines_cases line rest with ⟨given, same⟩ | ⟨empty, first, same⟩ | ⟨empty, given, -, same⟩
    · rw [same]
      simp [given]
    · rw [same]
      simp [empty]
    · rw [same]
      simp [given]

theorem head?_joinBlankLines (first : ∀ line ∈ lines.head?, line ≠ []) :
    (joinBlankLines lines).head? = lines.head? := by
  cases lines with
  | nil => rfl
  | cons line rest =>
    have given := first line rfl
    rcases joinBlankLines_cases line rest with ⟨-, same⟩ | ⟨empty, -⟩ | ⟨empty, -⟩
    · rw [same]
      rfl
    · exact absurd empty given
    · exact absurd empty given

theorem forall_getLast?_cons (single : rest = [] → line ≠ [])
    (later : ∀ line ∈ rest.getLast?, line ≠ []) : ∀ last ∈ (line :: rest).getLast?, last ≠ [] := by
  cases rest with
  | nil =>
    rintro _ ⟨⟩
    exact single rfl
  | cons next rest => rwa [List.getLast?_cons_cons]

theorem getLast?_joinBlankLines : ∀ line ∈ (joinBlankLines lines).getLast?, line ≠ [] := by
  induction lines with
  | nil => exact fun _ member => nomatch member
  | cons line rest ih =>
    rcases joinBlankLines_cases line rest with ⟨given, same⟩ | ⟨-, -, same⟩ | ⟨-, given, -, same⟩
    · rw [same]
      exact forall_getLast?_cons (fun _ => given) ih
    · rwa [same]
    · rw [same]
      exact forall_getLast?_cons (fun nothing => absurd nothing given) ih

theorem apart_joinBlankLines (lines : List (List Char)) : ¬[[], []] <:+: joinBlankLines lines := by
  induction lines with
  | nil => decide
  | cons line rest ih =>
    rcases joinBlankLines_cases line rest with ⟨given, same⟩ | ⟨-, -, same⟩ | ⟨-, -, other, same⟩
    · rw [same, infix_pair_cons_iff]
      exact not_or.2 ⟨fun pair => given pair.1, ih⟩
    · rwa [same]
    · rw [same, infix_pair_cons_iff]
      exact not_or.2 ⟨fun pair => other pair.2, ih⟩

theorem joinBlankLines_eq_self (last : ∀ line ∈ lines.getLast?, line ≠ [])
    (apart : ¬[[], []] <:+: lines) : joinBlankLines lines = lines := by
  induction lines with
  | nil => rfl
  | cons line rest ih =>
    obtain ⟨distinct, others⟩ := not_or.1 (infix_pair_cons_iff.not.1 apart)
    have later : joinBlankLines rest = rest := by
      refine ih ?_ others
      cases rest with
      | nil => exact fun _ member => nomatch member
      | cons next rest => rwa [List.getLast?_cons_cons] at last
    -- An empty line is dropped only as the last one or before another.
    rcases joinBlankLines_cases line rest with ⟨-, same⟩ | ⟨empty, none_ | first, -⟩ | ⟨empty, -, -, same⟩
    · rw [same, later]
    · rw [later] at none_
      rw [none_] at last
      exact absurd empty (last line rfl)
    · rw [later] at first
      exact absurd ⟨empty, first⟩ distinct
    · rw [same, later, empty]

theorem closeSentence_append (start : List (List Char)) (line : List Char) :
    closeSentence (start ++ [line]) = start ++ [closeLine line] := by
  induction start with
  | nil => rfl
  | cons first start ih =>
    rw [List.cons_append, List.cons_append, ← ih]
    cases start <;> rfl

theorem paragraphs_joinBlankLines (tidy : ∀ line ∈ lines, Tidy line)
    (first : ∀ line ∈ lines.head?, line ≠ []) : Paragraphs (joinBlankLines lines) where
  tidy := forall_joinBlankLines tidy_nil tidy
  first := by rwa [head?_joinBlankLines first]
  last := getLast?_joinBlankLines
  apart := apart_joinBlankLines lines

theorem Paragraphs.joinBlankLines_eq_self (paragraphs : Paragraphs lines) :
    joinBlankLines lines = lines :=
  Text.joinBlankLines_eq_self paragraphs.last paragraphs.apart

theorem Paragraphs.normal_closeSentence (paragraphs : Paragraphs lines) :
    Normal (closeSentence lines) := by
  rcases List.eq_nil_or_concat' lines with rfl | ⟨start, line, rfl⟩
  · exact { paragraphs with closed := fun _ member => nomatch member }
  · obtain ⟨tidy, first, last, apart⟩ := paragraphs
    have given : closeLine line ≠ [] := closeLine_ne_nil (last line List.getLast?_concat)
    obtain ⟨others, now⟩ := List.forall_mem_append.1 tidy
    -- A period makes no line empty, so that empty ones stand where they stood.
    rw [closeSentence_append]
    exact {
      tidy := List.forall_mem_append.2
        ⟨others, List.forall_mem_singleton.2 (now line List.mem_cons_self).closeLine⟩
      first := by
        cases start with
        | nil => simpa using given
        | cons next start => exact first
      last := by simpa using given
      apart := not_infix_pair_append given fun inside =>
        apart (inside.trans (List.prefix_append start [line]).isInfix)
      closed := by simpa using closed_closeLine line }

theorem Normal.closeSentence_eq_self (normal : Normal lines) : closeSentence lines = lines := by
  rcases List.eq_nil_or_concat' lines with rfl | ⟨start, line, rfl⟩
  · rfl
  · rw [closeSentence_append, closeLine_eq_self (normal.closed line List.getLast?_concat)]

theorem closeSentence_eq_nil_iff : closeSentence lines = [] ↔ lines = [] := by
  rcases List.eq_nil_or_concat' lines with rfl | ⟨start, line, rfl⟩
  · rfl
  · rw [closeSentence_append]
    simp

end Lines

section Description

variable {raw : List Char} {lines : List (List Char)}

theorem normal_descriptionLines (raw : List Char) : Normal (descriptionLines raw) := by
  refine (paragraphs_joinBlankLines (fun line member => ?_) fun line first => ?_).normal_closeSentence
  · obtain ⟨piece, cut, rfl⟩ := List.mem_map.1 ((List.dropWhile_sublist _).subset member)
    refine tidy_cleanLine fun inside => ?_
    cases forall_of_mem_splitWhere cut '\n' inside
  · simpa using head?_dropWhile line first

theorem descriptionLines_eq_nil_iff :
    descriptionLines raw = [] ↔ ∀ c ∈ raw, isBlank c = true := by
  have uncut : (splitWhere (· == '\n') raw).flatten = raw.filter (· != '\n') :=
    flatten_splitWhere _ raw
  calc descriptionLines raw = []
      ↔ ∀ line ∈ ((splitWhere (· == '\n') raw).map cleanLine).dropWhile List.isEmpty, line = [] := by
        rw [descriptionLines, closeSentence_eq_nil_iff, joinBlankLines_eq_nil_iff]
        rfl
    _ ↔ ∀ line ∈ (splitWhere (· == '\n') raw).map cleanLine, line = [] := by
        simp only [← List.isEmpty_iff, forall_mem_dropWhile_iff]
    _ ↔ ∀ c ∈ (splitWhere (· == '\n') raw).flatten, isBlank c = true := by
        simp only [List.forall_mem_map, cleanLine_eq_nil_iff, List.mem_flatten, forall_exists_index,
          and_imp]
        exact ⟨fun each c piece cut inside => each piece cut c inside,
          fun all piece cut c inside => all c piece cut inside⟩
    _ ↔ ∀ c ∈ raw, isBlank c = true := by
        rw [uncut]
        simp only [List.mem_filter, bne_iff_ne, and_imp]
        refine forall₂_congr fun c member => ⟨fun blank => ?_, fun blank _ => blank⟩
        by_cases feed : c = '\n'
        · rw [feed]
          decide
        · exact blank feed

/-- Lines in normal form are not changed. -/
theorem Normal.descriptionLines_intercalate (normal : Normal lines) :
    descriptionLines (['\n'].intercalate lines) = lines := by
  by_cases nothing : lines = []
  · rw [nothing]
    decide
  · have uncut : ∀ line ∈ lines, ∀ c ∈ line, (c == '\n') = false := fun line member c inside =>
      beq_false_of_ne fun same => (normal.tidy line member).whole (same ▸ inside)
    have clean : lines.map cleanLine = lines := by
      rw [List.map_congr_left fun line member => (normal.tidy line member).cleanLine_eq_self,
        List.map_id']
    have first : ∀ line ∈ lines.head?, line.isEmpty = false := fun line member => by
      simpa using normal.first line member
    calc descriptionLines (['\n'].intercalate lines)
        = closeSentence (joinBlankLines ((lines.map cleanLine).dropWhile List.isEmpty)) := by
          rw [descriptionLines, splitWhere_intercalate (by decide) nothing uncut]
          rfl
      _ = closeSentence (joinBlankLines lines) := by rw [clean, dropWhile_eq_self first]
      _ = lines := by rw [normal.joinBlankLines_eq_self, normal.closeSentence_eq_self]

end Description

/-- What a description is cleaned to is in normal form, is nothing only for white space, and is not changed
when it is cleaned again. -/
theorem cleanDescription_normal (raw : String) :
    Normal ((cleanDescription raw).map String.toList) ∧
      (cleanDescription raw = [] ↔ ∀ c ∈ raw.toList, isBlank c = true) ∧
      cleanDescription (joinLines (cleanDescription raw)) = cleanDescription raw := by
  have lines : (cleanDescription raw).map String.toList = descriptionLines raw.toList := by
    rw [cleanDescription, List.map_map]
    simp [Function.comp_def]
  have normal := normal_descriptionLines raw.toList
  refine ⟨lines ▸ normal, ?_, ?_⟩
  · rw [cleanDescription, List.map_eq_nil_iff]
    exact descriptionLines_eq_nil_iff
  · have joined : (joinLines (cleanDescription raw)).toList =
        ['\n'].intercalate (descriptionLines raw.toList) := by
      rw [joinLines, String.toList_intercalate, lines]
      rfl
    rw [cleanDescription, joined, normal.descriptionLines_intercalate, cleanDescription]

end Bindings.Text
