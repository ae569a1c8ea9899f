import Bindings.Protocol.Names
import Bindings.Proofs.Name.Alphabets
import Bindings.Proofs.Text.Pieces
import Bindings.Text.Quoted

/-! Texts of a single line.

Identifiers of names without a line feed hold none. The lines of a description hold none whatever the
description is: they are cut at line feeds, and what is corrected in them afterwards adds letters,
spaces and a period.
-/

set_option autoImplicit false

namespace Bindings

open Text (splitWhere)

def Unbroken (text : String) : Prop := '\n' ∉ text.toList

instance : DecidablePred Unbroken := fun text =>
  inferInstanceAs (Decidable (¬ '\n' ∈ text.toList))

theorem unbroken_append {first second : String} :
    Unbroken (first ++ second) ↔ Unbroken first ∧ Unbroken second := by
  simp only [Unbroken, String.toList_append, List.mem_append, not_or]

theorem unbroken_ofList {text : List Char} : Unbroken (.ofList text) ↔ ∀ c ∈ text, c ≠ '\n' := by
  rw [Unbroken, String.toList_ofList]
  exact ⟨fun absent c member same => absent (same ▸ member), fun all member => all _ member rfl⟩

def AllUnbroken (texts : List String) : Prop := ∀ text ∈ texts, Unbroken text

theorem AllUnbroken.subset {few many : List String} (h : AllUnbroken many) (sub : few ⊆ many) :
    AllUnbroken few :=
  fun text member => h text (sub member)

theorem allUnbroken_nil : AllUnbroken [] := fun _ member => nomatch member

theorem allUnbroken_singleton {text : String} : AllUnbroken [text] ↔ Unbroken text :=
  List.forall_mem_singleton

theorem unbroken_intercalate {separator : String} {texts : List String}
    (between : Unbroken separator) (each : AllUnbroken texts) :
    Unbroken (separator.intercalate texts) := by
  induction texts with
  | nil => exact fun member => nomatch member
  | cons first others ih =>
    obtain ⟨now, later⟩ := List.forall_mem_cons.1 each
    cases others with
    | nil => rwa [String.intercalate_singleton]
    | cons second rest =>
      rw [String.intercalate_cons_cons, unbroken_append, unbroken_append]
      exact ⟨⟨now, between⟩, ih later⟩

section Names

open Unicode

theorem image_ne_newline {run : CaseRun} (above : '\n'.toNat < run.target) {c d : Char}
    (h : run.image? c = some d) : d ≠ '\n' := by
  rw [CaseRun.image?] at h
  split at h
  · cases h
    by_cases valid : (run.target + (c.toNat - run.source.first)).isValidChar
    · rw [Char.ofNat, dif_pos valid]
      intro same
      have code := congrArg Char.toNat same
      change run.target + (c.toNat - run.source.first) = '\n'.toNat at code
      omega
    · rw [Char.ofNat, dif_neg valid]
      decide
  · cases h

theorem upper_ne_newline {c : Char} (plain : c ≠ '\n') : ∀ d ∈ upper c, d ≠ '\n' := by
  have above : ∀ run ∈ upperRuns, '\n'.toNat < run.target := by decide +kernel
  exact forall_cased (by decide) (by decide)
    (fun run member _ _ => image_ne_newline (above run member)) plain

theorem alphabet_unbroken : Name.Alphabet (· ≠ '\n') where
  letter _ letter := by
    rintro rfl
    exact absurd letter (by decide)
  upper _ plain := upper_ne_newline plain

theorem Unbroken.exported {raw : String} (h : Unbroken raw) : Unbroken (Name.exported raw) := by
  refine unbroken_ofList.2 (alphabet_unbroken.exportedChars fun word member c inside same => ?_)
  obtain ⟨piece, found, segmented⟩ := List.mem_flatMap.1 member
  have sub := Text.subset_of_mem_splitWhere (List.mem_filter.1 found).1
  exact h (same ▸ sub (Name.subset_of_mem_segment segmented inside))

theorem Unbroken.withoutDomain {domain type : String} (h : Unbroken type) :
    Unbroken (Name.withoutDomain domain type) := by
  rw [Name.withoutDomain]
  split
  · next c rest after =>
    split
    · rw [Unbroken, Text.after?_eq_some.1 after, List.mem_append, not_or] at h
      rw [Unbroken, String.toList_ofList]
      exact h.2
    · exact h
  · exact h

theorem toLower_ne_newline {c : Char} (plain : c ≠ '\n') : c.toLower ≠ '\n' := by
  by_cases ascii : isAscii c
  · exact of_isAscii (P := fun c => c ≠ '\n' → c.toLower ≠ '\n') (by decide) ascii plain
  · have other : ¬(c.val ≥ 'A'.val ∧ c.val ≤ 'Z'.val) := fun capital => by
      have small : c.toNat ≤ 'Z'.toNat := UInt32.le_iff_toNat_le.1 capital.2
      simp only [isAscii, decide_eq_true_eq] at ascii
      exact absurd (Nat.lt_of_le_of_lt small (by decide)) ascii
    have same : c.toLower = c := dif_neg other
    rwa [same]

theorem Unbroken.package {domain : String} (h : Unbroken domain) :
    Unbroken (Name.package domain) := by
  refine unbroken_ofList.2 fun d member => ?_
  obtain ⟨c, inside, rfl⟩ := List.mem_map.1 member
  exact toLower_ne_newline fun same => h (same ▸ inside)

end Names

namespace Text

section Quoting

theorem hexDigit_ne_newline {n : Nat} (small : n < 16) : hexDigit n ≠ '\n' := by
  have all : ∀ n < 16, hexDigit n ≠ '\n' := by decide
  exact all n small

theorem newline_notMem_escape (c : Char) : '\n' ∉ escape c := by
  fun_cases escape c with
  | case8 _ _ _ _ _ _ _ control =>
    have high : c.toNat / 16 < 16 := by omega
    have low : c.toNat % 16 < 16 := by omega
    simp [(hexDigit_ne_newline high).symm, (hexDigit_ne_newline low).symm]
  | case9 _ _ plain => simpa using fun same => plain same.symm
  | _ => decide

/-- A quoted text stands on one line whatever it holds. -/
theorem unbroken_quote (text : String) : Unbroken (quote text) := by
  rw [Unbroken, quote, String.toList_ofList, quoteChars]
  have escaped : '\n' ∉ text.toList.flatMap escape := fun member =>
    have ⟨c, _, inside⟩ := List.mem_flatMap.1 member
    newline_notMem_escape c inside
  simp [escaped]

end Quoting

section Descriptions

variable {P : Char → Prop}

theorem forall_trim {text : List Char} (holds : ∀ c ∈ text, P c) :
    ∀ c ∈ Unicode.trim text, P c := by
  intro c member
  have inside := List.mem_reverse.1 ((List.dropWhile_sublist _).subset (List.mem_reverse.1 member))
  exact holds c ((List.dropWhile_sublist _).subset inside)

theorem forall_squeeze {text : List Char} (space : P ' ') (holds : ∀ c ∈ text, P c) :
    ∀ c ∈ squeeze text, P c := by
  induction text with
  | nil => exact holds
  | cons c rest ih =>
    obtain ⟨first, others⟩ := List.forall_mem_cons.1 holds
    rw [squeeze]
    split
    · split
      · next squeezed same => exact same ▸ ih others
      · exact List.forall_mem_cons.2 ⟨space, ih others⟩
    · exact List.forall_mem_cons.2 ⟨first, ih others⟩

theorem isAlpha_corrections : ∀ entry ∈ corrections, ∀ c ∈ entry.2, c.isAlpha = true := by
  decide

theorem forall_correctWord (h : Name.Alphabet P) {word : List Char} (holds : ∀ c ∈ word, P c) :
    ∀ c ∈ correctWord word, P c := by
  rw [correctWord]
  split
  · next fixed found =>
    obtain ⟨before, after, listed, -⟩ := List.lookup_eq_some_iff.1 found
    have entry : (Unicode.asciiLowercase word, fixed) ∈ corrections :=
      listed ▸ List.mem_append_right before List.mem_cons_self
    have letters : ∀ c ∈ fixed, P c := fun c member =>
      h.letter c (isAlpha_corrections _ entry c member)
    split
    · exact h.capitalized letters
    · exact letters
  · exact holds

theorem forall_correctAfter (h : Name.Alphabet P) {word text : List Char}
    (begun : ∀ c ∈ word, P c) (holds : ∀ c ∈ text, P c) : ∀ c ∈ correctAfter word text, P c := by
  have ended {word : List Char} (begun : ∀ c ∈ word, P c) :
      ∀ c ∈ correctWord word.reverse, P c :=
    forall_correctWord h fun c member => begun c (List.mem_reverse.1 member)
  induction text generalizing word with
  | nil => exact ended begun
  | cons c rest ih =>
    obtain ⟨first, others⟩ := List.forall_mem_cons.1 holds
    rw [correctAfter]
    split
    · exact ih (List.forall_mem_cons.2 ⟨first, begun⟩) others
    · refine List.forall_mem_append.2 ⟨ended begun, List.forall_mem_cons.2 ⟨first, ?_⟩⟩
      exact ih (fun _ member => nomatch member) others

variable {Q : List Char → Prop} {lines : List (List Char)}

theorem forall_joinBlankLines (blank : Q []) (holds : ∀ line ∈ lines, Q line) :
    ∀ line ∈ joinBlankLines lines, Q line := by
  induction lines with
  | nil => exact holds
  | cons line rest ih =>
    obtain ⟨first, others⟩ := List.forall_mem_cons.1 holds
    rw [joinBlankLines]
    split
    · split
      · exact fun _ member => nomatch member
      · next next_ later same =>
        have joined := ih others
        rw [same] at joined
        split
        · exact joined
        · exact List.forall_mem_cons.2 ⟨blank, joined⟩
    · exact List.forall_mem_cons.2 ⟨first, ih others⟩

theorem forall_closeSentence (closed : ∀ line, Q line → Q (line ++ ['.']))
    (holds : ∀ line ∈ lines, Q line) : ∀ line ∈ closeSentence lines, Q line := by
  fun_induction closeSentence lines with
  | case1 => exact holds
  | case2 line =>
    have only := holds line List.mem_cons_self
    refine List.forall_mem_singleton.2 ?_
    split
    · exact only
    · exact closed line only
  | case3 line rest _ ih =>
    obtain ⟨first, others⟩ := List.forall_mem_cons.1 holds
    exact List.forall_mem_cons.2 ⟨first, ih others⟩

/-- The lines of a description are lines of a text. -/
theorem unbroken_of_mem_cleanDescription {raw line : String}
    (member : line ∈ cleanDescription raw) : Unbroken line := by
  obtain ⟨chars, inside, rfl⟩ := List.mem_map.1 member
  have plain : ∀ line ∈ descriptionLines raw.toList, ∀ c ∈ line, c ≠ '\n' := by
    refine forall_closeSentence (fun line holds => ?_) ?_
    · exact List.forall_mem_append.2 ⟨holds, by decide⟩
    refine forall_joinBlankLines (fun _ member => nomatch member) fun line kept => ?_
    obtain ⟨piece, cut, rfl⟩ := List.mem_map.1 ((List.dropWhile_sublist _).subset kept)
    have uncut : ∀ c ∈ piece, c ≠ '\n' := fun c found =>
      ne_of_beq_false (forall_of_mem_splitWhere cut c found)
    refine forall_correctAfter alphabet_unbroken (fun _ member => nomatch member) ?_
    exact forall_squeeze (by decide) (forall_trim uncut)
  exact unbroken_ofList.2 (plain chars inside)

end Descriptions

end Text

theorem allUnbroken_describe (description : Option String) : AllUnbroken (describe description) :=
  fun _ member => Text.unbroken_of_mem_cleanDescription member

end Bindings
