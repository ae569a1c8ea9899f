import Bindings.Proofs.Text.Pieces
import Bindings.Proofs.Text.Spacing
import Bindings.Proofs.Unicode.Letters

/-! Corrected spelling.

A text is corrected word by word, where a word is a maximal run of letters. What stands between the words
is kept, so that a corrected text has white space where the text has it, and its words are the corrected
ones.
-/

set_option autoImplicit false

namespace Bindings.Text

open Unicode (asciiLowercase isBlank of_isAscii isAscii_of_isAlphanum)

def Letters (text : List Char) : Prop := ∀ c ∈ text, isLetter c = true

instance : DecidablePred Letters := List.decidableBAll (isLetter · = true)

def Misspelled (word : List Char) : Prop := asciiLowercase word ∈ corrections.map Prod.fst

instance : DecidablePred Misspelled := fun word =>
  inferInstanceAs (Decidable (asciiLowercase word ∈ corrections.map Prod.fst))

def letterRuns (text : List Char) : List (List Char) := fields (fun c => !isLetter c) text

def Correct (text : List Char) : Prop := ∀ word ∈ letterRuns text, ¬Misspelled word

inductive Corrected : List Char → List Char → Prop
  | last {word : List Char} (letters : Letters word) : Corrected word (correctWord word)
  | next {word rest fixed : List Char} {c : Char} (letters : Letters word)
      (other : isLetter c = false) (later : Corrected rest fixed) :
      Corrected (word ++ c :: rest) (correctWord word ++ c :: fixed)

section Words
variable {c : Char} {word rest run : List Char}

/-- Corrections are words that are not misspelled themselves, with a capital or without. -/
theorem corrections_correct : ∀ fixed ∈ corrections.map Prod.snd,
    ∀ word ∈ [fixed, Name.capitalized fixed], word ≠ [] ∧ Letters word ∧ ¬Misspelled word := by
  decide

theorem correctWord_cases (word : List Char) :
    ¬Misspelled word ∧ correctWord word = word ∨
      correctWord word ≠ [] ∧ Letters (correctWord word) ∧ ¬Misspelled (correctWord word) := by
  rw [correctWord]
  split
  · next fixed found =>
    obtain ⟨before, after, listed, -⟩ := List.lookup_eq_some_iff.1 found
    have known : fixed ∈ corrections.map Prod.snd :=
      List.mem_map.2 ⟨_, listed ▸ List.mem_append_right before List.mem_cons_self, rfl⟩
    -- The first letter of the word decides which of the two it is.
    refine .inr (corrections_correct fixed known _ ?_)
    split <;> simp
  · next missed =>
    refine .inl ⟨fun member => ?_, rfl⟩
    obtain ⟨entry, listed, same⟩ := List.mem_map.1 member
    simpa [same] using List.lookup_eq_none_iff.1 missed entry listed

theorem letters_correctWord (letters : Letters word) : Letters (correctWord word) := by
  rcases correctWord_cases word with ⟨-, same⟩ | ⟨-, fixed, -⟩
  · rwa [same]
  · exact fixed

theorem not_misspelled_correctWord (word : List Char) : ¬Misspelled (correctWord word) := by
  rcases correctWord_cases word with ⟨right, same⟩ | ⟨-, -, right⟩
  · rwa [same]
  · exact right

theorem correctWord_eq_self (right : ¬Misspelled word) : correctWord word = word := by
  rw [correctWord]
  split
  · next fixed found =>
    obtain ⟨before, after, listed, -⟩ := List.lookup_eq_some_iff.1 found
    exact absurd (List.mem_map.2 ⟨_, listed ▸ List.mem_append_right before List.mem_cons_self, rfl⟩)
      right
  · rfl

theorem correctWord_eq_nil_iff : correctWord word = [] ↔ word = [] := by
  rcases correctWord_cases word with ⟨-, same⟩ | ⟨given, -, -⟩
  · rw [same]
  · refine iff_of_false given ?_
    rintro rfl
    exact given (correctWord_eq_self (by decide))

theorem letterRuns_of_letters (letters : Letters word) :
    letterRuns word = if word = [] then [] else [word] :=
  fields_of_forall fun c member => by rw [letters c member, Bool.not_true]

theorem letterRuns_append_cons (other : isLetter c = false) :
    letterRuns (word ++ c :: rest) = letterRuns word ++ letterRuns rest :=
  fields_append_cons (by rw [other, Bool.not_false]) word rest

theorem isLetter_of_isBlank (blank : isBlank c = true) : isLetter c = false := by
  rw [← Bool.not_eq_true]
  intro letter
  have alnum : c.isAlphanum = true := by rw [Char.isAlphanum, ← isLetter, letter, Bool.true_or]
  have plain := of_isAscii (P := fun c => isLetter c = true → isBlank c = false) (by decide)
    (isAscii_of_isAlphanum alnum) letter
  rw [plain] at blank
  cases blank

/-- Letters before a text add no spaces to it. -/
theorem infix_spaces_append_iff (letters : Letters word) :
    [' ', ' '] <:+: word ++ rest ↔ [' ', ' '] <:+: rest := by
  induction word with
  | nil => rfl
  | cons d word ih =>
    obtain ⟨now, later⟩ := List.forall_mem_cons.1 letters
    have other : ' ' ≠ d := by
      rintro rfl
      exact absurd now (by decide)
    rw [List.cons_append, infix_pair_cons_iff, ih later, or_iff_right]
    exact fun pair => other pair.1.symm

theorem letters_nil : Letters [] := fun _ member => nomatch member

theorem correct_nil : Correct [] := fun _ member => nomatch member

theorem correct_of_letters (letters : Letters word) (right : ¬Misspelled word) : Correct word := by
  intro run member
  rw [letterRuns_of_letters letters] at member
  split at member
  · cases member
  · rwa [List.mem_singleton.1 member]

theorem correct_append_cons_iff (other : isLetter c = false) :
    Correct (word ++ c :: rest) ↔ Correct word ∧ Correct rest := by
  rw [Correct, letterRuns_append_cons other, List.forall_mem_append]
  rfl

theorem correctWord_of_correct (letters : Letters word) (correct : Correct word) :
    correctWord word = word := by
  rw [Correct, letterRuns_of_letters letters] at correct
  split at correct
  · next nothing => rw [nothing, correctWord_eq_nil_iff]
  · exact correctWord_eq_self (correct word List.mem_cons_self)

end Words

section Texts
variable {c : Char} {run text fixed : List Char}

theorem corrected_correctAfter (letters : Letters run) (text : List Char) :
    Corrected (run.reverse ++ text) (correctAfter run text) := by
  have reversed {run : List Char} (letters : Letters run) : Letters run.reverse :=
    fun c member => letters c (List.mem_reverse.1 member)
  induction text generalizing run with
  | nil =>
    rw [List.append_nil]
    exact .last (reversed letters)
  | cons c rest ih =>
    rw [correctAfter]
    split
    · next letter =>
      have longer := ih (List.forall_mem_cons.2 ⟨letter, letters⟩)
      rwa [List.reverse_cons, List.append_assoc, List.singleton_append] at longer
    · next other => exact .next (reversed letters) (eq_false_of_ne_true other) (ih letters_nil)

/-- Correcting a text corrects its words. -/
theorem corrected_correctChars (text : List Char) : Corrected text (correctChars text) :=
  corrected_correctAfter letters_nil text

namespace Corrected

theorem notMem_correctWord (letters : Letters run) (other : isLetter c = false) :
    c ∉ correctWord run := by
  intro member
  rw [letters_correctWord letters c member] at other
  cases other

/-- What is no letter stands in the text already. -/
theorem mem_of_other (corrected : Corrected text fixed) (other : isLetter c = false)
    (member : c ∈ fixed) : c ∈ text := by
  induction corrected with
  | last letters => exact absurd member (notMem_correctWord letters other)
  | next letters _ _ ih =>
    rcases List.mem_append.1 member with inside | inside
    · exact absurd inside (notMem_correctWord letters other)
    · refine List.mem_append_right _ ?_
      rcases List.mem_cons.1 inside with rfl | later
      · exact List.mem_cons_self
      · exact List.mem_cons_of_mem _ (ih later)

theorem eq_nil_iff (corrected : Corrected text fixed) : fixed = [] ↔ text = [] := by
  cases corrected with
  | last letters => exact correctWord_eq_nil_iff
  | next letters _ _ => simp

theorem head?_of_other (corrected : Corrected text fixed) (other : isLetter c = false)
    (first : fixed.head? = some c) : text.head? = some c := by
  cases corrected with
  | last letters => exact absurd (List.mem_of_mem_head? first) (notMem_correctWord letters other)
  | @next run _ _ _ letters _ _ =>
    by_cases nothing : run = []
    · rw [nothing, correctWord_eq_nil_iff.2 rfl] at first
      rwa [nothing]
    · have given : correctWord run ≠ [] := correctWord_eq_nil_iff.not.2 nothing
      rw [List.head?_append_of_ne_nil _ given] at first
      exact absurd (List.mem_of_mem_head? first) (notMem_correctWord letters other)

theorem getLast?_of_other (corrected : Corrected text fixed) (other : isLetter c = false)
    (last : fixed.getLast? = some c) : text.getLast? = some c := by
  induction corrected with
  | last letters => exact absurd (List.mem_of_getLast? last) (notMem_correctWord letters other)
  | @next run rest fixed d letters _ later ih =>
    rw [List.getLast?_append_cons] at last ⊢
    cases fixed with
    | nil => rwa [later.eq_nil_iff.1 rfl]
    | cons e fixed =>
      -- What is left is not empty either, as its last character is in it.
      rw [List.getLast?_cons_cons] at last
      have kept := ih last
      cases rest with
      | nil => cases kept
      | cons e rest => rwa [List.getLast?_cons_cons]

theorem correct (corrected : Corrected text fixed) : Correct fixed := by
  induction corrected with
  | @last run letters =>
    exact correct_of_letters (letters_correctWord letters) (not_misspelled_correctWord run)
  | @next run _ _ _ letters other _ ih =>
    refine (correct_append_cons_iff other).2 ⟨?_, ih⟩
    exact correct_of_letters (letters_correctWord letters) (not_misspelled_correctWord run)

/-- A text without misspelled words is not changed. -/
theorem eq_self (corrected : Corrected text fixed) (correct : Correct text) : fixed = text := by
  induction corrected with
  | last letters => exact correctWord_of_correct letters correct
  | next letters other _ ih =>
    obtain ⟨now, later⟩ := (correct_append_cons_iff other).1 correct
    rw [correctWord_of_correct letters now, ih later]

theorem trimmed (corrected : Corrected text fixed) (trimmed : Trimmed text) : Trimmed fixed where
  first c first := by
    rw [← Bool.not_eq_true]
    intro blank
    rw [trimmed.first c (corrected.head?_of_other (isLetter_of_isBlank blank) first)] at blank
    cases blank
  last c last := by
    rw [← Bool.not_eq_true]
    intro blank
    rw [trimmed.last c (corrected.getLast?_of_other (isLetter_of_isBlank blank) last)] at blank
    cases blank

theorem spaced (corrected : Corrected text fixed) (spaced : Spaced text) : Spaced fixed where
  tabless := fun member => spaced.tabless (corrected.mem_of_other (by decide) member)
  single := by
    refine fun double => spaced.single ?_
    clear spaced
    induction corrected with
    | last letters =>
      rw [← List.append_nil (correctWord _), infix_spaces_append_iff (letters_correctWord letters)]
        at double
      exact absurd double (by decide)
    | next letters _ later ih =>
      -- The second space may come first in what has been corrected, but then it did before.
      rw [infix_spaces_append_iff (letters_correctWord letters), infix_pair_cons_iff] at double
      rw [infix_spaces_append_iff letters, infix_pair_cons_iff]
      exact double.imp (fun pair => ⟨pair.1, later.head?_of_other (by decide) pair.2⟩) ih

end Corrected

end Texts

end Bindings.Text
