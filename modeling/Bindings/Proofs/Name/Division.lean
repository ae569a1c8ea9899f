import Bindings.Proofs.Name.Slices
import Bindings.Proofs.Text.Division

/-! The words of a name are determined.

Words hold what is no separator. They break at separators and before the capitals that start a
word, which is said here for the characters next to the break, without the scan.
-/

set_option autoImplicit false

namespace Bindings.Name

open Text (BreaksAfter Cuts Divides breaksAfter_append_left not_breaksAfter_cons)
open Unicode (isUppercase isLowercase)

/-- Where a chunk goes on from `p` with `c` and then `right`, a word starts at `c`: a capital after a
small letter or digit, or the last capital of a run before a small letter. -/
def Starts (p c : Char) (right : List Char) : Prop :=
  isUppercase c = true ∧ (isLowercase p = true ∨ p.isDigit = true ∨ isUppercase p = true ∧
    ∃ next rest, right = next :: rest ∧ isSeparator next = false ∧ isLowercase next = true)

theorem isSeparator_of_isLowercase {c : Char} (small : isLowercase c = true) :
    isSeparator c = false := by
  rw [← Bool.not_eq_true]
  intro separates
  simp only [isSeparator, Bool.or_eq_true, beq_iff_eq] at separates
  rcases separates with ((rfl | rfl) | rfl) | rfl <;> exact absurd small (by decide)

theorem starts_iff {p c : Char} {right : List Char} :
    Starts p c right ↔ startsWord p c right.head? = true := by
  have small : (∃ next rest, right = next :: rest ∧ isSeparator next = false ∧
      isLowercase next = true) ↔ right.head?.any isLowercase = true := by
    cases right with
    | nil => simp
    | cons next rest => simpa using isSeparator_of_isLowercase
  simp only [Starts, small, startsWord, Bool.and_eq_true, Bool.or_eq_true, or_assoc]

/-- A separator ends a chunk, so what follows it starts no word. -/
theorem starts_append_separator {p c sep : Char} {right after : List Char}
    (separates : isSeparator sep = true) :
    Starts p c (right ++ sep :: after) ↔ Starts p c right := by
  cases right with
  | nil => simp [Starts, separates]
  | cons next right => simp [Starts]

theorem breaksAfter_cons_cons {d : Char} {word front : List Char} {words : List (List Char)}
    (front_ne : front ≠ []) :
    BreaksAfter ((d :: word) :: words) (d :: front) ↔ BreaksAfter (word :: words) front := by
  constructor
  · rintro ⟨_ | ⟨first, before⟩, after, cut, same⟩
    · cases same
    · obtain ⟨rfl, rfl⟩ := List.cons.inj cut
      exact ⟨word :: before, after, rfl, (List.cons.inj same).2⟩
  · rintro ⟨_ | ⟨first, before⟩, after, cut, rfl⟩
    · exact absurd rfl front_ne
    · obtain ⟨rfl, rfl⟩ := List.cons.inj cut
      exact ⟨(d :: word) :: before, after, rfl, rfl⟩

/-- A chunk is cut between two characters where a word starts at the second. -/
theorem breaksAfter_segment {left right : List Char} {p c : Char} :
    BreaksAfter (segment (left ++ p :: c :: right)) (left ++ [p]) ↔ Starts p c right := by
  rw [starts_iff]
  induction left with
  | nil =>
    obtain ⟨word, words, next⟩ : ∃ word words, segment (c :: right) = word :: words :=
      List.exists_cons_of_ne_nil segment_ne_nil
    rw [List.nil_append, List.nil_append, segment, next]
    dsimp only
    split
    · next starts => exact iff_of_true ⟨[[p]], word :: words, rfl, rfl⟩ starts
    · next inside =>
      have some_ : word ≠ [] := ne_nil_of_mem_segment (next ▸ List.mem_cons_self)
      refine iff_of_false (not_breaksAfter_cons (List.cons_ne_nil _ _) ?_) inside
      simpa using List.length_pos_of_ne_nil some_
  | cons d left ih =>
    -- `d` is a word of its own or in front of the first one, and the breaks behind it stay.
    obtain ⟨e, rest, same⟩ : ∃ e rest, left ++ p :: c :: right = e :: rest :=
      List.exists_cons_of_ne_nil (by simp)
    obtain ⟨word, words, next⟩ : ∃ word words, segment (e :: rest) = word :: words :=
      List.exists_cons_of_ne_nil segment_ne_nil
    rw [same, next] at ih
    rw [List.cons_append, List.cons_append, same, segment, next, ← ih]
    dsimp only
    split
    · exact @breaksAfter_append_left [[d]] _ (left ++ [p])
    · exact breaksAfter_cons_cons (by simp)

theorem cuts_segment : Cuts isSeparator Starts segment where
  given _ _ _ member := ne_nil_of_mem_segment member
  whole := flatten_segment
  breaks _ _ _ _ _ := breaksAfter_segment
  near _ _ _ _ _ := starts_append_separator

/-- The words of a text are the only ones that it can be divided into at its separators and at the
starts of words, and are taken out of it between characters. -/
theorem words_determined (raw : String) :
    (∀ ws, Divides isSeparator Starts raw.toList ws ↔ ws = words raw.toList) ∧
      (∀ slice ∈ wordSlices raw, slice.Fits) ∧
      (wordSlices raw).map Slice.read? =
        (words raw.toList).map fun word => some (String.ofList word) := by
  have divides : Divides isSeparator Starts raw.toList (words raw.toList) :=
    Text.divides_flatMap_fields cuts_segment raw.toList
  refine ⟨fun ws => ⟨fun other => other.unique divides, ?_⟩, fun slice => fits_of_mem_wordSlices,
    wordSlices_read? raw⟩
  rintro rfl
  exact divides

end Bindings.Name
