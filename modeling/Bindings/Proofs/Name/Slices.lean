import Bindings.Proofs.Name.Segments
import Mathlib.Data.String.Lemmas

/-! Words taken out of a text by the bytes they begin and end at.

A text is kept as bytes, so a word is taken out by two of them, and neither may lie inside of a
character. They are found among the characters of a chunk, each with the byte that it begins at, by
a scan that remembers where the current word has begun.
-/

set_option autoImplicit false

namespace Bindings.Name

open String (ofList utf8Len)

structure Slice where
  text : String
  start : String.Pos.Raw
  stop : String.Pos.Raw

namespace Slice

def Fits (slice : Slice) : Prop :=
  slice.start ≤ slice.stop ∧ slice.start.IsValid slice.text ∧ slice.stop.IsValid slice.text

instance (slice : Slice) : Decidable slice.Fits := inferInstanceAs (Decidable (_ ∧ _ ∧ _))

def read? (slice : Slice) : Option String :=
  if slice.Fits then some (String.Pos.Raw.extract slice.text slice.start slice.stop) else none

theorem fits_of_read? {slice : Slice} (read : slice.read?.isSome) : slice.Fits := by
  rw [read?] at read
  split at read
  · assumption
  · cases read

end Slice

/-- Characters with the bytes at which they begin. -/
def placed (place : String.Pos.Raw) : List Char → List (String.Pos.Raw × Char)
  | [] => []
  | c :: rest => (place, c) :: placed (place + c) rest

/-- The slices of a chunk for its words, the first of which begins at `start`. -/
def slicesFrom (chunk : String) (start : String.Pos.Raw) : List (String.Pos.Raw × Char) → List Slice
  | (_, before) :: (place, c) :: rest =>
    if startsWord before c (rest.head?.map Prod.snd) then
      ⟨chunk, start, place⟩ :: slicesFrom chunk place ((place, c) :: rest)
    else slicesFrom chunk start ((place, c) :: rest)
  | _ => [⟨chunk, start, chunk.rawEndPos⟩]

def wordSlices (raw : String) : List Slice :=
  ((Text.fields isSeparator raw.toList).map ofList).flatMap fun chunk =>
    slicesFrom chunk 0 (placed 0 chunk.toList)

theorem isValid_utf8Len (front back : List Char) :
    String.Pos.Raw.IsValid (ofList (front ++ back)) ⟨utf8Len front⟩ :=
  String.Pos.Raw.isValid_iff_exists_append.2
    ⟨ofList front, ofList back, String.ofList_append, (String.rawEndPos_ofList front).symm⟩

/-- A part of a text is read by the sizes of what is before it and of itself. -/
theorem read?_part (front word back : List Char) :
    Slice.read? ⟨ofList (front ++ word ++ back), ⟨utf8Len front⟩, ⟨utf8Len (front ++ word)⟩⟩ =
      some (ofList word) := by
  have fits : Slice.Fits
      ⟨ofList (front ++ word ++ back), ⟨utf8Len front⟩, ⟨utf8Len (front ++ word)⟩⟩ := by
    refine ⟨?_, ?_, isValid_utf8Len (front ++ word) back⟩
    · simp [String.Pos.Raw.le_iff]
    · rw [List.append_assoc]
      exact isValid_utf8Len front (word ++ back)
  rw [Slice.read?, if_pos fits, String.utf8Len_append, String.extract_of_valid]

theorem head?_placed (place : String.Pos.Raw) (text : List Char) :
    (placed place text).head?.map Prod.snd = text.head? := by
  cases text <;> rfl

/-- Where the scan comes to `before`, of the current word `begun` has been passed and begins after
`front`. It takes the words that the rest of the chunk is cut into, with `begun` in front of the
first. -/
theorem slicesFrom_read? {before : Char} {rest first : List Char} {others : List (List Char)}
    (cut : segment (before :: rest) = first :: others) (front begun : List Char) :
    (slicesFrom (ofList (front ++ begun ++ before :: rest)) ⟨utf8Len front⟩
        (placed ⟨utf8Len (front ++ begun)⟩ (before :: rest))).map Slice.read? =
      ((begun ++ first) :: others).map fun word => some (ofList word) := by
  induction rest generalizing before first others front begun with
  | nil =>
    obtain ⟨rfl, rfl⟩ := List.cons.inj cut
    have last := read?_part front (begun ++ [before]) []
    simp only [List.append_nil, ← List.append_assoc] at last
    simp only [placed, slicesFrom, String.rawEndPos_ofList, List.map_cons, List.map_nil, last]
  | cons c rest ih =>
    have place : (⟨utf8Len (front ++ begun)⟩ : String.Pos.Raw) + before =
        ⟨utf8Len (front ++ (begun ++ [before]))⟩ := by
      simp [String.Pos.Raw.add_char_eq, Nat.add_assoc]
    rw [placed, placed, slicesFrom, head?_placed, ← placed, place]
    obtain ⟨word, words, next⟩ : ∃ word words, segment (c :: rest) = word :: words :=
      List.exists_cons_of_ne_nil segment_ne_nil
    rw [segment, next] at cut
    dsimp only at cut
    -- Either `c` starts a word, and the one before is taken, or `before` is passed as well.
    split
    · next starts =>
      rw [if_pos starts] at cut
      obtain ⟨rfl, rfl⟩ := List.cons.inj cut
      have taken := read?_part front (begun ++ [before]) (c :: rest)
      have later := ih next (front ++ (begun ++ [before])) []
      simp only [List.append_nil, List.nil_append, List.append_assoc, List.cons_append]
        at taken later ⊢
      rw [List.map_cons, taken, later]
      rfl
    · next inside =>
      rw [if_neg inside] at cut
      obtain ⟨rfl, rfl⟩ := List.cons.inj cut
      have later := ih next front (begun ++ [before])
      simp only [List.nil_append, List.append_assoc, List.cons_append] at later ⊢
      exact later

/-- The slices of a text are its words. -/
theorem wordSlices_read? (raw : String) :
    (wordSlices raw).map Slice.read? = (words raw.toList).map fun word => some (ofList word) := by
  rw [wordSlices, words, List.flatMap_map, List.map_flatMap, List.map_flatMap]
  refine List.flatMap_congr fun chunk member => ?_
  have given : chunk ≠ [] := by simpa using (List.mem_filter.1 member).2
  obtain ⟨before, rest, rfl⟩ := List.exists_cons_of_ne_nil given
  obtain ⟨first, others, cut⟩ : ∃ first others, segment (before :: rest) = first :: others :=
    List.exists_cons_of_ne_nil segment_ne_nil
  rw [cut, String.toList_ofList]
  exact slicesFrom_read? cut [] []

/-- No slice begins or ends inside of a character. -/
theorem fits_of_mem_wordSlices {raw : String} {slice : Slice} (member : slice ∈ wordSlices raw) :
    slice.Fits := by
  have read : slice.read? ∈ (wordSlices raw).map Slice.read? := List.mem_map_of_mem member
  rw [wordSlices_read?] at read
  obtain ⟨word, -, same⟩ := List.mem_map.1 read
  exact Slice.fits_of_read? (by rw [← same]; rfl)

end Bindings.Name
