import Bindings.Proofs.Text.Pieces
import Mathlib.Data.List.Basic

/-! What it means that a text is cut into words, and that this leaves no choice.

The words of a text hold what is not a gap, in its order. Where one of them ends is said for every
two characters that come next to each other when the gaps are left out: they belong to different
words if there is a gap between them, or if the character before parts from the one after.
-/

set_option autoImplicit false

namespace Bindings.Text

def kept (gap : Char → Bool) (text : List Char) : List Char := text.filter fun c => !gap c

/-- Whether a word ends where the characters of all words so far are `front`. -/
def BreaksAfter (words : List (List Char)) (front : List Char) : Prop :=
  ∃ before after, words = before ++ after ∧ before.flatten = front

/-- How a text is cut into words. `parts p c right` says that a word ends between the neighbours `p`
and `c`, after which the text goes on with `right`. -/
structure Divides (gap : Char → Bool) (parts : Char → Char → List Char → Prop) (text : List Char)
    (words : List (List Char)) : Prop where
  given : ∀ word ∈ words, word ≠ []
  free : ∀ word ∈ words, ∀ c ∈ word, gap c = false
  whole : words.flatten = kept gap text
  breaks : ∀ (left between right : List Char) (p c : Char),
    text = left ++ p :: (between ++ c :: right) → gap p = false → gap c = false →
      (∀ g ∈ between, gap g = true) →
        (BreaksAfter words (kept gap left ++ [p]) ↔ between ≠ [] ∨ parts p c right)

section Breaks
variable {first second words : List (List Char)} {word front back : List Char}

theorem breaksAfter_append_left :
    BreaksAfter (first ++ second) (first.flatten ++ front) ↔ BreaksAfter second front := by
  constructor
  · rintro ⟨before, after, cut, same⟩
    rcases List.append_eq_append_iff.1 cut with ⟨others, rfl, rfl⟩ | ⟨others, rfl, rfl⟩
    · exact ⟨others, after, rfl, by simpa using same⟩
    · -- The break comes before the end of the first words, so nothing is in between.
      have none_ : others.flatten ++ front = [] := by simpa using same
      exact ⟨[], second, rfl, (List.append_eq_nil_iff.1 none_).2.symm⟩
  · rintro ⟨before, after, rfl, rfl⟩
    exact ⟨first ++ before, after, by simp, by simp⟩

theorem breaksAfter_append_right (whole : first.flatten = front ++ back) :
    BreaksAfter (first ++ second) front ↔ BreaksAfter first front := by
  constructor
  · rintro ⟨before, after, cut, same⟩
    rcases List.append_eq_append_iff.1 cut with ⟨others, rfl, rfl⟩ | ⟨others, rfl, rfl⟩
    · have none_ : others.flatten = [] := by
        rw [List.flatten_append, ← List.append_nil first.flatten, whole] at same
        have := congrArg List.length same
        simp only [List.append_nil, List.length_append] at this
        exact List.length_eq_zero_iff.1 (by omega)
      exact ⟨first, [], by simp, by simpa [none_] using same⟩
    · exact ⟨before, others, rfl, same⟩
  · rintro ⟨before, after, rfl, rfl⟩
    exact ⟨before, after ++ second, by simp, rfl⟩

/-- Inside of its first word, a list of words has no break. -/
theorem not_breaksAfter_cons (front_ne : front ≠ []) (inside : front.length < word.length) :
    ¬BreaksAfter (word :: words) front := by
  rintro ⟨before, after, cut, rfl⟩
  cases before with
  | nil => exact front_ne rfl
  | cons first before =>
    obtain ⟨rfl, -⟩ := List.cons.inj cut
    simp only [List.flatten_cons, List.length_append] at inside
    omega

theorem breaksAfter_head (word : List Char) (words : List (List Char)) :
    BreaksAfter (word :: words) word :=
  ⟨[word], words, rfl, by simp⟩

/-- Where there is a break at the end of another first word, no more of this one follows. -/
theorem eq_nil_of_breaksAfter {rest : List Char} (given : word ≠ [])
    (breaks : rest ≠ [] → BreaksAfter ((word ++ rest) :: words) word) : rest = [] := by
  by_contra more
  exact not_breaksAfter_cons given (by simpa using List.length_pos_of_ne_nil more) (breaks more)

/-- Words that make up the same text with the same breaks are the same words. -/
theorem eq_of_breaksAfter (left : ∀ word ∈ first, word ≠ []) (right : ∀ word ∈ second, word ≠ [])
    (whole : first.flatten = second.flatten)
    (breaks : ∀ front back, first.flatten = front ++ back → front ≠ [] → back ≠ [] →
      (BreaksAfter first front ↔ BreaksAfter second front)) : first = second := by
  induction first generalizing second with
  | nil =>
    cases second with
    | nil => rfl
    | cons v second =>
      rw [List.flatten_cons] at whole
      exact absurd (List.append_eq_nil_iff.1 whole.symm).1 (right v List.mem_cons_self)
  | cons w first ih =>
    cases second with
    | nil =>
      rw [List.flatten_cons] at whole
      exact absurd (List.append_eq_nil_iff.1 whole).1 (left w List.mem_cons_self)
    | cons v second =>
      obtain ⟨givenW, restLeft⟩ := List.forall_mem_cons.1 left
      obtain ⟨givenV, restRight⟩ := List.forall_mem_cons.1 right
      rw [List.flatten_cons, List.flatten_cons] at whole
      -- The shorter of the two first words would end inside of the longer one.
      have heads : w = v := by
        rcases List.append_eq_append_iff.1 whole with ⟨rest, rfl, same⟩ | ⟨rest, rfl, same⟩
        · have none_ : rest = [] := eq_nil_of_breaksAfter givenW fun more =>
            (breaks w (rest ++ second.flatten) (by simp [same]) givenW (by simp [more])).1
              (breaksAfter_head w first)
          rw [none_, List.append_nil]
        · have none_ : rest = [] := eq_nil_of_breaksAfter givenV fun more =>
            (breaks v (rest ++ first.flatten) (by simp) givenV (by simp [more])).2
              (breaksAfter_head v second)
          rw [none_, List.append_nil]
      subst heads
      refine congrArg (w :: ·) (ih restLeft restRight (List.append_cancel_left whole) ?_)
      intro front back split some_ more
      have here := breaks (w ++ front) back (by simp [split]) (by simp [givenW]) more
      have headed (words : List (List Char)) :
          BreaksAfter (w :: words) (w ++ front) ↔ BreaksAfter words front := by
        simpa using @breaksAfter_append_left [w] words front
      rwa [headed, headed] at here

end Breaks

section Division
variable {gap : Char → Bool} {parts : Char → Char → List Char → Prop} {text : List Char}

theorem kept_append (first second : List Char) :
    kept gap (first ++ second) = kept gap first ++ kept gap second := List.filter_append ..

theorem kept_of_forall {run : List Char} (uncut : ∀ c ∈ run, gap c = false) : kept gap run = run :=
  List.filter_eq_self.2 fun c member => by simp [uncut c member]

theorem kept_cons_of_gap {cut : Char} (cuts : gap cut = true) (rest : List Char) :
    kept gap (cut :: rest) = kept gap rest := by
  simp [kept, cuts]

/-- Where the characters without the gaps are divided, the text has two neighbours. -/
theorem exists_neighbours {front back : List Char} (whole : kept gap text = front ++ back)
    (some_ : front ≠ []) (more : back ≠ []) :
    ∃ left between right p c, text = left ++ p :: (between ++ c :: right) ∧ gap p = false ∧
      gap c = false ∧ (∀ g ∈ between, gap g = true) ∧ front = kept gap left ++ [p] := by
  obtain ⟨front, p, rfl⟩ := List.eq_nil_or_concat front |>.resolve_left some_
  obtain ⟨c, back, rfl⟩ := List.exists_cons_of_ne_nil more
  rw [List.concat_eq_append, List.append_assoc, List.singleton_append, kept] at whole
  obtain ⟨before, rest, rfl, rfl, divided⟩ := List.filter_eq_append_iff.1 whole
  obtain ⟨skipped, rest, rfl, gaps, plainP, others⟩ := List.filter_eq_cons_iff.1 divided
  obtain ⟨between, right, rfl, gaps', plainC, -⟩ := List.filter_eq_cons_iff.1 others
  have nothing : kept gap skipped = [] := List.filter_eq_nil_iff.2 gaps
  refine ⟨before ++ skipped, between, right, p, c, by simp, by simpa using plainP,
    by simpa using plainC, fun g member => by simpa using gaps' g member, ?_⟩
  rw [List.concat_eq_append, kept_append, nothing, List.append_nil]
  rfl

theorem Divides.unique {first second : List (List Char)} (left : Divides gap parts text first)
    (right : Divides gap parts text second) : first = second := by
  refine eq_of_breaksAfter left.given right.given (left.whole.trans right.whole.symm) ?_
  intro front back split some_ more
  obtain ⟨before, between, after, p, c, rfl, plainP, plainC, gaps, rfl⟩ :=
    exists_neighbours (left.whole.symm.trans split) some_ more
  rw [left.breaks before between after p c rfl plainP plainC gaps,
    right.breaks before between after p c rfl plainP plainC gaps]

/-- The run of characters at the end of a text, and what is before it. -/
theorem exists_run_end (gap : Char → Bool) (text : List Char) : ∃ run, (∀ c ∈ run, gap c = false) ∧
    (text = run ∨ ∃ before cut, gap cut = true ∧ text = before ++ cut :: run) := by
  induction text with
  | nil => exact ⟨[], List.forall_mem_nil _, .inl rfl⟩
  | cons d text ih =>
    obtain ⟨run, uncut, rfl | ⟨before, cut, cuts, rfl⟩⟩ := ih
    · cases plain : gap d with
      | true => exact ⟨text, uncut, .inr ⟨[], d, plain, rfl⟩⟩
      | false => exact ⟨d :: text, List.forall_mem_cons.2 ⟨plain, uncut⟩, .inl rfl⟩
    · exact ⟨run, uncut, .inr ⟨d :: before, cut, cuts, rfl⟩⟩

/-- The run of characters at the beginning of a text, and what is after it. -/
theorem exists_run_start (gap : Char → Bool) (text : List Char) : ∃ run, (∀ c ∈ run, gap c = false) ∧
    (text = run ∨ ∃ cut after, gap cut = true ∧ text = run ++ cut :: after) := by
  obtain ⟨run, uncut, whole⟩ := exists_run_end gap text.reverse
  refine ⟨run.reverse, fun c member => uncut c (List.mem_reverse.1 member), ?_⟩
  rcases whole with whole | ⟨before, cut, cuts, whole⟩
  · exact .inl (by rw [← whole, List.reverse_reverse])
  · refine .inr ⟨cut, before.reverse, cuts, ?_⟩
    rw [← List.reverse_inj, whole]
    simp

/-- How a run without gaps is cut into words: `parts` says where, and does not look beyond the run. -/
structure Cuts (gap : Char → Bool) (parts : Char → Char → List Char → Prop)
    (cut : List Char → List (List Char)) : Prop where
  given : ∀ run ≠ [], ∀ word ∈ cut run, word ≠ []
  whole : ∀ run, (cut run).flatten = run
  breaks : ∀ left p c right, (∀ d ∈ left ++ p :: c :: right, gap d = false) →
    (BreaksAfter (cut (left ++ p :: c :: right)) (left ++ [p]) ↔ parts p c right)
  near : ∀ p c right sep after, gap sep = true →
    (parts p c (right ++ sep :: after) ↔ parts p c right)

variable {cut : List Char → List (List Char)}

theorem flatten_flatMap_fields (h : Cuts gap parts cut) (text : List Char) :
    ((fields gap text).flatMap cut).flatten = kept gap text := by
  rw [kept, ← flatten_fields, ← List.flatMap_id, List.flatMap_assoc, List.flatten_eq_flatMap]
  exact List.flatMap_congr fun run _ => by simpa using h.whole run

theorem flatMap_fields_append_cons {sep : Char} (cuts : gap sep = true) (before after : List Char) :
    (fields gap (before ++ sep :: after)).flatMap cut =
      (fields gap before).flatMap cut ++ (fields gap after).flatMap cut := by
  rw [fields_append_cons cuts, List.flatMap_append]

theorem flatMap_fields_of_forall {run : List Char} (uncut : ∀ c ∈ run, gap c = false)
    (some_ : run ≠ []) : (fields gap run).flatMap cut = cut run := by
  rw [fields_of_forall uncut, if_neg some_, List.flatMap_singleton]

/-- Neighbours of one run are parted where the run is cut between them, whatever stands around it. -/
theorem breaks_flatMap_fields (h : Cuts gap parts cut) {p c : Char} (plainP : gap p = false)
    (plainC : gap c = false) (left right : List Char) :
    BreaksAfter ((fields gap (left ++ p :: c :: right)).flatMap cut) (kept gap left ++ [p]) ↔
      parts p c right := by
  obtain ⟨start, uncutStart, atLeft⟩ := exists_run_end gap left
  obtain ⟨rest, uncutRest, atRight⟩ := exists_run_start gap right
  have uncut : ∀ d ∈ start ++ p :: c :: rest, gap d = false := by
    simpa [or_imp, forall_and, plainP, plainC] using ⟨uncutStart, uncutRest⟩
  have run : BreaksAfter ((fields gap (start ++ p :: c :: rest)).flatMap cut) (start ++ [p]) ↔
      parts p c rest := by
    rw [flatMap_fields_of_forall uncut (by simp), h.breaks start p c rest uncut]
  -- What follows the run comes after the break.
  have toRight : BreaksAfter ((fields gap (start ++ p :: c :: right)).flatMap cut) (start ++ [p]) ↔
      parts p c right := by
    rcases atRight with rfl | ⟨sep, after, cuts, rfl⟩
    · exact run
    · have whole : ((fields gap (start ++ p :: c :: rest)).flatMap cut).flatten =
          (start ++ [p]) ++ c :: rest := by
        rw [flatten_flatMap_fields h, kept_of_forall uncut]
        simp
      have cutAt : start ++ p :: c :: (rest ++ sep :: after) =
          (start ++ p :: c :: rest) ++ sep :: after := by simp
      rw [cutAt, flatMap_fields_append_cons cuts, breaksAfter_append_right whole, run,
        h.near p c rest sep after cuts]
  -- What precedes it is a front of its own.
  rcases atLeft with rfl | ⟨before, sep, cuts, rfl⟩
  · rw [kept_of_forall uncutStart, toRight]
  · rw [List.append_assoc, List.cons_append, flatMap_fields_append_cons cuts, kept_append,
      kept_cons_of_gap cuts, kept_of_forall uncutStart, List.append_assoc,
      ← flatten_flatMap_fields h, breaksAfter_append_left, toRight]

/-- A text is divided by cutting the runs between its gaps. -/
theorem divides_flatMap_fields (h : Cuts gap parts cut) (text : List Char) :
    Divides gap parts text ((fields gap text).flatMap cut) where
  given word member := by
    obtain ⟨run, listed, inside⟩ := List.mem_flatMap.1 member
    exact h.given run (by simpa using (List.mem_filter.1 listed).2) word inside
  free word member c inside := by
    have held : c ∈ kept gap text :=
      flatten_flatMap_fields h text ▸ List.mem_flatten.2 ⟨word, member, inside⟩
    simpa using (List.mem_filter.1 held).2
  whole := flatten_flatMap_fields h text
  breaks left between right p c same plainP plainC gaps := by
    subst same
    cases between with
    | nil => simpa using breaks_flatMap_fields h plainP plainC left right
    | cons sep between =>
      have cuts : gap sep = true := gaps sep List.mem_cons_self
      have cutAt : left ++ p :: (sep :: between ++ c :: right) =
          (left ++ [p]) ++ sep :: (between ++ c :: right) := by simp
      have whole : kept gap left ++ [p] = kept gap (left ++ [p]) := by
        rw [kept_append, @kept_of_forall gap [p] (by simpa using plainP)]
      refine iff_of_true ?_ (.inl (List.cons_ne_nil _ _))
      rw [cutAt, flatMap_fields_append_cons cuts, whole]
      exact ⟨_, _, rfl, flatten_flatMap_fields h _⟩

/-- The runs between the gaps are the words when no neighbours part. -/
theorem divides_fields (gap : Char → Bool) (text : List Char) :
    Divides gap (fun _ _ _ => False) text (fields gap text) := by
  have whole : Cuts gap (fun _ _ _ => False) fun run => [run] := by
    refine ⟨?_, fun run => by simp, fun left p c right _ => ?_, fun _ _ _ _ _ _ => Iff.rfl⟩
    · simp
    · exact iff_of_false (not_breaksAfter_cons (by simp) (by simp)) id
  simpa using divides_flatMap_fields whole text

end Division

end Bindings.Text
