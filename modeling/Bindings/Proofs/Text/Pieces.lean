import Bindings.Text.Split

/-! The pieces of a text, from the pieces of its parts. -/

set_option autoImplicit false

namespace Bindings.Text

variable {p : Char → Bool}

theorem splitWhere_append_cons {cut : Char} (cuts : p cut = true) (before after : List Char) :
    splitWhere p (before ++ cut :: after) = splitWhere p before ++ splitWhere p after := by
  induction before with
  | nil => simp [splitWhere, cuts]
  | cons c before ih =>
    rw [List.cons_append, splitWhere, splitWhere, ih]
    cases pieces : splitWhere p before with
    | nil => exact absurd pieces (splitWhere_ne_nil p before)
    | cons piece pieces => split <;> rfl

theorem fields_append_cons {cut : Char} (cuts : p cut = true) (before after : List Char) :
    fields p (before ++ cut :: after) = fields p before ++ fields p after := by
  rw [fields, splitWhere_append_cons cuts, List.filter_append, ← fields, ← fields]

/-- A piece holds characters of its text only. -/
theorem subset_of_mem_splitWhere {text piece : List Char} (member : piece ∈ splitWhere p text) :
    piece ⊆ text := by
  induction text generalizing piece with
  | nil =>
    rw [splitWhere, List.mem_singleton] at member
    exact member ▸ List.Subset.refl _
  | cons c rest ih =>
    rw [splitWhere] at member
    split at member
    · rcases List.mem_cons.1 member with rfl | member
      · exact List.nil_subset _
      · exact List.subset_cons_of_subset c (ih member)
    · split at member
      · next none_ => exact absurd none_ (splitWhere_ne_nil p rest)
      · next first others split =>
        rcases List.mem_cons.1 member with rfl | member
        · exact List.cons_subset_cons c (ih (split ▸ List.mem_cons_self))
        · exact List.subset_cons_of_subset c (ih (split ▸ List.mem_cons_of_mem first member))

/-- No piece holds a cut. -/
theorem forall_of_mem_splitWhere {text piece : List Char} (member : piece ∈ splitWhere p text) :
    ∀ c ∈ piece, p c = false := by
  induction text generalizing piece with
  | nil =>
    rw [splitWhere, List.mem_singleton] at member
    rw [member]
    exact List.forall_mem_nil _
  | cons c rest ih =>
    rw [splitWhere] at member
    split at member
    · rcases List.mem_cons.1 member with rfl | member
      · exact List.forall_mem_nil _
      · exact ih member
    · next plain =>
      split at member
      · next none_ => exact absurd none_ (splitWhere_ne_nil p rest)
      · next first others split =>
        rcases List.mem_cons.1 member with rfl | member
        · exact List.forall_mem_cons.2 ⟨eq_false_of_ne_true plain, ih (split ▸ List.mem_cons_self)⟩
        · exact ih (split ▸ List.mem_cons_of_mem first member)

theorem splitWhere_of_forall {text : List Char} (uncut : ∀ c ∈ text, p c = false) :
    splitWhere p text = [text] := by
  induction text with
  | nil => rfl
  | cons c rest ih =>
    obtain ⟨kept, others⟩ := List.forall_mem_cons.1 uncut
    simp [splitWhere, kept, ih others]

/-- Lines that are joined are the lines again. -/
theorem splitWhere_intercalate {cut : Char} (cuts : p cut = true) {pieces : List (List Char)}
    (given : pieces ≠ []) (uncut : ∀ piece ∈ pieces, ∀ c ∈ piece, p c = false) :
    splitWhere p ([cut].intercalate pieces) = pieces := by
  induction pieces with
  | nil => exact absurd rfl given
  | cons piece others ih =>
    obtain ⟨now, later⟩ := List.forall_mem_cons.1 uncut
    cases others with
    | nil => rw [List.intercalate_singleton, splitWhere_of_forall now]
    | cons next others =>
      rw [List.intercalate_cons_cons, List.append_assoc, List.singleton_append,
        splitWhere_append_cons cuts, splitWhere_of_forall now, ih (List.cons_ne_nil _ _) later,
        List.singleton_append]

theorem fields_intercalate {cut : Char} (cuts : p cut = true) {pieces : List (List Char)}
    (given : ∀ piece ∈ pieces, piece ≠ []) (uncut : ∀ piece ∈ pieces, ∀ c ∈ piece, p c = false) :
    fields p ([cut].intercalate pieces) = pieces := by
  have kept : pieces.filter (fun piece => !piece.isEmpty) = pieces :=
    List.filter_eq_self.2 fun piece member => by simpa using given piece member
  cases pieces with
  | nil => rfl
  | cons piece others => rw [fields, splitWhere_intercalate cuts (List.cons_ne_nil _ _) uncut, kept]

theorem fields_of_forall {text : List Char} (uncut : ∀ c ∈ text, p c = false) :
    fields p text = if text = [] then [] else [text] := by
  rw [fields, splitWhere_of_forall uncut]
  cases text <;> rfl

theorem flatten_splitWhere (p : Char → Bool) (text : List Char) :
    (splitWhere p text).flatten = text.filter fun c => !p c := by
  induction text with
  | nil => rfl
  | cons c rest ih =>
    rw [splitWhere]
    split
    · next cut => simp [cut, ih]
    · next kept =>
      split
      · next none_ => exact absurd none_ (splitWhere_ne_nil p rest)
      · next piece pieces split =>
        rw [split] at ih
        simp [kept, ← ih]

theorem flatten_fields (p : Char → Bool) (text : List Char) :
    (fields p text).flatten = text.filter fun c => !p c := by
  rw [fields, List.flatten_filter_not_isEmpty, flatten_splitWhere]

end Bindings.Text
