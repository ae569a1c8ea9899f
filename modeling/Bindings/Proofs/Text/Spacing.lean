import Bindings.Text.Description
import Mathlib.Data.List.Infix
import Mathlib.Data.List.TakeWhile

/-! White space in a line: none at its ends, and single spaces inside of it. -/

set_option autoImplicit false

namespace Bindings.Text

open Unicode (isBlank trim trimStart trimEnd dropWhileEnd)

/-- Something stands twice in a row at the front of a list or further on. -/
theorem infix_pair_cons_iff {α : Type} {x y : α} {ys : List α} :
    [x, x] <:+: y :: ys ↔ y = x ∧ ys.head? = some x ∨ [x, x] <:+: ys := by
  rw [List.infix_cons_iff, List.cons_prefix_cons, List.singleton_prefix_iff_head?_eq_some, eq_comm]

theorem not_infix_pair_append {α : Type} {x y : α} {ys : List α} (other : y ≠ x)
    (absent : ¬[x, x] <:+: ys) : ¬[x, x] <:+: ys ++ [y] := by
  rw [List.infix_concat_iff]
  refine not_or.2 ⟨?_, absent⟩
  rintro ⟨start, same⟩
  have last := congrArg List.getLast? same
  rw [List.getLast?_concat, List.getLast?_append_cons] at last
  exact other (Option.some.inj last).symm

section DropWhile
variable {α : Type} {p : α → Bool} {xs : List α}

theorem head?_dropWhile : ∀ x ∈ (xs.dropWhile p).head?, p x = false := by
  intro x first
  have stops := List.head?_dropWhile_not p xs
  rwa [Option.mem_def.1 first] at stops

theorem dropWhile_eq_self (first : ∀ x ∈ xs.head?, p x = false) : xs.dropWhile p = xs := by
  cases xs with
  | nil => rfl
  | cons x xs => exact List.dropWhile_cons_of_neg (ne_true_of_eq_false (first x rfl))

theorem forall_mem_dropWhile_iff : (∀ x ∈ xs.dropWhile p, p x = true) ↔ ∀ x ∈ xs, p x = true := by
  constructor
  · intro rest x member
    rw [← List.takeWhile_append_dropWhile (p := p) (l := xs)] at member
    exact (List.mem_append.1 member).elim List.mem_takeWhile_imp (rest x)
  · exact fun all x member => all x ((List.dropWhile_sublist p).subset member)

end DropWhile

structure Trimmed (text : List Char) : Prop where
  first : ∀ c ∈ text.head?, isBlank c = false
  last : ∀ c ∈ text.getLast?, isBlank c = false

structure Spaced (text : List Char) : Prop where
  tabless : '\t' ∉ text
  single : ¬[' ', ' '] <:+: text

section
variable {c : Char} {text rest : List Char}

theorem trimmed_trim (text : List Char) : Trimmed (trim text) where
  first c first := by
    have inside : trim text <+: text.dropWhile isBlank := by
      rw [← List.reverse_suffix, trim, trimEnd, dropWhileEnd, List.reverse_reverse]
      exact List.dropWhile_suffix _
    obtain ⟨rest, same⟩ := inside
    refine head?_dropWhile c (?_ : c ∈ (text.dropWhile isBlank).head?)
    rw [← same, List.head?_append, Option.mem_def.1 first]
    rfl
  last c last := by
    rw [trim, trimEnd, dropWhileEnd, List.getLast?_reverse] at last
    exact head?_dropWhile c last

theorem trim_eq_self (trimmed : Trimmed text) : trim text = text := by
  have back : ∀ c ∈ text.reverse.head?, isBlank c = false := by
    rw [List.head?_reverse]
    exact trimmed.last
  rw [trim, trimStart, dropWhile_eq_self trimmed.first, trimEnd, dropWhileEnd, dropWhile_eq_self back,
    List.reverse_reverse]

theorem trim_eq_nil_iff : trim text = [] ↔ ∀ c ∈ text, isBlank c = true := by
  rw [trim, trimEnd, dropWhileEnd, List.reverse_eq_nil_iff, List.dropWhile_eq_nil_iff, trimStart]
  simp only [List.mem_reverse, forall_mem_dropWhile_iff]

/-- A space or a tab adds a space where none follows, and all else is kept. -/
theorem squeeze_cases (c : Char) (rest : List Char) :
    (c = ' ' ∨ c = '\t') ∧ (squeeze rest).head? = some ' ' ∧ squeeze (c :: rest) = squeeze rest ∨
      (c = ' ' ∨ c = '\t') ∧ (squeeze rest).head? ≠ some ' ' ∧
        squeeze (c :: rest) = ' ' :: squeeze rest ∨
      (c ≠ ' ' ∧ c ≠ '\t') ∧ squeeze (c :: rest) = c :: squeeze rest := by
  by_cases gap : c = ' ' ∨ c = '\t'
  · rw [squeeze, if_pos (by simpa using gap)]
    split
    · next squeezed same => exact .inl ⟨gap, by rw [same]; rfl, same.symm⟩
    · next other =>
      refine .inr (.inl ⟨gap, fun first => ?_, rfl⟩)
      obtain ⟨squeezed, same⟩ := List.head?_eq_some_iff.1 first
      exact other squeezed same
  · rw [squeeze, if_neg (by simpa using gap)]
    exact .inr (.inr ⟨not_or.1 gap, rfl⟩)

theorem squeeze_eq_nil_iff : squeeze text = [] ↔ text = [] := by
  cases text with
  | nil => simp [squeeze]
  | cons c rest =>
    refine iff_of_false ?_ (List.cons_ne_nil _ _)
    rcases squeeze_cases c rest with ⟨-, first, same⟩ | ⟨-, -, same⟩ | ⟨-, same⟩
    · rw [same]
      intro nothing
      rw [nothing] at first
      cases first
    · rw [same]
      exact List.cons_ne_nil _ _
    · rw [same]
      exact List.cons_ne_nil _ _

theorem spaced_squeeze (text : List Char) : Spaced (squeeze text) where
  tabless := by
    induction text with
    | nil => exact List.not_mem_nil
    | cons c rest ih =>
      rcases squeeze_cases c rest with ⟨-, -, same⟩ | ⟨-, -, same⟩ | ⟨⟨-, tab⟩, same⟩
      · rwa [same]
      · simpa [same] using ih
      · simpa [same, Ne.symm tab] using ih
  single := by
    induction text with
    | nil => decide
    | cons c rest ih =>
      rcases squeeze_cases c rest with ⟨-, -, same⟩ | ⟨-, other, same⟩ | ⟨⟨space, -⟩, same⟩
      · rwa [same]
      · rw [same, infix_pair_cons_iff]
        exact not_or.2 ⟨fun pair => other pair.2, ih⟩
      · rw [same, infix_pair_cons_iff]
        exact not_or.2 ⟨fun pair => space pair.1, ih⟩

theorem squeeze_eq_self (spaced : Spaced text) : squeeze text = text := by
  obtain ⟨tabless, single⟩ := spaced
  induction text with
  | nil => rfl
  | cons c rest ih =>
    obtain ⟨tab, others⟩ := not_or.1 (fun h => tabless (List.mem_cons.2 h))
    obtain ⟨apart, single⟩ := not_or.1 (infix_pair_cons_iff.not.1 single)
    have later := ih others single
    rcases squeeze_cases c rest with ⟨gap, first, -⟩ | ⟨gap, -, same⟩ | ⟨-, same⟩
    · have space := gap.resolve_right (Ne.symm tab)
      rw [later] at first
      exact absurd ⟨space, first⟩ apart
    · rw [same, later, gap.resolve_right (Ne.symm tab)]
    · rw [same, later]

theorem squeeze_cons_of_not_isBlank (plain : isBlank c = false) :
    squeeze (c :: rest) = c :: squeeze rest := by
  have other : ¬(c = ' ' ∨ c = '\t') := by
    rintro (rfl | rfl) <;> exact absurd plain (by decide)
  rcases squeeze_cases c rest with ⟨gap, -⟩ | ⟨gap, -⟩ | ⟨-, same⟩
  · exact absurd gap other
  · exact absurd gap other
  · exact same

theorem exists_squeeze_append (plain : isBlank c = false) (start : List Char) :
    ∃ front, squeeze (start ++ [c]) = front ++ [c] := by
  induction start with
  | nil => exact ⟨[], squeeze_cons_of_not_isBlank plain⟩
  | cons d start ih =>
    obtain ⟨front, later⟩ := ih
    rw [List.cons_append]
    rcases squeeze_cases d (start ++ [c]) with ⟨-, -, same⟩ | ⟨-, -, same⟩ | ⟨-, same⟩
    · exact ⟨front, same.trans later⟩
    · exact ⟨' ' :: front, by rw [same, later, List.cons_append]⟩
    · exact ⟨d :: front, by rw [same, later, List.cons_append]⟩

theorem Trimmed.squeeze (trimmed : Trimmed text) : Trimmed (squeeze text) where
  first c first := by
    cases text with
    | nil => cases first
    | cons d rest =>
      have plain := trimmed.first d rfl
      rw [squeeze_cons_of_not_isBlank plain] at first
      rwa [← Option.some.inj first]
  last c last := by
    rcases List.eq_nil_or_concat' text with rfl | ⟨start, d, rfl⟩
    · cases last
    · have plain := trimmed.last d (by simp)
      obtain ⟨front, same⟩ := exists_squeeze_append plain start
      rw [same, List.getLast?_concat] at last
      rwa [← Option.some.inj last]

end

end Bindings.Text
