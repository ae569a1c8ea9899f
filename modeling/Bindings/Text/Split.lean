/-! Cutting a text at characters, replacing runs, and finding one text inside another. -/

set_option autoImplicit false

namespace Bindings.Text

/-- The pieces between the characters that satisfy `p`; there is one more piece than cuts. -/
def splitWhere (p : Char → Bool) : List Char → List (List Char)
  | [] => [[]]
  | c :: rest =>
    if p c then [] :: splitWhere p rest
    else
      match splitWhere p rest with
      | [] => [[c]]
      | piece :: pieces => (c :: piece) :: pieces

def fields (p : Char → Bool) (text : List Char) : List (List Char) :=
  (splitWhere p text).filter fun piece => !piece.isEmpty

def occurs (pattern : List Char) : List Char → Bool
  | [] => pattern.isEmpty
  | c :: rest => pattern.isPrefixOf (c :: rest) || occurs pattern rest

def splitOnce? (cut : Char) : List Char → Option (List Char × List Char)
  | [] => none
  | c :: rest =>
    if c = cut then some ([], rest)
    else (splitOnce? cut rest).map fun halves => (c :: halves.1, halves.2)

def after? : (start text : List Char) → Option (List Char)
  | [], text => some text
  | _ :: _, [] => none
  | s :: start, c :: text => if s = c then after? start text else none

def before? (ending text : List Char) : Option (List Char) :=
  (after? ending.reverse text.reverse).map List.reverse

def joinLines (lines : List String) : String := "\n".intercalate lines

theorem splitWhere_ne_nil (p : Char → Bool) (text : List Char) : splitWhere p text ≠ [] := by
  cases text with
  | nil => simp [splitWhere]
  | cons c rest =>
    rw [splitWhere]
    split
    · simp
    · split <;> simp

theorem after?_eq_some {start text rest : List Char} :
    after? start text = some rest ↔ text = start ++ rest := by
  induction start generalizing text with
  | nil => simp [after?, eq_comm]
  | cons s start ih =>
    cases text with
    | nil => simp [after?]
    | cons c text =>
      by_cases h : s = c
      · simp [after?, h, ih]
      · simp [after?, h, eq_comm ]

theorem before?_eq_some {ending text rest : List Char} :
    before? ending text = some rest ↔ text = rest ++ ending := by
  simp only [before?, Option.map_eq_some_iff, after?_eq_some]
  constructor
  · rintro ⟨reversed, h, rfl⟩
    have := congrArg List.reverse h
    simpa using this
  · rintro rfl
    exact ⟨rest.reverse, by simp, by simp⟩

end Bindings.Text
