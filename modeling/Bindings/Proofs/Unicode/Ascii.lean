import Bindings.Unicode.Case

/-! Letter case on ASCII, where it is a matter of 128 characters. -/

set_option autoImplicit false

namespace Bindings.Unicode

/-- What holds of the first 128 code points holds of every ASCII character. -/
theorem of_isAscii {P : Char → Prop} (all : ∀ n < 128, P (Char.ofNat n)) {c : Char}
    (ascii : isAscii c = true) : P c := by
  rw [← Char.ofNat_toNat c]
  exact all c.toNat (by simpa [isAscii] using ascii)

def AsciiText (text : List Char) : Prop := ∀ c ∈ text, isAscii c = true

instance : DecidablePred AsciiText := List.decidableBAll (isAscii · = true)

section
variable {first second text : List Char}

theorem AsciiText.subset (ascii : AsciiText second) (sub : first ⊆ second) : AsciiText first :=
  fun c member => ascii c (sub member)

theorem uppercase_of_ascii (ascii : AsciiText text) : uppercase text = text.map Char.toUpper := by
  rw [uppercase]
  induction text with
  | nil => rfl
  | cons c rest ih =>
    obtain ⟨now, later⟩ := List.forall_mem_cons.1 ascii
    rw [List.flatMap_cons, upper_of_isAscii now, ih later, List.map_cons, List.singleton_append]

theorem lowercase_of_ascii (ascii : AsciiText text) : lowercase text = text.map Char.toLower := by
  have after : ∀ before, lowercaseAfter before text = text.map Char.toLower := by
    induction text with
    | nil => intro before; rfl
    | cons c rest ih =>
      intro before
      obtain ⟨now, later⟩ := List.forall_mem_cons.1 ascii
      -- The one letter whose image depends on its place is no ASCII character.
      have other : c ≠ 'Σ' := by
        rintro rfl
        exact absurd now (by decide)
      simp only [lowercaseAfter, if_neg other, lower_of_isAscii now, ih later, List.map_cons,
        List.singleton_append]
  exact after []

/-- Small letters are the same again in small letters. -/
theorem asciiLowercase_lowercase (ascii : AsciiText text) :
    asciiLowercase (lowercase text) = asciiLowercase text := by
  rw [lowercase_of_ascii ascii, asciiLowercase, asciiLowercase, List.map_map]
  refine List.map_congr_left fun c member => ?_
  exact of_isAscii (P := fun c => c.toLower.toLower = c.toLower) (by decide) (ascii c member)

end

end Bindings.Unicode
