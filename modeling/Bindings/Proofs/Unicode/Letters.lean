import Bindings.Proofs.Unicode.Ascii
import Mathlib

/-! Texts of ASCII letters and digits.

There are only so many characters, so that a statement about all of them could be checked on each one.
What holds in a text is checked along the text instead.
-/

set_option autoImplicit false

namespace Bindings.Unicode

section
variable {P : Char → Prop} [DecidablePred P]

instance decidableForallText (text : List Char) : Decidable (∀ c ∈ text, P c) :=
  List.decidableBAll P text

instance decidableForallLetter (letter : Option Char) : Decidable (∀ c ∈ letter, P c) :=
  Option.decidableForallMem letter

end

def AlnumText (text : List Char) : Prop := ∀ c ∈ text, c.isAlphanum = true

instance : DecidablePred AlnumText := fun text => decidableForallText text

section
variable {c d : Char} {first second text : List Char}

/-- Small letters come from letters only. -/
theorem eq_of_toLower_eq (small : d.isLower = false) (same : c.toLower = d) : c = d := by
  by_cases capital : c.isUpper = true
  · have letter : c.toLower.isLower = true := by
      rw [Char.isLower_toLower_eq_isAlpha, Char.isAlpha, capital, Bool.true_or]
    rw [same, small] at letter
    cases letter
  · rwa [Char.toLower_eq_of_not_isUpper capital] at same

theorem isAlphanum_cases (alnum : c.isAlphanum = true) :
    c.isUpper = true ∨ c.isLower = true ∨ c.isDigit = true := by
  simpa [Char.isAlphanum, Char.isAlpha, or_assoc] using alnum

theorem isAscii_of_isAlphanum (alnum : c.isAlphanum = true) : isAscii c = true := by
  simp only [Char.isAlphanum, Char.isAlpha, Char.isUpper, Char.isLower, Char.isDigit, Bool.or_eq_true,
    Bool.and_eq_true, decide_eq_true_eq, ge_iff_le, UInt32.le_iff_toNat_le] at alnum
  rw [isAscii, decide_eq_true_eq]
  simp at alnum
  omega

theorem isUppercase_of_isAlphanum (alnum : c.isAlphanum = true) : isUppercase c = c.isUpper :=
  isUppercase_of_isAscii (isAscii_of_isAlphanum alnum)

theorem isLowercase_of_isAlphanum (alnum : c.isAlphanum = true) : isLowercase c = c.isLower :=
  isLowercase_of_isAscii (isAscii_of_isAlphanum alnum)

theorem isAlphanum_of_isUpper (capital : c.isUpper = true) : c.isAlphanum = true := by
  simp [Char.isAlphanum, Char.isAlpha, capital]

theorem isAlphanum_of_isLower (small : c.isLower = true) : c.isAlphanum = true := by
  simp [Char.isAlphanum, Char.isAlpha, small]

theorem isAlphanum_of_isDigit (digit : c.isDigit = true) : c.isAlphanum = true := by
  simp [Char.isAlphanum, digit]

theorem isUpper_toUpper_of_isLower (small : c.isLower = true) : c.toUpper.isUpper = true :=
  of_isAscii (P := fun c => c.isLower = true → c.toUpper.isUpper = true) (by decide)
    (isAscii_of_isAlphanum (isAlphanum_of_isLower small)) small

theorem isAlphanum_toLower (alnum : c.isAlphanum = true) : c.toLower.isAlphanum = true :=
  of_isAscii (P := fun c => c.isAlphanum = true → c.toLower.isAlphanum = true) (by decide)
    (isAscii_of_isAlphanum alnum) alnum

theorem isAlphanum_toUpper (alnum : c.isAlphanum = true) : c.toUpper.isAlphanum = true :=
  of_isAscii (P := fun c => c.isAlphanum = true → c.toUpper.isAlphanum = true) (by decide)
    (isAscii_of_isAlphanum alnum) alnum

theorem isUpper_toUpper_iff (alnum : c.isAlphanum = true) :
    c.toUpper.isUpper = true ↔ c.isDigit = false :=
  of_isAscii (P := fun c => c.isAlphanum = true → (c.toUpper.isUpper = true ↔ c.isDigit = false))
    (by decide) (isAscii_of_isAlphanum alnum) alnum

theorem isLower_eq_false_of_isUpper (capital : c.isUpper = true) : c.isLower = false :=
  eq_false_of_ne_true (Char.not_isLower_of_isUpper capital)

theorem toUpper_of_not_isLower (other : c.isLower = false) : c.toUpper = c :=
  Char.toUpper_eq_of_not_isLower (ne_true_of_eq_false other)

theorem toLower_toUpper_of_not_isUpper (other : c.isUpper = false) : c.toUpper.toLower = c := by
  rw [Char.toLower_toUpper_eq_toLower, Char.toLower_eq_of_not_isUpper (ne_true_of_eq_false other)]

theorem map_toUpper_eq_self (others : ∀ c ∈ text, c.isLower = false) :
    text.map Char.toUpper = text := by
  have same : ∀ c ∈ text, c.toUpper = id c :=
    fun c member => toUpper_of_not_isLower (others c member)
  rw [List.map_congr_left same, List.map_id]

theorem map_toLower_map_toUpper (others : ∀ c ∈ text, c.isUpper = false) :
    (text.map Char.toUpper).map Char.toLower = text := by
  have same : ∀ c ∈ text, (Char.toLower ∘ Char.toUpper) c = id c :=
    fun c member => toLower_toUpper_of_not_isUpper (others c member)
  rw [List.map_map, List.map_congr_left same, List.map_id]

theorem alnumText_append : AlnumText (first ++ second) ↔ AlnumText first ∧ AlnumText second := by
  simp only [AlnumText, List.mem_append, or_imp, forall_and]

theorem alnumText_cons : AlnumText (c :: text) ↔ c.isAlphanum = true ∧ AlnumText text := by
  simp only [AlnumText, List.mem_cons, or_imp, forall_and, forall_eq]

theorem AlnumText.subset (alnum : AlnumText second) (sub : first ⊆ second) : AlnumText first :=
  fun c member => alnum c (sub member)

theorem AlnumText.ascii (alnum : AlnumText text) : AsciiText text :=
  fun c member => isAscii_of_isAlphanum (alnum c member)

theorem AlnumText.lowercase (alnum : AlnumText text) : AlnumText (lowercase text) := by
  rw [lowercase_of_ascii alnum.ascii]
  exact List.forall_mem_map.2 fun c member => isAlphanum_toLower (alnum c member)

end

end Bindings.Unicode
