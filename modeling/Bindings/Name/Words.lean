import Bindings.Text.Split
import Bindings.Unicode.Case

/-! Words of an identifier.

Separators end a word. Inside a chunk a capital starts a word after a small letter
or a digit, and the last capital of a run starts one when a small letter follows it.
-/

set_option autoImplicit false

namespace Bindings.Name

open Unicode (isUppercase isLowercase)

def isSeparator (c : Char) : Bool := c == '-' || c == '_' || c == '.' || c == ' '

def startsWord (before c : Char) (after : Option Char) : Bool :=
  isUppercase c &&
    (isLowercase before || before.isDigit || (isUppercase before && after.any isLowercase))

def segment : List Char → List (List Char)
  | [] => []
  | [c] => [[c]]
  | before :: c :: rest =>
    match segment (c :: rest) with
    | [] => [[before]]
    | word :: words =>
      if startsWord before c rest.head? then [before] :: word :: words
      else (before :: word) :: words

def words (raw : List Char) : List (List Char) :=
  (Text.fields isSeparator raw).flatMap segment

theorem segment_ne_nil {c : Char} {rest : List Char} : segment (c :: rest) ≠ [] := by
  cases rest with
  | nil => simp [segment]
  | cons d rest =>
    rw [segment]
    split
    · simp
    · split <;> simp

theorem flatten_segment (text : List Char) : (segment text).flatten = text := by
  fun_induction segment text with
  | case1 => rfl
  | case2 c => rfl
  | case3 before c rest h ih => exact absurd h segment_ne_nil
  | case4 before c rest word words h hs ih => simp_all
  | case5 before c rest word words h hs ih => simp_all

end Bindings.Name
