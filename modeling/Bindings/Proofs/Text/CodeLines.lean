import Bindings.Proofs.Text.Pieces

/-! The lines of a source that are not comments.

Two pieces of a source are alike when either may stand for the other without a change to these
lines. How much has to be known of the place where they stand makes the difference between the three
relations here: a piece inside a line, a piece that begins one, and a piece of whole lines.
-/

set_option autoImplicit false

namespace Bindings.Text

def isComment (line : List Char) : Bool :=
  ['/', '/'].isPrefixOf (line.dropWhile (· == '\t'))

def codeLines (text : List Char) : List (List Char) :=
  (splitWhere (· == '\n') text).filter fun line => !isComment line

theorem codeLines_append_newline (before after : List Char) :
    codeLines (before ++ '\n' :: after) = codeLines before ++ codeLines after := by
  rw [codeLines, splitWhere_append_cons (by decide), List.filter_append, ← codeLines, ← codeLines]

theorem codeLines_comment {line : List Char} (comment : isComment line = true)
    (unbroken : '\n' ∉ line) (after : List Char) :
    codeLines (line ++ '\n' :: after) = codeLines after := by
  have uncut : ∀ c ∈ line, (c == '\n') = false := fun c member =>
    beq_false_of_ne fun same => unbroken (same ▸ member)
  rw [codeLines_append_newline, codeLines, splitWhere_of_forall uncut]
  simp [comment]

def Alike (first second : List Char) : Prop :=
  ∀ before after, codeLines (before ++ first ++ after) = codeLines (before ++ second ++ after)

def AlikeAhead (first second : List Char) : Prop :=
  ∀ after, codeLines (first ++ after) = codeLines (second ++ after)

def AlikeLines (first second : List Char) : Prop :=
  ∀ u v, AlikeAhead u v → AlikeAhead (first ++ u) (second ++ v)

section
variable {a b u v : List Char}

theorem Alike.refl (text : List Char) : Alike text text := fun _ _ => rfl

theorem Alike.append (first : Alike a b) (second : Alike u v) : Alike (a ++ u) (b ++ v) := by
  intro before after
  have left := first before (u ++ after)
  have right := second (before ++ b) after
  simp only [List.append_assoc] at left right ⊢
  rw [left, right]

theorem Alike.ahead (h : Alike a b) : AlikeAhead a b := fun after => h [] after

/-- After a line feed a line begins. -/
theorem AlikeAhead.newline (h : AlikeAhead a b) : Alike ('\n' :: a) ('\n' :: b) := by
  intro before after
  simp only [List.append_assoc, List.cons_append, codeLines_append_newline, h after]

namespace AlikeLines

theorem nil : AlikeLines [] [] := fun _ _ rest => rest

theorem append (first : AlikeLines a b) (second : AlikeLines u v) :
    AlikeLines (a ++ u) (b ++ v) := by
  intro x y rest
  rw [List.append_assoc, List.append_assoc]
  exact first _ _ (second x y rest)

/-- A line, or several, with code to the last one's end. -/
theorem line (h : Alike a b) : AlikeLines (a ++ ['\n']) (b ++ ['\n']) := by
  intro x y rest
  rw [List.append_assoc, List.append_assoc]
  exact (h.append rest.newline).ahead

theorem comment {line : List Char} (marked : isComment line = true) (unbroken : '\n' ∉ line) :
    AlikeLines (line ++ ['\n']) [] := by
  intro x y rest after
  rw [List.append_assoc, List.append_assoc, List.nil_append, ← rest after]
  exact codeLines_comment marked unbroken (x ++ after)

theorem symm (h : AlikeLines a b) : AlikeLines b a :=
  fun u v rest after => (h v u (fun later => (rest later).symm) after).symm

theorem trans {c : List Char} (first : AlikeLines a b) (second : AlikeLines b c) :
    AlikeLines a c :=
  fun u v rest after => (first u u (fun _ => rfl) after).trans (second u v rest after)

theorem ahead (h : AlikeLines a b) (rest : Alike u v) : AlikeAhead (a ++ u) (b ++ v) :=
  h u v rest.ahead

theorem codeLines_eq (h : AlikeLines a b) : codeLines a = codeLines b := by
  simpa using h.ahead (.refl []) []

end AlikeLines

end

end Bindings.Text
