/-! Sorted lists of texts without repetition. -/

set_option autoImplicit false

namespace Bindings

/-- Insertion into a sorted list; an element that is there already stays. -/
def insertSorted (x : String) : List String → List String
  | [] => [x]
  | y :: ys => if x < y then x :: y :: ys else if x = y then y :: ys else y :: insertSorted x ys

theorem mem_insertSorted {x z : String} {ys : List String} :
    z ∈ insertSorted x ys ↔ z = x ∨ z ∈ ys := by
  induction ys with
  | nil => simp [insertSorted]
  | cons y ys ih =>
    rw [insertSorted]
    split
    · simp
    · split
      · simp_all
      · simp only [List.mem_cons, ih]
        exact or_left_comm

end Bindings
