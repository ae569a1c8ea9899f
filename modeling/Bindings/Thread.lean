import Bindings.Error

/-! Steps that hand a state on and may fail. -/

set_option autoImplicit false

namespace Bindings

variable {σ α β : Type}

/-- Run a step with each element in turn; the first error ends the run. -/
def thread (step : σ → α → Except Error (σ × β)) : σ → List α → Except Error (σ × List β)
  | state, [] => .ok (state, [])
  | state, x :: xs => do
    let (state, y) ← step state x
    let (state, ys) ← thread step state xs
    return (state, y :: ys)

def completed (step : σ → α → Except Error (σ × β)) : σ → List α → List α
  | _, [] => []
  | state, x :: xs =>
    match step state x with
    | .ok (state, _) => x :: completed step state xs
    | .error _ => []

theorem thread_cons {step : σ → α → Except Error (σ × β)} {state last : σ} {x : α} {xs : List α}
    {ys : List β} (h : thread step state (x :: xs) = .ok (last, ys)) :
    ∃ next y rest, step state x = .ok (next, y) ∧ thread step next xs = .ok (last, rest) ∧
      ys = y :: rest := by
  cases hx : step state x with
  | error e => simp [thread, hx, bind, Except.bind] at h
  | ok next =>
    cases hrest : thread step next.1 xs with
    | error e => simp [thread, hx, hrest, bind, Except.bind] at h
    | ok rest =>
      simp only [thread, hx, hrest, bind, Except.bind, pure, Except.pure, Except.ok.injEq,
        Prod.mk.injEq] at h
      exact ⟨next.1, next.2, rest.2, rfl, by rw [hrest, ← h.1], h.2.symm⟩

end Bindings
