import Bindings.Proofs.Threading

/-! Two computations that fail alike or succeed with related results. -/

set_option autoImplicit false

namespace Bindings

variable {α β γ δ σ τ : Type}

inductive Agrees (R : α → β → Prop) : Except Error α → Except Error β → Prop where
  | error (e : Error) : Agrees R (.error e) (.error e)
  | ok {a : α} {b : β} (related : R a b) : Agrees R (.ok a) (.ok b)

def Both (S : σ → τ → Prop) (T : α → β → Prop) (a : σ × α) (b : τ × β) : Prop :=
  S a.1 b.1 ∧ T a.2 b.2

namespace Agrees

variable {R : α → β → Prop} {S : σ → τ → Prop} {T : γ → δ → Prop}

/-- A computation agrees with itself where its results are related to themselves. -/
theorem self {R : α → α → Prop} (related : ∀ a, R a a) (x : Except Error α) : Agrees R x x := by
  cases x with
  | error e => exact .error e
  | ok a => exact .ok (related a)

theorem imp {R' : α → β → Prop} {x : Except Error α} {y : Except Error β}
    (weaker : ∀ a b, R a b → R' a b) (h : Agrees R x y) : Agrees R' x y := by
  cases h with
  | error e => exact .error e
  | ok related => exact .ok (weaker _ _ related)

theorem bind {x : Except Error α} {y : Except Error β} {f : α → Except Error γ}
    {g : β → Except Error δ} (h : Agrees R x y)
    (later : ∀ a b, R a b → Agrees T (f a) (g b)) : Agrees T (x >>= f) (y >>= g) := by
  cases h with
  | error e => exact .error e
  | ok related => exact later _ _ related

/-- A computation that both begin with. -/
theorem bind_self {x : Except Error α} {f : α → Except Error γ} {g : α → Except Error δ}
    (later : ∀ a, Agrees T (f a) (g a)) : Agrees T (x >>= f) (x >>= g) :=
  (self (R := Eq) (fun _ => rfl) x).bind fun a _ same => same ▸ later a

/-- Runs over lists of which the second one is made from the first. -/
theorem thread {step : σ → α → Except Error (σ × γ)} {step' : τ → β → Except Error (τ × δ)}
    {f : α → β} {xs : List α}
    (each : ∀ x ∈ xs, ∀ s t, S s t → Agrees (Both S T) (step s x) (step' t (f x))) {s : σ} {t : τ}
    (related : S s t) :
    Agrees (Both S (List.Forall₂ T)) (Bindings.thread step s xs)
      (Bindings.thread step' t (xs.map f)) := by
  induction xs generalizing s t with
  | nil => exact .ok ⟨related, .nil⟩
  | cons x xs ih =>
    rw [List.map_cons, Bindings.thread, Bindings.thread]
    refine (each x List.mem_cons_self s t related).bind fun next next' first => ?_
    refine (ih (fun y member => each y (List.mem_cons_of_mem x member)) first.1).bind
      fun rest rest' others => ?_
    exact .ok ⟨others.1, .cons first.2 others.2⟩

theorem mapM {f : α → β} {step : α → Except Error γ} {step' : β → Except Error δ} {xs : List α}
    (each : ∀ x ∈ xs, Agrees T (step x) (step' (f x))) :
    Agrees (List.Forall₂ T) (xs.mapM step) ((xs.map f).mapM step') := by
  induction xs with
  | nil => exact .ok .nil
  | cons x xs ih =>
    rw [List.map_cons, List.mapM_cons, List.mapM_cons]
    refine (each x List.mem_cons_self).bind fun y y' first => ?_
    refine (ih fun z member => each z (List.mem_cons_of_mem x member)).bind fun ys ys' others => ?_
    exact .ok (.cons first others)

/-- Two computations that agree with a third one. -/
theorem meet {R' : γ → β → Prop} {x : Except Error α} {y : Except Error γ} {z : Except Error β}
    (h : Agrees R x z) (h' : Agrees R' y z) : Agrees (fun a c => ∃ b, R a b ∧ R' c b) x y := by
  cases h with
  | error e =>
    cases h' with
    | error => exact .error e
  | ok related =>
    cases h' with
    | ok related' => exact .ok ⟨_, related, related'⟩

theorem cases {x : Except Error α} {y : Except Error β} (h : Agrees R x y) :
    (∃ e, x = .error e ∧ y = .error e) ∨ ∃ a b, x = .ok a ∧ y = .ok b ∧ R a b := by
  cases h with
  | error e => exact .inl ⟨e, rfl, rfl⟩
  | ok related => exact .inr ⟨_, _, rfl, rfl, related⟩

end Agrees

end Bindings
