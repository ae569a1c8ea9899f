import Bindings.Thread
import Mathlib.Data.List.Forall2

/-! What holds along a run of steps that hand a state on.

A successful run is a chain of successful steps. Whatever every step preserves
holds of the run, and what a step emits depends on no more than it says.
-/

set_option autoImplicit false

namespace Bindings

variable {σ α β γ : Type}

theorem bind_eq_ok {ε : Type} {x : Except ε α} {f : α → Except ε β} {b : β} :
    (x >>= f) = .ok b ↔ ∃ a, x = .ok a ∧ f a = .ok b := by
  cases x with
  | error e => simp [bind, Except.bind]
  | ok a => simp [bind, Except.bind]

theorem bind_eq_error {ε : Type} {x : Except ε α} {f : α → Except ε β} {e : ε} :
    (x >>= f) = .error e ↔ x = .error e ∨ ∃ a, x = .ok a ∧ f a = .error e := by
  cases x with
  | error e => simp [bind, Except.bind]
  | ok a => simp [bind, Except.bind]

theorem pure_eq_ok {a b : α} : (pure a : Except Error α) = .ok b ↔ a = b := by
  simp [pure, Except.pure]

section
variable {R : α → β → Prop} {xs : List α} {ys : List β}

theorem exists_of_mem_left (paired : List.Forall₂ R xs ys) {x : α} (member : x ∈ xs) :
    ∃ y ∈ ys, R x y := by
  induction paired with
  | nil => cases member
  | @cons head y _ ys related _ ih =>
    rcases List.mem_cons.1 member with rfl | member
    · exact ⟨y, List.mem_cons_self, related⟩
    · obtain ⟨z, found, related⟩ := ih member
      exact ⟨z, List.mem_cons_of_mem y found, related⟩

theorem exists_of_mem_right (paired : List.Forall₂ R xs ys) {y : β} (member : y ∈ ys) :
    ∃ x ∈ xs, R x y :=
  exists_of_mem_left (R := fun y x => R x y) paired.flip member

/-- Keys that the outputs hold stand there in the order of the elements. -/
theorem flatMap_sublist_flatMap {keys : α → List γ} {f : β → List γ}
    (paired : List.Forall₂ (fun x y => (keys x).Sublist (f y)) xs ys) :
    (xs.flatMap keys).Sublist (ys.flatMap f) := by
  induction paired with
  | nil => exact .slnil
  | cons held _ ih =>
    rw [List.flatMap_cons, List.flatMap_cons]
    exact held.append ih

/-- Where keys do not repeat and only the output for a key yields anything, the element with that key
accounts for all that the outputs yield. -/
theorem flatMap_eq_of_key {κ : Type} {keys : α → List κ} {key : κ} {f : β → List γ}
    (distinct : (xs.flatMap keys).Nodup) (paired : List.Forall₂ R xs ys) {x : α} (member : x ∈ xs)
    (held : key ∈ keys x) (silent : ∀ {z y}, z ∈ xs → R z y → key ∉ keys z → f y = []) :
    ∃ y ∈ ys, R x y ∧ ys.flatMap f = f y := by
  induction paired with
  | nil => cases member
  | @cons head y tail ys related rest ih =>
    rw [List.flatMap_cons, List.nodup_append] at distinct
    obtain ⟨-, later, apart⟩ := distinct
    rcases List.mem_cons.1 member with rfl | member
    · have nothing : ys.flatMap f = [] := by
        rw [List.flatMap_eq_nil_iff]
        intro other found
        obtain ⟨z, inside, related⟩ := exists_of_mem_left rest.flip found
        refine silent (List.mem_cons_of_mem _ inside) related fun again => ?_
        exact apart key held key (List.mem_flatMap.2 ⟨z, inside, again⟩) rfl
      exact ⟨y, List.mem_cons_self, related, by rw [List.flatMap_cons, nothing, List.append_nil]⟩
    · have nothing : f y = [] := by
        refine silent List.mem_cons_self related fun again => ?_
        exact apart key again key (List.mem_flatMap.2 ⟨x, member, held⟩) rfl
      obtain ⟨found, inside, holds, same⟩ :=
        ih later member fun found => silent (List.mem_cons_of_mem _ found)
      exact ⟨found, List.mem_cons_of_mem y inside, holds, by
        rw [List.flatMap_cons, nothing, List.nil_append, same]⟩

/-- Outputs that are determined by what the elements were taken from. -/
theorem eq_map_of_forall₂ {δ : Type} {take : δ → α} {f : δ → β} {zs : List δ}
    (paired : List.Forall₂ R (zs.map take) ys)
    (determined : ∀ z ∈ zs, ∀ y, R (take z) y → y = f z) : ys = zs.map f := by
  induction zs generalizing ys with
  | nil =>
    cases paired
    rfl
  | cons z zs ih =>
    cases paired with
    | cons related rest =>
      rw [List.map_cons, determined z List.mem_cons_self _ related,
        ih rest fun other member => determined other (List.mem_cons_of_mem z member)]

end

section
variable {step : σ → α → Except Error (σ × β)} {first last : σ} {xs : List α} {ys : List β}

theorem thread_nil (h : thread step first [] = .ok (last, ys)) : last = first ∧ ys = [] := by
  cases h
  exact ⟨rfl, rfl⟩

/-- A relation that every step respects holds between the ends of a run, and each output comes
from a step between them. -/
theorem thread_steps {R : σ → σ → Prop} (refl : ∀ s, R s s)
    (trans : ∀ {s t u}, R s t → R t u → R s u)
    (respects : ∀ {s x t y}, step s x = .ok (t, y) → R s t)
    (h : thread step first xs = .ok (last, ys)) :
    R first last ∧
      List.Forall₂ (fun x y => ∃ s t, R first s ∧ step s x = .ok (t, y) ∧ R t last) xs ys := by
  induction xs generalizing first ys with
  | nil =>
    obtain ⟨rfl, rfl⟩ := thread_nil h
    exact ⟨refl _, .nil⟩
  | cons x xs ih =>
    obtain ⟨next, y, rest, hx, hrest, rfl⟩ := thread_cons h
    obtain ⟨later, outputs⟩ := ih hrest
    have now := respects hx
    -- The later steps start from `next`, so what holds before them is put behind the first step.
    refine ⟨trans now later, .cons ⟨first, next, refl _, hx, later⟩ (outputs.imp ?_)⟩
    rintro z w ⟨s, t, before, hz, after⟩
    exact ⟨s, t, trans now before, hz, after⟩

/-- Outputs that the elements alone determine. -/
theorem thread_outputs {f : α → β} (output : ∀ {s x t y}, step s x = .ok (t, y) → y = f x)
    (h : thread step first xs = .ok (last, ys)) : ys = xs.map f := by
  induction xs generalizing first ys with
  | nil => exact (thread_nil h).2
  | cons x xs ih =>
    obtain ⟨next, y, rest, hx, hrest, rfl⟩ := thread_cons h
    rw [List.map_cons, output hx, ih hrest]

/-- An invariant of the states. -/
theorem thread_invariant {I : σ → Prop}
    (preserves : ∀ {s x t y}, x ∈ xs → step s x = .ok (t, y) → I s → I t)
    (h : thread step first xs = .ok (last, ys)) (initially : I first) : I last := by
  induction xs generalizing first ys with
  | nil =>
    obtain ⟨rfl, -⟩ := thread_nil h
    exact initially
  | cons x xs ih =>
    obtain ⟨next, y, rest, hx, hrest, -⟩ := thread_cons h
    exact ih (fun member => preserves (List.mem_cons_of_mem x member)) hrest
      (preserves List.mem_cons_self hx initially)

/-- Each element has its step and its output. -/
theorem thread_forall₂ (h : thread step first xs = .ok (last, ys)) :
    List.Forall₂ (fun x y => ∃ s t, step s x = .ok (t, y)) xs ys := by
  have steps := thread_steps (R := fun _ _ => True) (fun _ => trivial) (fun _ _ => trivial)
    (fun _ => trivial) h
  exact steps.2.imp fun x y ⟨s, t, _, hx, _⟩ => ⟨s, t, hx⟩

/-- Every output comes from a step with one of the elements. -/
theorem thread_mem (h : thread step first xs = .ok (last, ys)) {y : β} (member : y ∈ ys) :
    ∃ s x t, x ∈ xs ∧ step s x = .ok (t, y) := by
  obtain ⟨x, found, s, t, hx⟩ := exists_of_mem_right (thread_forall₂ h) member
  exact ⟨s, x, t, found, hx⟩

theorem thread_error {e : Error} (h : thread step first xs = .error e) :
    ∃ s, ∃ x ∈ xs, step s x = .error e := by
  induction xs generalizing first with
  | nil => cases h
  | cons x xs ih =>
    rcases bind_eq_error.1 h with failed | ⟨⟨next, y⟩, -, later⟩
    · exact ⟨first, x, List.mem_cons_self, failed⟩
    · rcases bind_eq_error.1 later with failed | ⟨rest, -, done⟩
      · obtain ⟨s, z, found, hz⟩ := ih failed
        exact ⟨s, z, List.mem_cons_of_mem x found, hz⟩
      · cases done

end

/-- A run reads no more of its states than its steps do. -/
theorem thread_view {τ : Type} {step : σ → α → Except Error (σ × β)}
    {step' : τ → α → Except Error (τ × β)} {first last : σ} {xs : List α} {ys : List β}
    (view : σ → τ)
    (reads : ∀ {s x t y}, step s x = .ok (t, y) → step' (view s) x = .ok (view t, y))
    (h : thread step first xs = .ok (last, ys)) :
    thread step' (view first) xs = .ok (view last, ys) := by
  induction xs generalizing first ys with
  | nil =>
    obtain ⟨rfl, rfl⟩ := thread_nil h
    rfl
  | cons x xs ih =>
    obtain ⟨next, y, rest, hx, hrest, rfl⟩ := thread_cons h
    exact bind_eq_ok.2 ⟨_, reads hx, bind_eq_ok.2 ⟨_, ih hrest, rfl⟩⟩

/-- Steps that agree on the elements of a run make the same run. -/
theorem thread_congr {step step' : σ → α → Except Error (σ × β)} {first : σ} {xs : List α}
    (same : ∀ x ∈ xs, ∀ s, step s x = step' s x) :
    thread step first xs = thread step' first xs := by
  induction xs generalizing first with
  | nil => rfl
  | cons x xs ih =>
    rw [thread, thread, same x List.mem_cons_self]
    refine bind_congr fun result => ?_
    obtain ⟨next, y⟩ := result
    dsimp only
    rw [ih fun z member => same z (List.mem_cons_of_mem x member)]

theorem mapM_congr {f g : α → Except Error β} {xs : List α} (same : ∀ x ∈ xs, f x = g x) :
    xs.mapM f = xs.mapM g := by
  induction xs with
  | nil => rfl
  | cons x xs ih =>
    rw [List.mapM_cons, List.mapM_cons, same x List.mem_cons_self,
      ih fun z member => same z (List.mem_cons_of_mem x member)]

/-- A mapping that succeeds has one result for each element. -/
theorem mapM_eq_ok {f : α → Except Error β} {xs : List α} {ys : List β} (h : xs.mapM f = .ok ys) :
    List.Forall₂ (fun x y => f x = .ok y) xs ys := by
  induction xs generalizing ys with
  | nil =>
    cases h
    exact .nil
  | cons x xs ih =>
    rw [List.mapM_cons] at h
    obtain ⟨y, hx, others⟩ := bind_eq_ok.1 h
    obtain ⟨rest, hrest, last⟩ := bind_eq_ok.1 others
    cases last
    exact .cons hx (ih hrest)

section
variable {step : σ → α → Except Error σ} {first last : σ} {xs : List α}

/-- What a run of steps has collected at its end: all that was there, and what each of its elements
adds. Steps may rely on an invariant that they keep. -/
theorem foldlM_collects_within {I P : σ → Prop} {A : α → Prop}
    (collects : ∀ {s x t}, x ∈ xs → I s → step s x = .ok t → I t ∧ (P t ↔ P s ∨ A x))
    (initially : I first) (h : xs.foldlM step first = .ok last) :
    I last ∧ (P last ↔ P first ∨ ∃ x ∈ xs, A x) := by
  induction xs generalizing first with
  | nil =>
    cases h
    simpa using initially
  | cons x xs ih =>
    rw [List.foldlM_cons] at h
    obtain ⟨next, hx, rest⟩ := bind_eq_ok.1 h
    obtain ⟨kept, now⟩ := collects List.mem_cons_self initially hx
    obtain ⟨finally_, later⟩ := ih (fun member => collects (List.mem_cons_of_mem x member)) kept rest
    refine ⟨finally_, ?_⟩
    rw [later, now, or_assoc]
    simp

theorem foldlM_invariant {I : σ → Prop}
    (preserves : ∀ {s x t}, x ∈ xs → step s x = .ok t → I s → I t)
    (h : xs.foldlM step first = .ok last) (initially : I first) : I last :=
  (foldlM_collects_within (P := fun _ => True) (A := fun _ => False)
    (fun member before hx => ⟨preserves member hx before, by simp⟩) initially h).1

theorem foldlM_collects {P : σ → Prop} {A : α → Prop}
    (collects : ∀ {s x t}, step s x = .ok t → (P t ↔ P s ∨ A x))
    (h : xs.foldlM step first = .ok last) : P last ↔ P first ∨ ∃ x ∈ xs, A x :=
  (foldlM_collects_within (I := fun _ => True) (fun _ _ hx => ⟨trivial, collects hx⟩) trivial h).2

/-- Where the elements alone decide which steps succeed, a run succeeds as soon as each of its
elements may. -/
theorem exists_foldlM_eq_ok_iff {Succeeds : α → Prop}
    (decided : ∀ s x, (∃ t, step s x = .ok t) ↔ Succeeds x) :
    (∃ last, xs.foldlM step first = .ok last) ↔ ∀ x ∈ xs, Succeeds x := by
  induction xs generalizing first with
  | nil => simp [pure, Except.pure]
  | cons x xs ih =>
    rw [List.forall_mem_cons, List.foldlM_cons, ← decided first x]
    constructor
    · rintro ⟨last, h⟩
      obtain ⟨next, hx, rest⟩ := bind_eq_ok.1 h
      exact ⟨⟨next, hx⟩, ih.1 ⟨last, rest⟩⟩
    · rintro ⟨⟨next, hx⟩, others⟩
      obtain ⟨last, rest⟩ := ih.2 others
      exact ⟨last, bind_eq_ok.2 ⟨next, hx, rest⟩⟩

end

section
variable {P Q : α → Prop} {xs ys : List α}

/-- Some element of a list satisfies `Q`, and all elements before it satisfy `P`. -/
def FirstWith (P Q : α → Prop) : List α → Prop
  | [] => False
  | x :: xs => Q x ∨ P x ∧ FirstWith P Q xs

theorem firstWith_append :
    FirstWith P Q (xs ++ ys) ↔ FirstWith P Q xs ∨ (∀ x ∈ xs, P x) ∧ FirstWith P Q ys := by
  induction xs with
  | nil => simp [FirstWith]
  | cons x xs ih =>
    rw [List.cons_append, FirstWith, FirstWith, ih, List.forall_mem_cons]
    tauto

theorem firstWith_flatMap {f : β → List α} {zs : List β} :
    FirstWith P Q (zs.flatMap f) ↔
      FirstWith (fun z => ∀ x ∈ f z, P x) (fun z => FirstWith P Q (f z)) zs := by
  induction zs with
  | nil => rfl
  | cons z zs ih => rw [List.flatMap_cons, firstWith_append, FirstWith, ih]

theorem firstWith_map {f : β → α} {zs : List β} :
    FirstWith P Q (zs.map f) ↔ FirstWith (fun z => P (f z)) (fun z => Q (f z)) zs := by
  induction zs with
  | nil => rfl
  | cons z zs ih => rw [List.map_cons, FirstWith, FirstWith, ih]

/-- Where the elements alone decide how steps end, a run fails like the first of its elements that
makes it fail. -/
theorem foldlM_eq_error_iff {step : σ → α → Except Error σ} {first : σ} {e : Error}
    (passes : ∀ s x, (∃ t, step s x = .ok t) ↔ P x) (fails : ∀ s x, step s x = .error e ↔ Q x) :
    xs.foldlM step first = .error e ↔ FirstWith P Q xs := by
  induction xs generalizing first with
  | nil => simp [FirstWith, pure, Except.pure]
  | cons x xs ih =>
    rw [List.foldlM_cons, bind_eq_error, FirstWith, fails, ← passes first x]
    refine or_congr_right ⟨?_, ?_⟩
    · rintro ⟨next, hx, rest⟩
      exact ⟨⟨next, hx⟩, ih.1 rest⟩
    · rintro ⟨⟨next, hx⟩, rest⟩
      exact ⟨next, hx, ih.2 rest⟩

end

end Bindings
