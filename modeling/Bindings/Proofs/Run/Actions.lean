import Bindings.Run.Action

/-! What actions do to the state of a run.

An action leads from one state to another and ends with a result or an error. An error keeps the
state that has been reached, so what was done before it stays done.
-/

set_option autoImplicit false

namespace Bindings

variable {σ α β : Type}

def Action.Leads (x : Action σ α) (first : RunState σ) (result : Except RunError α)
    (last : RunState σ) : Prop :=
  (x.run.run first).run = (result, last)

namespace Action

variable {x : Action σ α} {f : α → Action σ β} {first last : RunState σ} {e : RunError}
  {result : Except RunError α}

theorem leads_iff : x.Leads first result last ↔
    result = (x.run.run first).run.1 ∧ last = (x.run.run first).run.2 := by
  rw [Leads, Prod.ext_iff, eq_comm, @eq_comm _ _ last]

theorem leads_pure {a : α} :
    (pure a : Action σ α).Leads first result last ↔ result = .ok a ∧ last = first :=
  leads_iff

theorem leads_throw : (throw e : Action σ α).Leads first result last ↔
    result = .error e ∧ last = first :=
  leads_iff

theorem leads_get {result : Except RunError (RunState σ)} :
    (get : Action σ (RunState σ)).Leads first result last ↔ result = .ok first ∧ last = first :=
  leads_iff

theorem leads_modify {f : RunState σ → RunState σ} {result : Except RunError Unit} :
    (modify f : Action σ Unit).Leads first result last ↔ result = .ok () ∧ last = f first :=
  leads_iff

/-- The second action goes on from where the first one has led. -/
theorem leads_bind {result : Except RunError β} : (x >>= f).Leads first result last ↔
    (∃ e, x.Leads first (.error e) last ∧ result = .error e) ∨
      ∃ a next, x.Leads first (.ok a) next ∧ (f a).Leads next result last := by
  have unfolded : ((x >>= f).run.run first).run =
      match (x.run.run first).run with
      | (.ok a, next) => ((f a).run.run next).run
      | (.error e, next) => (.error e, next) := by
    simp only [ExceptT.run_bind, StateT.run_bind, Id.run_bind]
    rcases (x.run.run first).run with ⟨_ | _, _⟩ <;> rfl
  simp only [Leads, unfolded]
  rcases (x.run.run first).run with ⟨e | a, next⟩
  · simp only [Prod.mk.injEq, Except.error.injEq, reduceCtorEq, false_and, exists_false, or_false]
    constructor
    · rintro ⟨rfl, rfl⟩
      exact ⟨e, ⟨rfl, rfl⟩, rfl⟩
    · rintro ⟨_, ⟨rfl, rfl⟩, rfl⟩
      exact ⟨rfl, rfl⟩
  · simp only [Prod.mk.injEq, Except.ok.injEq, reduceCtorEq, false_and, exists_false, false_or]
    constructor
    · exact fun h => ⟨a, next, ⟨rfl, rfl⟩, h⟩
    · rintro ⟨_, _, ⟨rfl, rfl⟩, h⟩
      exact h

theorem leads_bind_ok {b : β} : (x >>= f).Leads first (.ok b) last ↔
    ∃ a next, x.Leads first (.ok a) next ∧ (f a).Leads next (.ok b) last := by
  simp [leads_bind]

theorem leads_bind_error : (x >>= f).Leads first (.error e) last ↔
    x.Leads first (.error e) last ∨
      ∃ a next, x.Leads first (.ok a) next ∧ (f a).Leads next (.error e) last := by
  simp [leads_bind]

/-- Logging adds an event and nothing else. -/
theorem leads_log {level : Log.Level} {target message : String} {fields : List (String × String)}
    {result : Except RunError Unit} :
    (log level target message fields : Action σ Unit).Leads first result last ↔
      result = .ok () ∧
        last = ⟨first.machine, first.events ++ [⟨level, target, some message, fields⟩]⟩ :=
  leads_modify

/-- An operation that the machine refuses changes nothing. -/
theorem leads_change {operation : σ → Except OsError σ} {failure : OsError → RunError}
    {result : Except RunError Unit} : (change operation failure).Leads first result last ↔
      (∃ machine, operation first.machine = .ok machine ∧ result = .ok () ∧
          last = ⟨machine, first.events⟩) ∨
        ∃ cause, operation first.machine = .error cause ∧ result = .error (failure cause) ∧
          last = first := by
  rw [change, leads_bind]
  simp only [leads_get, reduceCtorEq, false_and, exists_false, false_or, Except.ok.injEq]
  rw [exists_comm]
  simp only [exists_eq_left, and_assoc]
  cases operation first.machine with
  | error cause => simp [leads_throw]
  | ok machine => simp [leads_modify]

theorem leads_execute {m : Machine σ} {invocation : Invocation}
    {result : Except RunError (Except OsError Execution)} :
    (execute m invocation).Leads first result last ↔
      (∃ execution machine, m.execute invocation first.machine = .ok (execution, machine) ∧
          result = .ok (.ok execution) ∧ last = ⟨machine, first.events⟩) ∨
        ∃ cause, m.execute invocation first.machine = .error cause ∧ result = .ok (.error cause) ∧
          last = first := by
  rw [execute, leads_bind]
  simp only [leads_get, reduceCtorEq, false_and, exists_false, false_or, Except.ok.injEq]
  rw [exists_comm]
  simp only [exists_eq_left, and_assoc]
  cases m.execute invocation first.machine with
  | error cause => simp [leads_pure]
  | ok answer =>
    obtain ⟨execution, machine⟩ := answer
    simp only [reduceCtorEq, false_and, exists_false, or_false, Except.ok.injEq, Prod.mk.injEq]
    constructor
    · intro h
      obtain ⟨rfl, rfl⟩ := leads_iff.1 h
      exact ⟨execution, machine, ⟨rfl, rfl⟩, rfl, rfl⟩
    · rintro ⟨_, _, ⟨rfl, rfl⟩, rfl, rfl⟩
      exact leads_iff.2 ⟨rfl, rfl⟩

theorem leads_log_bind {level : Log.Level} {target message : String}
    {fields : List (String × String)} {next : Action σ α} :
    ((log level target message fields : Action σ Unit) >>= fun _ => next).Leads first result last ↔
      next.Leads ⟨first.machine, first.events ++ [⟨level, target, some message, fields⟩]⟩
        result last := by
  simp [leads_bind, leads_log]

theorem leads_lift_bind {answer : Except Error α} {failure : Error → RunError}
    {result : Except RunError β} :
    ((lift answer failure : Action σ α) >>= f).Leads first result last ↔
      (∃ cause, answer = .error cause ∧ result = .error (failure cause) ∧ last = first) ∨
        ∃ a, answer = .ok a ∧ (f a).Leads first result last := by
  cases answer with
  | ok a => simp [lift]
  | error cause => simp [lift, leads_throw]

end Action

end Bindings
