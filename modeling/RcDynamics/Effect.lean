import Mathlib.Logic.Relation

/-!
# Computations with state and exceptions

`EStateM ε σ α` runs from a state and ends with a value or an exception, keeping the state of
that moment in both cases. A relation between the state before a run and the state after it is
stated with `Within`; when the relation is a preorder, sequencing, handlers and loops compose,
so a computation is related to its states by looking at each of its steps once. Invariants,
frame conditions and the paths of a transition system are all preorders of this kind.
-/

namespace Effect

variable {ε σ α β γ : Type}

/-- The state in which a run ends, whether it returned or threw. -/
def final : EStateM.Result ε σ α → σ
  | .ok _ s => s
  | .error _ s => s

/-- A run that returns ends in the state it returns with. -/
@[simp] theorem final_ok (a : α) (s : σ) : final (.ok a s : EStateM.Result ε σ α) = s := rfl

/-- A run that throws ends in the state of the throw. -/
@[simp] theorem final_error (e : ε) (s : σ) :
    final (.error e s : EStateM.Result ε σ α) = s := rfl

/-- Whether a run returned. -/
def returned : EStateM.Result ε σ α → Bool
  | .ok _ _ => true
  | .error _ _ => false

/-- The value or the exception of a run, without its state. -/
def outcome : EStateM.Result ε σ α → Except ε α
  | .ok a _ => .ok a
  | .error e _ => .error e

/-- A run that returns has its value as outcome. -/
@[simp] theorem outcome_ok (a : α) (s : σ) :
    outcome (.ok a s : EStateM.Result ε σ α) = .ok a := rfl

/-- A run that throws has its exception as outcome. -/
@[simp] theorem outcome_error (e : ε) (s : σ) :
    outcome (.error e s : EStateM.Result ε σ α) = .error e := rfl

/-- A throw keeps the state, at every result type. -/
@[simp] theorem run_throw (e : ε) (s : σ) :
    EStateM.run (throw e : EStateM ε σ α) s = .error e s := rfl

/-- A handler sees the state of the throw. -/
@[simp] theorem run_tryCatch (m : EStateM ε σ α) (handle : ε → EStateM ε σ α) (s : σ) :
    EStateM.run (tryCatch m handle) s =
      match EStateM.run m s with
      | .ok a t => .ok a t
      | .error e t => EStateM.run (handle e) t := by
  change EStateM.tryCatch m handle s = _
  unfold EStateM.tryCatch EStateM.run
  cases m s <;> rfl

/-- After a first part that returns, its second part runs. -/
theorem run_bind_of_ok {m : EStateM ε σ α} {f : α → EStateM ε σ β} {s t : σ} {a : α}
    (ran : m.run s = .ok a t) : (m >>= f).run s = (f a).run t := by
  rw [EStateM.run_bind, ran]

/-- After a first part that throws, nothing runs. -/
theorem run_bind_of_error {m : EStateM ε σ α} {f : α → EStateM ε σ β} {s t : σ} {e : ε}
    (ran : m.run s = .error e t) : (m >>= f).run s = .error e t := by
  rw [EStateM.run_bind, ran]

/-- A sequence returns when both parts do. -/
theorem run_bind_eq_ok {m : EStateM ε σ α} {f : α → EStateM ε σ β} {s u : σ} {b : β} :
    (m >>= f).run s = .ok b u ↔ ∃ a t, m.run s = .ok a t ∧ (f a).run t = .ok b u := by
  rw [EStateM.run_bind]
  cases m.run s with
  | ok a t =>
    constructor
    · exact fun ran => ⟨a, t, rfl, ran⟩
    · rintro ⟨_, _, ⟨rfl, rfl⟩, ran⟩
      exact ran
  | error e t => simp

/-- A sequence throws when its first part does, or when its second part does after it. -/
theorem run_bind_eq_error {m : EStateM ε σ α} {f : α → EStateM ε σ β} {s u : σ} {e : ε} :
    (m >>= f).run s = .error e u ↔
      m.run s = .error e u ∨ ∃ a t, m.run s = .ok a t ∧ (f a).run t = .error e u := by
  rw [EStateM.run_bind]
  cases m.run s with
  | ok a t =>
    constructor
    · exact fun ran => Or.inr ⟨a, t, rfl, ran⟩
    · rintro (ran | ⟨_, _, ⟨rfl, rfl⟩, ran⟩)
      · cases ran
      · exact ran
  | error e t => simp

/-- Run `m`; when it throws, run `cleanup` and throw again. The destructor of a local object
is the cleanup of the statements after its declaration. -/
def unwinding (m : EStateM ε σ α) (cleanup : EStateM ε σ Unit) : EStateM ε σ α :=
  tryCatch m fun e => do
    cleanup
    throw e

/-- A run that returns is left as it is; one that throws goes through the cleanup. -/
@[simp] theorem run_unwinding (m : EStateM ε σ α) (cleanup : EStateM ε σ Unit) (s : σ) :
    (unwinding m cleanup).run s =
      match m.run s with
      | .ok a t => .ok a t
      | .error e t => match cleanup.run t with
        | .ok _ u => .error e u
        | .error e' u => .error e' u := by
  unfold unwinding
  rw [run_tryCatch]
  cases m.run s with
  | ok a t => rfl
  | error e t =>
    simp only [EStateM.run_bind]
    cases cleanup.run t <;> rfl

/-- With a cleanup, exactly the runs return that returned without it. -/
theorem run_unwinding_eq_ok {m : EStateM ε σ α} {cleanup : EStateM ε σ Unit} {s t : σ} {a : α} :
    (unwinding m cleanup).run s = .ok a t ↔ m.run s = .ok a t := by
  rw [run_unwinding]
  cases m.run s with
  | ok b u => rfl
  | error e u =>
    simp only [reduceCtorEq, iff_false]
    cases cleanup.run u <;> exact fun clash => nomatch clash

/-- With a cleanup, a run that throws ends where the cleanup does. -/
theorem run_unwinding_eq_error {m : EStateM ε σ α} {cleanup : EStateM ε σ Unit} {s u : σ} {e : ε}
    (ran : (unwinding m cleanup).run s = .error e u) :
    ∃ e' t, m.run s = .error e' t ∧ final (cleanup.run t) = u := by
  rw [run_unwinding] at ran
  cases first : m.run s with
  | ok a t =>
    rw [first] at ran
    cases ran
  | error e' t =>
    rw [first] at ran
    refine ⟨e', t, rfl, ?_⟩
    cases cleaned : cleanup.run t with
    | ok _ v =>
      simp only [cleaned] at ran
      cases ran
      rfl
    | error e'' v =>
      simp only [cleaned] at ran
      cases ran
      rfl

/-- The states before and after the run of `m` from `s` are related by `R`. -/
def Within (R : σ → σ → Prop) (m : EStateM ε σ α) (s : σ) : Prop := R s (final (m.run s))

section Rules

variable {R : σ → σ → Prop}

/-- A run whose result is known is related when its final state is. -/
theorem Within.of_run {m : EStateM ε σ α} {s : σ} {result : EStateM.Result ε σ α}
    (ran : m.run s = result) (related : R s (final result)) : Within R m s := by
  unfold Within
  rw [ran]
  exact related

/-- A run that returned is related to its state. -/
theorem Within.of_ok {m : EStateM ε σ α} {s t : σ} {a : α} (within : Within R m s)
    (ran : m.run s = .ok a t) : R s t := by
  unfold Within at within
  rwa [ran] at within

/-- A run that threw is related to its state. -/
theorem Within.of_error {m : EStateM ε σ α} {s t : σ} {e : ε} (within : Within R m s)
    (ran : m.run s = .error e t) : R s t := by
  unfold Within at within
  rwa [ran] at within

/-- A weaker relation holds of the same run. -/
theorem Within.mono {S : σ → σ → Prop} {m : EStateM ε σ α} {s : σ} (within : Within R m s)
    (weaker : ∀ t, R s t → S s t) : Within S m s := weaker _ within

variable [Std.Refl R] [IsTrans σ R]

omit [IsTrans σ R] in
/-- Returning a value moves nowhere. -/
theorem Within.pure (a : α) (s : σ) : Within R (pure a : EStateM ε σ α) s := refl_of R s

omit [IsTrans σ R] in
/-- Throwing moves nowhere. -/
theorem Within.throw (e : ε) (s : σ) : Within R (throw e : EStateM ε σ α) s := refl_of R s

omit [Std.Refl R] in
/-- Sequencing composes the relation; the continuation is judged only where the first part
returns. -/
theorem Within.bind {m : EStateM ε σ α} {f : α → EStateM ε σ β} {s : σ} (first : Within R m s)
    (second : ∀ a t, m.run s = .ok a t → Within R (f a) t) : Within R (m >>= f) s := by
  unfold Within at first ⊢
  rw [EStateM.run_bind]
  cases ran : m.run s with
  | ok a t =>
    rw [ran] at first
    exact trans_of R first (second a t ran)
  | error e t =>
    rw [ran] at first
    exact first

omit [Std.Refl R] in
/-- A handler composes the relation; it is judged only where the body throws. -/
theorem Within.tryCatch {m : EStateM ε σ α} {handle : ε → EStateM ε σ α} {s : σ}
    (body : Within R m s) (handled : ∀ e t, m.run s = .error e t → Within R (handle e) t) :
    Within R (tryCatch m handle) s := by
  unfold Within at body ⊢
  rw [run_tryCatch]
  cases ran : m.run s with
  | ok a t =>
    rw [ran] at body
    exact body
  | error e t =>
    rw [ran] at body
    exact trans_of R body (handled e t ran)

/-- A cleanup composes the relation; it is judged only where the body throws. -/
theorem Within.unwinding {m : EStateM ε σ α} {cleanup : EStateM ε σ Unit} {s : σ}
    (body : Within R m s) (cleaned : ∀ e t, m.run s = .error e t → Within R cleanup t) :
    Within R (unwinding m cleanup) s :=
  Within.tryCatch body fun e t ran =>
    Within.bind (cleaned e t ran) fun _ u _ => Within.throw e u

/-- A loop over a list composes the relation when the body is related from every state. -/
theorem Within.forM (xs : List γ) {body : γ → EStateM ε σ PUnit} {s : σ}
    (each : ∀ x ∈ xs, ∀ t, Within R (body x) t) : Within R (forM xs body) s := by
  induction xs generalizing s with
  | nil => exact Within.pure _ s
  | cons x xs ih =>
    rw [List.forM_cons]
    exact Within.bind (each x List.mem_cons_self s)
      fun _ t _ => ih fun y member => each y (List.mem_cons_of_mem x member)

end Rules

/-- Every exception of a computation has a property, whatever state it starts from. -/
def Throws (P : ε → Prop) (m : EStateM ε σ α) : Prop := ∀ s e t, m.run s = .error e t → P e

section Exceptions

variable {P : ε → Prop}

/-- Returning a value throws nothing. -/
theorem Throws.pure (a : α) : Throws P (pure a : EStateM ε σ α) :=
  fun _ _ _ ran => nomatch ran

/-- A throw throws its exception. -/
theorem Throws.throw {e : ε} (holds : P e) : Throws P (throw e : EStateM ε σ α) := by
  intro s e' t ran
  cases ran
  exact holds

/-- A sequence throws what its parts throw. -/
theorem Throws.bind {m : EStateM ε σ α} {f : α → EStateM ε σ β} (first : Throws P m)
    (second : ∀ a, Throws P (f a)) : Throws P (m >>= f) := by
  intro s e u ran
  rcases run_bind_eq_error.mp ran with thrown | ⟨a, t, _, thrown⟩
  · exact first s e u thrown
  · exact second a t e u thrown

/-- A loop throws what its body throws. -/
theorem Throws.forM (xs : List γ) {body : γ → EStateM ε σ PUnit} (each : ∀ x, Throws P (body x)) :
    Throws P (forM xs body) := by
  induction xs with
  | nil => exact Throws.pure _
  | cons x xs ih =>
    rw [List.forM_cons]
    exact Throws.bind (each x) fun _ => ih

end Exceptions

end Effect
