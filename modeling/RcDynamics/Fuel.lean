import RcDynamics.Effect

/-!
# Computations with fuel

A loop without a bound is run with fuel, and throws one exception of its own when that is used up.
Two runs of a computation, with different fuel, settle on a state when they are the same there and
do not use theirs up. What settles does so in sequences and handlers.
-/

namespace Effect

variable {ε σ α β : Type}

/-- From a state two computations run the same, and without an exception. -/
structure Settles (out : ε) (m more : EStateM ε σ α) (s : σ) : Prop where
  same : more.run s = m.run s
  ends : ∀ t, m.run s ≠ .error out t

section Rules

variable {out : ε}

/-- What never uses up its fuel needs none. -/
theorem Settles.of_throws {m : EStateM ε σ α} (throws : Throws (· ≠ out) m) (s : σ) :
    Settles out m m s where
  same := rfl
  ends t ran := throws s out t ran rfl

/-- A sequence settles when its parts do; the second is judged only where the first returns. -/
theorem Settles.bind {m more : EStateM ε σ α} {f again : α → EStateM ε σ β} {s : σ}
    (first : Settles out m more s)
    (second : ∀ a t, m.run s = .ok a t → Settles out (f a) (again a) t) :
    Settles out (m >>= f) (more >>= again) s := by
  cases ran : m.run s with
  | ok a t =>
    have settled := second a t ran
    have also : more.run s = .ok a t := first.same.trans ran
    constructor
    · rw [run_bind_of_ok ran, run_bind_of_ok also]
      exact settled.same
    · rw [run_bind_of_ok ran]
      exact settled.ends
  | error e t =>
    have also : more.run s = .error e t := first.same.trans ran
    constructor
    · rw [run_bind_of_error ran, run_bind_of_error also]
    · rw [run_bind_of_error ran]
      intro u same
      cases same
      exact first.ends t ran

/-- A handler settles when the body does and it does itself, where the body throws. -/
theorem Settles.tryCatch {m more : EStateM ε σ α} {handle again : ε → EStateM ε σ α} {s : σ}
    (body : Settles out m more s)
    (handled : ∀ e t, m.run s = .error e t → Settles out (handle e) (again e) t) :
    Settles out (tryCatch m handle) (tryCatch more again) s := by
  cases ran : m.run s with
  | ok a t =>
    have also : more.run s = .ok a t := body.same.trans ran
    constructor
    · rw [run_tryCatch, run_tryCatch, ran, also]
    · rw [run_tryCatch, ran]
      exact fun u same => by cases same
  | error e t =>
    have settled := handled e t ran
    have also : more.run s = .error e t := body.same.trans ran
    constructor
    · rw [run_tryCatch, run_tryCatch, ran, also]
      exact settled.same
    · rw [run_tryCatch, ran]
      exact settled.ends

/-- What a handler leaves is thrown by the body or by the handler. -/
theorem Throws.tryCatch {P : ε → Prop} {m : EStateM ε σ α} {handle : ε → EStateM ε σ α}
    (body : Throws P m) (handled : ∀ e, P e → Throws P (handle e)) :
    Throws P (tryCatch m handle) := by
  intro s e t ran
  rw [run_tryCatch] at ran
  cases first : m.run s with
  | ok a u =>
    rw [first] at ran
    cases ran
  | error e' u =>
    rw [first] at ran
    exact handled e' (body s e' u first) u e t ran

end Rules

end Effect
