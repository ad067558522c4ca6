import RcDynamics.Effect

/-!
# Computations within a budget

A relation of states with a number that adds up along sequences: at most so many steps of some
kind lead from the state before a run to the state after it. The rules are those of
`Effect.Within`, with the budgets of the parts added.
-/

namespace Effect

variable {ε σ α β γ : Type}

/-- A relation for each budget: none is needed to stay, budgets add up, and a larger one does. -/
structure Budgeted (R : Nat → σ → σ → Prop) : Prop where
  stay : ∀ s, R 0 s s
  add : ∀ {m n : Nat} {s t u : σ}, R m s t → R n t u → R (m + n) s u
  more : ∀ {m n : Nat} {s t : σ}, m ≤ n → R m s t → R n s t

/-- A relation that holds from states with an invariant, which it keeps. -/
def Guarded (I : σ → Prop) (R : Nat → σ → σ → Prop) (n : Nat) (s t : σ) : Prop :=
  I s → R n s t ∧ I t

/-- Budgets add up under an invariant too. -/
theorem Budgeted.guarded {R : Nat → σ → σ → Prop} (budgeted : Budgeted R) (I : σ → Prop) :
    Budgeted (Guarded I R) where
  stay s holds := ⟨budgeted.stay s, holds⟩
  add first second holds := by
    obtain ⟨early, between⟩ := first holds
    obtain ⟨late, after⟩ := second between
    exact ⟨budgeted.add early late, after⟩
  more larger related holds := by
    obtain ⟨within, after⟩ := related holds
    exact ⟨budgeted.more larger within, after⟩

section Rules

variable {R : Nat → σ → σ → Prop} (budgeted : Budgeted R)

include budgeted

/-- A larger budget does for a computation. -/
theorem Budgeted.within_more {m n : Nat} {f : EStateM ε σ α} {s : σ} (within : Within (R m) f s)
    (larger : m ≤ n) : Within (R n) f s := budgeted.more larger within

/-- Returning a value needs no budget. -/
theorem Budgeted.pure {n : Nat} (a : α) (s : σ) : Within (R n) (pure a : EStateM ε σ α) s :=
  budgeted.more (Nat.zero_le n) (budgeted.stay s)

/-- Nor does throwing. -/
theorem Budgeted.throw {n : Nat} (e : ε) (s : σ) : Within (R n) (throw e : EStateM ε σ α) s :=
  budgeted.more (Nat.zero_le n) (budgeted.stay s)

/-- A sequence needs the budgets of both parts; the second is judged only where the first
returns. -/
theorem Budgeted.bind {m n : Nat} {f : EStateM ε σ α} {g : α → EStateM ε σ β} {s : σ}
    (first : Within (R m) f s) (second : ∀ a t, f.run s = .ok a t → Within (R n) (g a) t) :
    Within (R (m + n)) (f >>= g) s := by
  unfold Within at first ⊢
  rw [EStateM.run_bind]
  cases ran : f.run s with
  | ok a t =>
    rw [ran] at first
    exact budgeted.add first (second a t ran)
  | error e t =>
    rw [ran] at first
    exact budgeted.more (Nat.le_add_right m n) first

/-- A part that needs no budget leaves all of it to the next. -/
theorem Budgeted.free {n : Nat} {f : EStateM ε σ α} {g : α → EStateM ε σ β} {s : σ}
    (first : Within (R 0) f s) (second : ∀ a t, f.run s = .ok a t → Within (R n) (g a) t) :
    Within (R n) (f >>= g) s := by
  have both := budgeted.bind first second
  rwa [Nat.zero_add] at both

/-- A handler needs its budget in addition to that of the body. -/
theorem Budgeted.tryCatch {m n : Nat} {f : EStateM ε σ α} {handle : ε → EStateM ε σ α} {s : σ}
    (body : Within (R m) f s) (handled : ∀ e t, f.run s = .error e t → Within (R n) (handle e) t) :
    Within (R (m + n)) (tryCatch f handle) s := by
  unfold Within at body ⊢
  rw [run_tryCatch]
  cases ran : f.run s with
  | ok a t =>
    rw [ran] at body
    exact budgeted.more (Nat.le_add_right m n) body
  | error e t =>
    rw [ran] at body
    exact budgeted.add body (handled e t ran)

/-- A cleanup needs its budget in addition to that of the body. -/
theorem Budgeted.unwinding {m n : Nat} {f : EStateM ε σ α} {cleanup : EStateM ε σ Unit} {s : σ}
    (body : Within (R m) f s) (cleaned : ∀ e t, f.run s = .error e t → Within (R n) cleanup t) :
    Within (R (m + n)) (unwinding f cleanup) s := by
  apply budgeted.tryCatch body
  intro e t ran
  have again := budgeted.bind (n := 0) (cleaned e t ran) fun _ u _ =>
    budgeted.throw (α := α) e u
  exact again

/-- A loop needs the budget of its body for each element. -/
theorem Budgeted.forM {n : Nat} (xs : List γ) {body : γ → EStateM ε σ PUnit} {s : σ}
    (each : ∀ x ∈ xs, ∀ t, Within (R n) (body x) t) :
    Within (R (xs.length * n)) (forM xs body) s := by
  induction xs generalizing s with
  | nil => exact budgeted.pure _ s
  | cons x xs later =>
    rw [List.forM_cons, List.length_cons, Nat.add_one_mul, Nat.add_comm]
    apply budgeted.bind (each x List.mem_cons_self s)
    intro _ t _
    exact later fun y member => each y (List.mem_cons_of_mem x member)

end Rules

end Effect
