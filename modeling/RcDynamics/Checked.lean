import Mathlib.Data.List.Forall2

/-!
# Computations that check in an order

A decoder makes its checks one after the other and stops at the first that does not fit, with the
fault of that check. When checks and computation are related so, the list of checks tells
everything about how the computation ends: it returns exactly when all checks fit, and otherwise
throws what the first check that does not fit gives rise to.
-/

namespace Checked

variable {ε ρ α β γ : Type}

/-- The first check that does not fit. -/
def firstUnfit (fits : ρ → Bool) (checks : List ρ) : Option ρ := checks.find? fun r => !fits r

/-- No check is unfit exactly when all fit. -/
theorem firstUnfit_eq_none_iff (fits : ρ → Bool) (checks : List ρ) :
    firstUnfit fits checks = none ↔ ∀ r ∈ checks, fits r = true := by
  simp [firstUnfit]

/-- The first unfit check is one of the checks, and it does not fit. -/
theorem firstUnfit_eq_some {fits : ρ → Bool} {checks : List ρ} {r : ρ}
    (first : firstUnfit fits checks = some r) : r ∈ checks ∧ fits r = false :=
  ⟨List.mem_of_find?_eq_some first, by simpa using List.find?_some first⟩

/-- Further checks come after the first ones. -/
theorem firstUnfit_append (fits : ρ → Bool) (first second : List ρ) :
    firstUnfit fits (first ++ second) = (firstUnfit fits first).or (firstUnfit fits second) :=
  List.find?_append

/-- A computation ends as its checks, made in this order, say. -/
def Follows (fits : ρ → Bool) (fault : ε → ρ → Prop) (checks : List ρ) : Except ε α → Prop
  | .ok _ => firstUnfit fits checks = none
  | .error e => ∃ r, firstUnfit fits checks = some r ∧ fault e r

section Rules

variable {fits : ρ → Bool} {fault : ε → ρ → Prop} {checks more : List ρ}

/-- Returning a value checks nothing. -/
theorem Follows.pure (a : α) : Follows fits fault [] (.ok a : Except ε α) := rfl

/-- A check that fits. -/
theorem Follows.of_fits {r : ρ} {m : Except ε α} {a : α} (fit : fits r = true) (ran : m = .ok a) :
    Follows fits fault [r] m := by
  subst ran
  exact (firstUnfit_eq_none_iff fits [r]).mpr (by simpa using fit)

/-- A check that does not fit. -/
theorem Follows.of_fault {r : ρ} {m : Except ε α} {e : ε} (unfit : fits r = false)
    (ran : m = .error e) (faulty : fault e r) : Follows fits fault [r] m := by
  subst ran
  exact ⟨r, by simp [firstUnfit, unfit], faulty⟩

/-- Parts of a computation make their checks in order; the second part is judged only where the
first one returns. -/
theorem Follows.bind {m : Except ε α} {f : α → Except ε β} (first : Follows fits fault checks m)
    (second : ∀ a, m = .ok a → Follows fits fault more (f a)) :
    Follows fits fault (checks ++ more) (m >>= f) := by
  cases m with
  | ok a =>
    have rest := second a rfl
    change Follows fits fault _ (f a)
    cases ran : f a with
    | ok b =>
      rw [ran] at rest
      change firstUnfit fits (checks ++ more) = none
      rw [firstUnfit_append, show firstUnfit fits checks = none from first]
      exact rest
    | error e =>
      rw [ran] at rest
      obtain ⟨r, found, faulty⟩ := rest
      refine ⟨r, ?_, faulty⟩
      rw [firstUnfit_append, show firstUnfit fits checks = none from first]
      exact found
  | error e =>
    obtain ⟨r, found, faulty⟩ := first
    exact ⟨r, by rw [firstUnfit_append, found]; rfl, faulty⟩

/-- One check, and then others. -/
theorem Follows.cons {r : ρ} {m : Except ε α} {f : α → Except ε β}
    (first : Follows fits fault [r] m)
    (second : ∀ a, m = .ok a → Follows fits fault more (f a)) :
    Follows fits fault (r :: more) (m >>= f) := first.bind second

/-- One check made by two parts together, and then others. -/
theorem Follows.cons_bind {r : ρ} {m : Except ε α} {g : α → Except ε β} {f : β → Except ε γ}
    (first : Follows fits fault [r] (m >>= g))
    (second : ∀ b, (m >>= g) = .ok b → Follows fits fault more (f b)) :
    Follows fits fault (r :: more) (m >>= fun a => g a >>= f) := by
  rw [← bind_assoc]
  exact first.cons second

/-- A value made of the result checks nothing more. -/
theorem Follows.map {m : Except ε α} (follows : Follows fits fault checks m) (f : α → β) :
    Follows fits fault checks (m.map f) := by
  cases m with
  | ok a => exact follows
  | error e => exact follows

/-- So does a return at the end of a sequence. -/
theorem Follows.bind_ok {m : Except ε α} (follows : Follows fits fault checks m) (f : α → β) :
    Follows fits fault checks (m >>= fun a => .ok (f a)) := by
  cases m with
  | ok a => exact follows
  | error e => exact follows

/-- A loop over a list makes the checks of its elements in their order. -/
theorem Follows.mapM {xs : List γ} {f : γ → Except ε α} {checksOf : γ → List ρ}
    (each : ∀ x ∈ xs, Follows fits fault (checksOf x) (f x)) :
    Follows fits fault (xs.flatMap checksOf) (xs.mapM f) := by
  induction xs with
  | nil => exact Follows.pure []
  | cons x xs ih =>
    rw [List.mapM_cons, List.flatMap_cons]
    refine (each x List.mem_cons_self).bind fun a _ => ?_
    have rest := ih fun y member => each y (List.mem_cons_of_mem x member)
    exact rest.bind_ok fun as => a :: as

end Rules

/-- A sequence returns when both parts do. -/
theorem bind_eq_ok {m : Except ε α} {f : α → Except ε β} {b : β} :
    (m >>= f) = .ok b ↔ ∃ a, m = .ok a ∧ f a = .ok b := by
  cases m with
  | ok a =>
    constructor
    · exact fun ran => ⟨a, rfl, ran⟩
    · rintro ⟨_, ⟨⟩, ran⟩
      exact ran
  | error e =>
    constructor
    · exact fun ran => nomatch ran
    · rintro ⟨_, ran, _⟩
      cases ran

/-- A sequence of three returns when the first two together and the third do. -/
theorem bind_bind_eq_ok {m : Except ε α} {g : α → Except ε β} {f : β → Except ε γ} {c : γ} :
    (m >>= fun a => g a >>= f) = .ok c ↔ ∃ b, (m >>= g) = .ok b ∧ f b = .ok c := by
  rw [← bind_assoc]
  exact bind_eq_ok

/-- A loop over a list that returns has returned a value for each element, in order. -/
theorem forall₂_of_mapM {xs : List γ} {ys : List α} {f : γ → Except ε α}
    (ran : xs.mapM f = .ok ys) : List.Forall₂ (fun x y => f x = .ok y) xs ys := by
  induction xs generalizing ys with
  | nil =>
    cases ran
    exact .nil
  | cons x xs ih =>
    rw [List.mapM_cons] at ran
    cases first : f x with
    | error e =>
      rw [first] at ran
      cases ran
    | ok y =>
      cases rest : xs.mapM f with
      | error e =>
        rw [first, rest] at ran
        cases ran
      | ok zs =>
        rw [first, rest] at ran
        cases ran
        exact .cons first (ih rest)

/-- When each value is described by the checks of its element, all values are described by all
checks. -/
theorem forall₂_iff_flatMap {xs : List γ} {ys : List α} {f : γ → Except ε α} {P : γ → α → Prop}
    {checksOf : γ → List ρ} {holds : ρ → Prop}
    (ran : List.Forall₂ (fun x y => f x = .ok y) xs ys)
    (each : ∀ x y, f x = .ok y → (P x y ↔ ∀ r ∈ checksOf x, holds r)) :
    List.Forall₂ P xs ys ↔ ∀ r ∈ xs.flatMap checksOf, holds r := by
  induction ran with
  | nil => simp
  | @cons x y xs ys first _ ih =>
    rw [List.forall₂_cons, ih, each x y first, List.flatMap_cons]
    simp only [List.mem_append, or_imp, forall_and]

end Checked
