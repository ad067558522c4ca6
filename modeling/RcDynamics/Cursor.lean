import Mathlib.Data.List.Induction
import Mathlib.Order.Lattice
import RcDynamics.Effect

/-!
# Loops over a collection that may change

A loop goes from each key of an ordered collection to the next larger one that the collection has
by then, and its body may change the collection. `Visits` follows the position of such a loop
through the states it passes. As long as the body keeps the keys, the loop goes over the keys of
the start, in their order.
-/

namespace Cursor

open Effect

variable {ε σ κ : Type} [LinearOrder κ]

/-- The first of some keys above a key. -/
def successor (keys : List κ) (key : κ) : Option κ := keys.find? (key < ·)

/-- The successor of a key in a sorted list comes right after it. -/
theorem successor_of_split {keys before after : List κ} {key : κ}
    (ordered : keys.Pairwise (· < ·)) (split : keys = before ++ key :: after) :
    successor keys key = after.head? := by
  subst split
  rw [List.pairwise_append, List.pairwise_cons] at ordered
  obtain ⟨_, ⟨above, _⟩, below⟩ := ordered
  have passed : before.find? (key < ·) = none := by
    rw [List.find?_eq_none]
    intro k member
    have smaller : k < key := below k member key List.mem_cons_self
    simpa using le_of_lt smaller
  rw [successor, List.find?_append, passed, Option.none_or, List.find?_cons_of_neg (by simp)]
  cases after with
  | nil => rfl
  | cons k after =>
    have next : key < k := above k List.mem_cons_self
    rw [List.find?_cons_of_pos (by simpa using next)]
    rfl

variable (keys : σ → List κ) (body : κ → EStateM ε σ Unit)

/-- The positions of the loop from a state, each with the state at the top of that iteration; no
position is the end. -/
inductive Visits (s : σ) : Option κ → σ → Prop where
  | start : Visits s (keys s).head? s
  | advance {key : κ} {t u : σ} (here : Visits s (some key) t)
      (ran : (body key).run t = .ok () u) : Visits s (successor (keys u) key) u

variable {keys body} {P : σ → Prop} {s : σ}

/-- What the body keeps holds at every position, and each position is a key, when it keeps the
keys as well. -/
theorem Visits.kept (same : ∀ t, P t → keys t = keys s)
    (step : ∀ key ∈ keys s, ∀ t u, P t → (body key).run t = .ok () u → P u) (initially : P s)
    {position : Option κ} {t : σ} (visits : Visits keys body s position t) :
    P t ∧ ∀ key ∈ position, key ∈ keys s := by
  induction visits with
  | start => exact ⟨initially, fun key here => List.mem_of_mem_head? here⟩
  | @advance key t u _ ran ih =>
    obtain ⟨holds, listed⟩ := ih
    have after : P u := step key (listed key rfl) t u holds ran
    refine ⟨after, fun k next => ?_⟩
    rw [← same u after]
    exact List.mem_of_find?_eq_some next

/-- When the body keeps the keys, the loop is the one over the keys of the start. -/
theorem visits_iff (ordered : (keys s).Pairwise (· < ·)) (same : ∀ t, P t → keys t = keys s)
    (step : ∀ key ∈ keys s, ∀ t u, P t → (body key).run t = .ok () u → P u) (initially : P s)
    (position : Option κ) (t : σ) :
    Visits keys body s position t ↔ ∃ before after, keys s = before ++ after ∧
      position = after.head? ∧ (forM before body).run s = .ok () t := by
  constructor
  · intro visits
    induction visits with
    | start => exact ⟨[], keys s, rfl, rfl, rfl⟩
    | @advance key t u here ran ih =>
      obtain ⟨before, after, split, position, passed⟩ := ih
      obtain ⟨holds, listed⟩ := here.kept same step initially
      have unchanged : keys u = keys s := same u (step key (listed key rfl) t u holds ran)
      cases after with
      | nil => cases position
      | cons k after =>
        cases position
        refine ⟨before ++ [key], after, ?_, ?_, ?_⟩
        · rw [split, List.append_assoc, List.singleton_append]
        · rw [unchanged]
          exact successor_of_split ordered split
        · rw [List.forM_append, run_bind_of_ok passed, List.forM_cons, run_bind_of_ok ran]
          rfl
  · rintro ⟨before, after, split, rfl, ran⟩
    induction before using List.reverseRecOn generalizing after t with
    | nil =>
      cases ran
      rw [← List.nil_append after, ← split]
      exact .start
    | append_singleton before key ih =>
      rw [List.append_assoc, List.singleton_append] at split
      rw [List.forM_append, List.forM_cons, List.forM_nil, bind_pure_unit, run_bind_eq_ok] at ran
      obtain ⟨_, u, passed, last⟩ := ran
      have here : Visits keys body s (some key) u := ih u (key :: after) split passed
      obtain ⟨holds, listed⟩ := here.kept same step initially
      have unchanged : keys t = keys s := same t (step key (listed key rfl) u t holds last)
      have next := Visits.advance here last
      rwa [unchanged, successor_of_split ordered split] at next

end Cursor
