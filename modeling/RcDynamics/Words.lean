import Mathlib
import RcDynamics.Effect

/-!
# Computations that write words

A log that only grows, and the words that computations add to it. A computation is described by a
language for each value it may return with: a sequence writes a word of the first part and then one
of the second, and a handler a word of the body up to its exception and then its own. A language
without words belongs to a value that is never returned.
-/

namespace Effect

variable {ε σ α β ι : Type}

/-- From one state to the next a word of a language is added to the log. -/
def Writes (log : σ → List ι) (language : Language ι) (s t : σ) : Prop :=
  ∃ word ∈ language, log t = log s ++ word

section Rules

variable {log : σ → List ι}

/-- Nothing is the empty word. -/
theorem Writes.of_eq {s t : σ} (same : log t = log s) : Writes log 1 s t := by
  refine ⟨[], ?_, by rw [same, List.append_nil]⟩
  rw [Language.mem_one]

/-- One word after another. -/
theorem Writes.mul {first second : Language ι} {s t u : σ} (early : Writes log first s t)
    (late : Writes log second t u) : Writes log (first * second) s u := by
  obtain ⟨before, earlyWord, earlyLog⟩ := early
  obtain ⟨after, lateWord, lateLog⟩ := late
  refine ⟨before ++ after, Language.append_mem_mul earlyWord lateWord, ?_⟩
  rw [lateLog, earlyLog, List.append_assoc]

/-- A larger language. -/
theorem Writes.mono {small large : Language ι} {s t : σ} (writes : Writes log small s t)
    (included : small ≤ large) : Writes log large s t := by
  obtain ⟨word, member, added⟩ := writes
  exact ⟨word, included member, added⟩

/-- Writing nothing is a preorder. -/
instance Writes.refl : Std.Refl (Writes log 1) := ⟨fun _ => .of_eq rfl⟩

/-- Writing nothing twice is writing nothing. -/
instance Writes.trans : IsTrans σ (Writes log 1) where
  trans _ _ _ first second := by
    have both := first.mul second
    rwa [one_mul] at both

/-- A run that returns has written a word of the language of its value. -/
def Spells (log : σ → List ι) (language : α → Language ι) (m : EStateM ε σ α) : Prop :=
  ∀ s a t, m.run s = .ok a t → Writes log (language a) s t

/-- What every run writes is what those that return write. -/
theorem Spells.of_within {language : Language ι} {m : EStateM ε σ α}
    (within : ∀ s, Within (Writes log language) m s) : Spells log (fun _ => language) m :=
  fun s _ _ ran => (within s).of_ok ran

/-- Larger languages. -/
theorem Spells.mono {small large : α → Language ι} {m : EStateM ε σ α} (spells : Spells log small m)
    (included : ∀ a, small a ≤ large a) : Spells log large m :=
  fun s a t ran => (spells s a t ran).mono (included a)

/-- Returning a value writes nothing. -/
theorem Spells.pure {language : α → Language ι} {a : α} (empty : 1 ≤ language a) :
    Spells log language (pure a : EStateM ε σ α) := by
  intro s b t ran
  cases ran
  exact (Writes.of_eq rfl).mono empty

/-- Throwing returns nothing. -/
theorem Spells.throw {language : α → Language ι} (e : ε) :
    Spells log language (throw e : EStateM ε σ α) :=
  fun _ _ _ ran => nomatch ran

/-- A sequence writes what its parts write. -/
theorem Spells.bind {first : α → Language ι} {second : α → β → Language ι} {both : β → Language ι}
    {m : EStateM ε σ α} {f : α → EStateM ε σ β} (early : Spells log first m)
    (late : ∀ a, Spells log (second a) (f a)) (included : ∀ a b, first a * second a b ≤ both b) :
    Spells log both (m >>= f) := by
  intro s b u ran
  obtain ⟨a, t, started, ended⟩ := run_bind_eq_ok.mp ran
  exact ((early s a t started).mul (late a t b u ended)).mono (included a b)

/-- A sequence whose first part writes the same whatever it returns. -/
theorem Spells.seq {first : Language ι} {second : β → Language ι} {m : EStateM ε σ α}
    {f : α → EStateM ε σ β} (early : Spells log (fun _ => first) m)
    (late : ∀ a, Spells log second (f a)) : Spells log (fun b => first * second b) (m >>= f) :=
  early.bind late fun _ _ => le_refl _

/-- A handler writes after what its body has written up to the exception. -/
theorem Spells.tryCatch {returned both : α → Language ι} {thrown : Language ι}
    {handled : α → Language ι} {m : EStateM ε σ α} {handle : ε → EStateM ε σ α}
    (body : Spells log returned m) (stopped : ∀ s, Within (Writes log thrown) m s)
    (after : ∀ e, Spells log handled (handle e))
    (included : ∀ a, returned a + thrown * handled a ≤ both a) :
    Spells log both (tryCatch m handle) := by
  intro s a u ran
  rw [run_tryCatch] at ran
  cases first : m.run s with
  | ok b t =>
    rw [first] at ran
    cases ran
    exact (body s a u first).mono (le_trans le_self_add (included a))
  | error e t =>
    rw [first] at ran
    have both := ((stopped s).of_error first).mul (after e t a u ran)
    exact both.mono (le_trans le_add_self (included a))

end Rules

end Effect
