import Mathlib.Data.Nat.Notation

/-!
# Attempts with pauses

An attempt is answered by the next element of an unlimited sequence. A rejected answer is
followed by a pause and another attempt, as long as there are pauses left. What is recorded is
the answers and the pauses in order: nothing follows an answer that is accepted, and when there
is one, every pause leads to another attempt. When all attempts are rejected, the last pause
leads nowhere.
-/

namespace Retry

/-- What is recorded: the answer to an attempt, or a pause. -/
inductive Entry (ρ ω : Type) where
  | answer (r : ρ)
  | pause (w : ω)

variable {ρ ω : Type}

/-- The answers among some entries. -/
def answersOf (entries : List (Entry ρ ω)) : List ρ :=
  entries.filterMap fun
    | .answer r => some r
    | .pause _ => none

/-- The pauses among some entries. -/
def pausesOf (entries : List (Entry ρ ω)) : List ω :=
  entries.filterMap fun
    | .answer _ => none
    | .pause w => some w

/-- An answer comes before those of the entries after it. -/
@[simp] theorem answersOf_answer (r : ρ) (entries : List (Entry ρ ω)) :
    answersOf (.answer r :: entries) = r :: answersOf entries := rfl

/-- A pause is no answer. -/
@[simp] theorem answersOf_pause (w : ω) (entries : List (Entry ρ ω)) :
    answersOf (.pause w :: entries) = answersOf entries := rfl

/-- An answer is no pause. -/
@[simp] theorem pausesOf_answer (r : ρ) (entries : List (Entry ρ ω)) :
    pausesOf (.answer r :: entries) = pausesOf entries := rfl

/-- A pause comes before those of the entries after it. -/
@[simp] theorem pausesOf_pause (w : ω) (entries : List (Entry ρ ω)) :
    pausesOf (.pause w :: entries) = w :: pausesOf entries := rfl

variable (rejects : ρ → Prop) [DecidablePred rejects] (answers : ℕ → ρ)

/-- The entries of the attempts that begin with a given answer, one attempt for each pause. -/
def log : List ω → ℕ → List (Entry ρ ω)
  | [], _ => []
  | w :: waits, n =>
    if rejects (answers n) then .answer (answers n) :: .pause w :: log waits (n + 1)
    else [.answer (answers n)]

/-- The answer that is accepted, if one is. -/
def result : List ω → ℕ → Option ρ
  | [], _ => none
  | _ :: waits, n => if rejects (answers n) then result waits (n + 1) else some (answers n)

/-- Nothing is returned exactly when as many answers are rejected as there are pauses. -/
theorem result_eq_none_iff (waits : List ω) (n : ℕ) :
    result rejects answers waits n = none ↔ ∀ k < waits.length, rejects (answers (n + k)) := by
  induction waits generalizing n with
  | nil => simp [result]
  | cons w waits ih =>
    rw [result, List.length_cons, Nat.forall_lt_succ_left]
    by_cases rejected : rejects (answers n)
    · rw [if_pos rejected, ih]
      simp [rejected, Nat.add_assoc, Nat.add_comm 1]
    · simp [rejected]

/-- There is a pause for each attempt but the one whose answer is accepted. -/
theorem length_answersOf_log (waits : List ω) (n : ℕ) :
    (answersOf (log rejects answers waits n)).length =
      (pausesOf (log rejects answers waits n)).length +
        if (result rejects answers waits n).isSome then 1 else 0 := by
  induction waits generalizing n with
  | nil => rfl
  | cons w waits ih =>
    rw [log, result]
    by_cases rejected : rejects (answers n)
    · have later := ih (n + 1)
      simp only [if_pos rejected, answersOf_answer, answersOf_pause, pausesOf_answer,
        pausesOf_pause, List.length_cons]
      omega
    · simp only [if_neg rejected]
      rfl

variable {rejects answers}

/-- What is returned is the first answer that is accepted, among as many as there are pauses. -/
theorem result_eq_some_of_first {waits : List ω} {n k : ℕ} (within : k < waits.length)
    (accepted : ¬rejects (answers (n + k))) (earlier : ∀ j < k, rejects (answers (n + j))) :
    result rejects answers waits n = some (answers (n + k)) := by
  induction waits generalizing n k with
  | nil => exact absurd within (Nat.not_lt_zero k)
  | cons w waits ih =>
    rw [result]
    cases k with
    | zero => exact if_neg accepted
    | succ k =>
      have shift (j : ℕ) : n + 1 + j = n + (j + 1) := by omega
      have first : rejects (answers n) := earlier 0 (Nat.succ_pos k)
      have last : ¬rejects (answers (n + 1 + k)) := by rwa [shift]
      have between (j : ℕ) (below : j < k) : rejects (answers (n + 1 + j)) := by
        rw [shift]
        exact earlier (j + 1) (Nat.succ_lt_succ below)
      rw [if_pos first, ← shift k]
      exact ih (Nat.lt_of_succ_lt_succ within) last between

/-- Nothing follows an answer that is accepted. -/
theorem eq_nil_of_accepted {waits : List ω} {n : ℕ} {r : ρ} {later : List (Entry ρ ω)}
    (accepted : ¬rejects r) (recorded : .answer r :: later <:+ log rejects answers waits n) :
    later = [] := by
  induction waits generalizing n with
  | nil => exact absurd (List.suffix_nil.mp recorded) (List.cons_ne_nil _ _)
  | cons w waits ih =>
    rw [log] at recorded
    by_cases rejected : rejects (answers n)
    · rw [if_pos rejected, List.suffix_cons_iff, List.suffix_cons_iff] at recorded
      rcases recorded with here | pause | after
      · cases here
        exact absurd rejected accepted
      · cases pause
      · exact ih after
    · rw [if_neg rejected, List.suffix_cons_iff, List.suffix_nil] at recorded
      rcases recorded with here | none
      · cases here
        rfl
      · cases none

/-- When there are pauses, there is a first answer. -/
theorem answersOf_log_cons_ne_nil (w : ω) (waits : List ω) (n : ℕ) :
    answersOf (log rejects answers (w :: waits) n) ≠ [] := by
  rw [log]
  split
  · exact List.cons_ne_nil _ _
  · exact List.cons_ne_nil _ _

/-- When an answer is accepted, there is one. -/
theorem answersOf_log_ne_nil {waits : List ω} {n : ℕ}
    (some : (result rejects answers waits n).isSome) :
    answersOf (log rejects answers waits n) ≠ [] := by
  have counted := length_answersOf_log rejects answers waits n
  rw [if_pos some] at counted
  exact List.ne_nil_of_length_eq_add_one counted

/-- When an answer is accepted, every pause is followed by another answer. -/
theorem answersOf_ne_nil_of_pause {waits : List ω} {n : ℕ} {w : ω} {later : List (Entry ρ ω)}
    (some : (result rejects answers waits n).isSome)
    (recorded : .pause w :: later <:+ log rejects answers waits n) : answersOf later ≠ [] := by
  induction waits generalizing n with
  | nil => exact absurd (List.suffix_nil.mp recorded) (List.cons_ne_nil _ _)
  | cons w' waits ih =>
    rw [log] at recorded
    rw [result] at some
    by_cases rejected : rejects (answers n)
    · rw [if_pos rejected] at some
      rw [if_pos rejected, List.suffix_cons_iff, List.suffix_cons_iff] at recorded
      rcases recorded with answer | here | after
      · cases answer
      · cases here
        exact answersOf_log_ne_nil some
      · exact ih some after
    · rw [if_neg rejected, List.suffix_cons_iff, List.suffix_nil] at recorded
      rcases recorded with answer | none
      · cases answer
      · cases none

end Retry
