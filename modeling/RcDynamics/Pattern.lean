import Mathlib.Data.List.Basic

/-!
# Backtracking patterns

Regular expressions built from single-character classes, greedy repetitions of such a class
and sequences. A pattern maps a text to the remainders after each of its matches at the start
of the text, the preferred match first: a greedy repetition prefers the longest run, and a
sequence tries the remainders of its first part in their order. A search takes the preferred
match at the leftmost position that has one.
-/

/-- A regular expression without nested repetition. -/
inductive Pattern where
  /-- One character of a class. -/
  | one (accepts : Char → Bool)
  /-- A nonempty run of characters of a class, greedy. -/
  | many (accepts : Char → Bool)
  /-- One pattern after another. -/
  | seq (first second : Pattern)

namespace Pattern

/-- Remainders after the nonempty runs of a class, the longest run first. -/
def runs (accepts : Char → Bool) : List Char → List (List Char)
  | [] => []
  | c :: text => if accepts c then runs accepts text ++ [text] else []

/-- Remainders after the matches at the start of a text, in order of preference. -/
def rests : Pattern → List Char → List (List Char)
  | .one _, [] => []
  | .one accepts, c :: text => if accepts c then [text] else []
  | .many accepts, text => runs accepts text
  | .seq first second, text => (first.rests text).flatMap second.rests

/-- The text of the leftmost match, preferred among those at its position. -/
def search (pattern : Pattern) : List Char → Option (List Char)
  | [] => none
  | c :: text =>
    match pattern.rests (c :: text) with
    | [] => search pattern text
    | rest :: _ => some ((c :: text).take ((c :: text).length - rest.length))

/-- Fewest characters of a match. -/
def minLength : Pattern → Nat
  | .one _ => 1
  | .many _ => 1
  | .seq first second => first.minLength + second.minLength

/-- A run is a nonempty prefix. -/
theorem runs_split {accepts : Char → Bool} {text rest : List Char}
    (member : rest ∈ runs accepts text) :
    ∃ taken, text = taken ++ rest ∧ 1 ≤ taken.length := by
  induction text with
  | nil => simp [runs] at member
  | cons c text ih =>
    simp only [runs] at member
    split at member
    · rcases List.mem_append.mp member with longer | shortest
      · obtain ⟨taken, split, _⟩ := ih longer
        exact ⟨c :: taken, by rw [split, List.cons_append], by simp⟩
      · rw [List.mem_singleton] at shortest
        exact ⟨[c], by rw [shortest, List.singleton_append], by simp⟩
    · simp at member

/-- A match is a prefix of at least the least length. -/
theorem rests_split {pattern : Pattern} {text rest : List Char}
    (member : rest ∈ pattern.rests text) :
    ∃ taken, text = taken ++ rest ∧ pattern.minLength ≤ taken.length := by
  induction pattern generalizing text rest with
  | one accepts =>
    cases text with
    | nil => simp [rests] at member
    | cons c text =>
      simp only [rests] at member
      split at member
      · rw [List.mem_singleton] at member
        exact ⟨[c], by rw [member, List.singleton_append], Nat.le_refl 1⟩
      · simp at member
  | many accepts => exact runs_split member
  | seq first second firstSplit secondSplit =>
    obtain ⟨middle, before, after⟩ := List.mem_flatMap.mp member
    obtain ⟨taken, split, long⟩ := firstSplit before
    obtain ⟨later, laterSplit, laterLong⟩ := secondSplit after
    refine ⟨taken ++ later, by rw [split, laterSplit, List.append_assoc], ?_⟩
    rw [List.length_append]
    exact Nat.add_le_add long laterLong

/-- A class matches a character it accepts. -/
theorem mem_rests_one {accepts : Char → Bool} {c : Char} (accepted : accepts c = true)
    (rest : List Char) : rest ∈ (one accepts).rests (c :: rest) := by
  simp [rests, accepted]

/-- A repetition matches every nonempty prefix of accepted characters. -/
theorem mem_rests_many {accepts : Char → Bool} {taken : List Char} (nonempty : taken ≠ [])
    (accepted : ∀ c ∈ taken, accepts c = true) (rest : List Char) :
    rest ∈ (many accepts).rests (taken ++ rest) := by
  simp only [rests]
  induction taken with
  | nil => exact absurd rfl nonempty
  | cons c taken ih =>
    rw [List.cons_append, runs, if_pos (accepted c List.mem_cons_self), List.mem_append]
    by_cases last : taken = []
    · exact Or.inr (by simp [last])
    · exact Or.inl (ih last fun d member => accepted d (List.mem_cons_of_mem c member))

/-- A sequence matches when its parts match one after the other. -/
theorem mem_rests_seq {first second : Pattern} {text middle rest : List Char}
    (before : middle ∈ first.rests text) (after : rest ∈ second.rests middle) :
    rest ∈ (seq first second).rests text :=
  List.mem_flatMap.mpr ⟨middle, before, after⟩

/-- Positions without a match are passed over. -/
theorem search_append {pattern : Pattern} {skipped text : List Char}
    (unmatched : ∀ before after, skipped = before ++ after → after ≠ [] →
      pattern.rests (after ++ text) = []) :
    pattern.search (skipped ++ text) = pattern.search text := by
  induction skipped with
  | nil => rfl
  | cons c skipped ih =>
    have here := unmatched [] (c :: skipped) rfl (List.cons_ne_nil c skipped)
    rw [List.cons_append] at here ⊢
    rw [search, here]
    exact ih fun before after split =>
      unmatched (c :: before) after (by rw [split, List.cons_append])

/-- A match at the start of a text is found there: its text is a prefix of at least the least
length. -/
theorem search_here {pattern : Pattern} {text rest : List Char} (nonempty : text ≠ [])
    (matched : rest ∈ pattern.rests text) :
    ∃ taken later, text = taken ++ later ∧ pattern.minLength ≤ taken.length ∧
      pattern.search text = some taken := by
  cases text with
  | nil => exact absurd rfl nonempty
  | cons c text =>
    rw [search]
    cases preferred : pattern.rests (c :: text) with
    | nil => rw [preferred] at matched; simp at matched
    | cons later others =>
      obtain ⟨taken, split, long⟩ :=
        rests_split (show later ∈ pattern.rests (c :: text) from preferred ▸ List.mem_cons_self)
      refine ⟨taken, later, split, long, ?_⟩
      simp only
      rw [split, List.length_append, Nat.add_sub_cancel, List.take_left]

end Pattern
