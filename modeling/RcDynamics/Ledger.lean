import Mathlib.Data.Finset.SDiff
import Mathlib.Data.List.Flatten
import Mathlib.Logic.Relation
import Mathlib.Algebra.BigOperators.Group.List.Basic
import Mathlib.Data.List.Count

/-!
# Ledgers of acknowledged registrations

A client registers values under keys at a server and keeps a ledger of them. The server holds a
set for each key and changes only by requests it has acknowledged; the ledger is a list for each
key, so that a value registered twice is tracked twice. The steps of such a client are the
registrations, the releases and the releases it has lost track of. They keep the ledger above
the client's share of the server, and they change its counts by acknowledged requests only. A
client that forgets its ledger keeps neither, unless nothing of its own is left.
-/

namespace Ledger

variable {κ α : Type} [DecidableEq κ] [DecidableEq α]

/-- A request that the server has acknowledged. -/
inductive Change (κ α : Type) where
  | put (key : κ) (values : List α)
  | delete (key : κ) (values : List α)
deriving DecidableEq, Repr

/-- The values held for each key. -/
abbrev Server (κ α : Type) := κ → Finset α

namespace Server

/-- The effect of an acknowledged request. -/
def apply (server : Server κ α) : Change κ α → Server κ α
  | .put key values => Function.update server key (server key ∪ values.toFinset)
  | .delete key values => Function.update server key (server key \ values.toFinset)

/-- The server after acknowledged requests. -/
def after (server : Server κ α) (history : List (Change κ α)) : Server κ α :=
  history.foldl apply server

/-- Nothing acknowledged, nothing changed. -/
@[simp] theorem after_nil (server : Server κ α) : server.after [] = server := rfl

/-- Requests of two parts take effect one after the other. -/
theorem after_append (server : Server κ α) (first second : List (Change κ α)) :
    server.after (first ++ second) = (server.after first).after second := by
  simp only [after, List.foldl_append]

/-- A put adds the values named for its key. -/
theorem mem_apply_put (server : Server κ α) (k key : κ) (values : List α) (value : α) :
    value ∈ server.apply (.put k values) key ↔ value ∈ server key ∨ k = key ∧ value ∈ values := by
  by_cases same : k = key
  · subst same
    simp [apply]
  · simp [apply, same, Function.update_of_ne (Ne.symm same)]

/-- A delete removes the values named for its key. -/
theorem mem_apply_delete (server : Server κ α) (k key : κ) (values : List α) (value : α) :
    value ∈ server.apply (.delete k values) key ↔
      value ∈ server key ∧ ¬(k = key ∧ value ∈ values) := by
  by_cases same : k = key
  · subst same
    simp [apply]
  · simp [apply, same, Function.update_of_ne (Ne.symm same)]

/-- Deletes of one key remove the values that any of them names. -/
theorem mem_after_deletes (server : Server κ α) (k key : κ) (groups : List (List α)) (value : α) :
    value ∈ server.after (groups.map (.delete k)) key ↔
      value ∈ server key ∧ ¬(k = key ∧ value ∈ groups.flatten) := by
  induction groups generalizing server with
  | nil => simp
  | cons values groups ih =>
    have first := mem_apply_delete server k key values value
    have rest := ih (server.apply (.delete k values))
    simp only [after] at rest ⊢
    rw [List.map_cons, List.foldl_cons, rest, first, List.flatten_cons, List.mem_append]
    tauto

/-- A history that only deletes leaves of a key at most what was there, and nothing it names. -/
theorem mem_of_mem_after_deletes {server : Server κ α} {history : List (Change κ α)} {key : κ}
    {value : α} (deletes : ∀ change ∈ history, ∃ k values, change = .delete k values)
    (held : value ∈ server.after history key) :
    value ∈ server key ∧ ∀ values, .delete key values ∈ history → value ∉ values := by
  induction history generalizing server with
  | nil => exact ⟨held, by simp⟩
  | cons change history ih =>
    obtain ⟨k, values, rfl⟩ := deletes change List.mem_cons_self
    have later : ∀ change ∈ history, ∃ k values, change = .delete k values :=
      fun change member => deletes change (List.mem_cons_of_mem _ member)
    have rest : value ∈ (server.apply (.delete k values)).after history key := held
    obtain ⟨before, unnamed⟩ := ih later rest
    obtain ⟨there, kept⟩ := (mem_apply_delete server k key values value).mp before
    refine ⟨there, fun vs member named => ?_⟩
    rcases List.mem_cons.mp member with same | other
    · cases same
      exact kept ⟨rfl, named⟩
    · exact unnamed vs other named

end Server

namespace Change

/-- How often a request registers a value under a key. -/
def putCount (key : κ) (value : α) : Change κ α → Nat
  | .put k values => if k = key then values.count value else 0
  | .delete _ _ => 0

/-- How often a request names a value to be removed from a key. -/
def deleteCount (key : κ) (value : α) : Change κ α → Nat
  | .put _ _ => 0
  | .delete k values => if k = key then values.count value else 0

end Change

/-- How many times a value was registered under a key. -/
def registrations : List (Change κ α) → κ → α → Nat
  | [], _, _ => 0
  | change :: history, key, value => change.putCount key value + registrations history key value

/-- How many times a value was named to be removed from a key. -/
def removals : List (Change κ α) → κ → α → Nat
  | [], _, _ => 0
  | change :: history, key, value => change.deleteCount key value + removals history key value

/-- Registrations of two parts add up. -/
@[simp] theorem registrations_append (first second : List (Change κ α)) (key : κ) (value : α) :
    registrations (first ++ second) key value =
      registrations first key value + registrations second key value := by
  induction first with
  | nil => exact (Nat.zero_add _).symm
  | cons change first ih => rw [List.cons_append, registrations, registrations, ih, Nat.add_assoc]

/-- Removals of two parts add up. -/
@[simp] theorem removals_append (first second : List (Change κ α)) (key : κ) (value : α) :
    removals (first ++ second) key value =
      removals first key value + removals second key value := by
  induction first with
  | nil => exact (Nat.zero_add _).symm
  | cons change first ih => rw [List.cons_append, removals, removals, ih, Nat.add_assoc]

/-- A single put registers what it names. -/
@[simp] theorem registrations_put (k key : κ) (values : List α) (value : α) :
    registrations [.put k values] key value = if k = key then values.count value else 0 := rfl

/-- Deletes register nothing. -/
@[simp] theorem registrations_deletes (k key : κ) (groups : List (List α)) (value : α) :
    registrations (groups.map (.delete k)) key value = 0 := by
  induction groups with
  | nil => rfl
  | cons values groups ih => rw [List.map_cons, registrations, ih, Change.putCount]

/-- Deletes remove what they name. -/
@[simp] theorem removals_deletes (k key : κ) (groups : List (List α)) (value : α) :
    removals (groups.map (.delete k)) key value =
      if k = key then groups.flatten.count value else 0 := by
  induction groups with
  | nil => simp [removals]
  | cons values groups ih =>
    rw [List.map_cons, removals, ih, Change.deleteCount, List.flatten_cons, List.count_append]
    split_ifs <;> rfl

/-- A ledger and the requests acknowledged so far. -/
structure State (κ α : Type) where
  tracked : κ → List α
  history : List (Change κ α)

namespace State

/-- An acknowledged registration is entered. -/
def register (s : State κ α) (key : κ) (value : α) : State κ α where
  tracked := Function.update s.tracked key (s.tracked key ++ [value])
  history := s.history ++ [.put key [value]]

/-- Acknowledged removals are entered: the first occurrence of each value is erased. -/
def release (s : State κ α) (key : κ) (groups : List (List α)) : State κ α where
  tracked := Function.update s.tracked key (groups.flatten.foldl List.erase (s.tracked key))
  history := s.history ++ groups.map (.delete key)

/-- Acknowledged removals are not entered. -/
def lose (s : State κ α) (key : κ) (groups : List (List α)) : State κ α where
  tracked := s.tracked
  history := s.history ++ groups.map (.delete key)

/-- The ledger is forgotten. -/
def forget (s : State κ α) : State κ α where
  tracked := fun _ => []
  history := s.history

omit [DecidableEq α] in
/-- A registration is entered under its key. -/
theorem register_tracked (s : State κ α) (k key : κ) (value : α) :
    (s.register k value).tracked key =
      if key = k then s.tracked key ++ [value] else s.tracked key := by
  unfold register
  by_cases same : key = k
  · subst same
    simp
  · simp [same]

/-- Removals are entered under their key. -/
theorem release_tracked (s : State κ α) (k key : κ) (groups : List (List α)) :
    (s.release k groups).tracked key =
      if key = k then groups.flatten.foldl List.erase (s.tracked key) else s.tracked key := by
  unfold release
  by_cases same : key = k
  · subst same
    simp
  · simp [same]

end State

/-- A step of the client. -/
inductive Step : State κ α → State κ α → Prop where
  | register (s : State κ α) (key : κ) (value : α) : Step s (s.register key value)
  | release (s : State κ α) (key : κ) (groups : List (List α)) : Step s (s.release key groups)
  | lose (s : State κ α) (key : κ) (groups : List (List α)) : Step s (s.lose key groups)

/-- Any number of steps. -/
abbrev Steps : State κ α → State κ α → Prop := Relation.ReflTransGen Step

/-- The counts of a ledger changed by acknowledged requests only: each registration was entered
once, and nothing was removed beyond what the server was told to remove. -/
def Booked (s t : State κ α) : Prop :=
  ∃ more, t.history = s.history ++ more ∧ ∀ key value, ∃ removed,
    (t.tracked key).count value + removed =
        (s.tracked key).count value + registrations more key value ∧
      removed ≤ removals more key value

/-- Standing still is booked. -/
theorem Booked.refl (s : State κ α) : Booked s s :=
  ⟨[], (List.append_nil _).symm, fun _ _ => ⟨0, rfl, Nat.zero_le _⟩⟩

/-- Booked changes add up. -/
theorem Booked.trans {s t u : State κ α} (first : Booked s t) (second : Booked t u) :
    Booked s u := by
  obtain ⟨early, earlyHistory, earlyCounts⟩ := first
  obtain ⟨late, lateHistory, lateCounts⟩ := second
  refine ⟨early ++ late, by rw [lateHistory, earlyHistory, List.append_assoc], ?_⟩
  intro key value
  obtain ⟨before, beforeCount, beforeBound⟩ := earlyCounts key value
  obtain ⟨after, afterCount, afterBound⟩ := lateCounts key value
  refine ⟨before + after, ?_, ?_⟩
  · rw [registrations_append]
    omega
  · rw [removals_append]
    omega

/-- Erasing first occurrences one after the other lowers each count as far as it can. -/
theorem count_foldl_erase (values removed : List α) (value : α) :
    (removed.foldl List.erase values).count value = values.count value - removed.count value := by
  rw [← List.diff_eq_foldl, List.count_diff]

/-- What is left after erasing was there before. -/
theorem mem_of_mem_foldl_erase {values removed : List α} {value : α}
    (member : value ∈ removed.foldl List.erase values) : value ∈ values := by
  rw [← List.diff_eq_foldl] at member
  exact (List.diff_sublist values removed).mem member

/-- A value that is not erased stays. -/
theorem mem_foldl_erase {values removed : List α} {value : α} (member : value ∈ values)
    (kept : value ∉ removed) : value ∈ removed.foldl List.erase values := by
  rw [← List.diff_eq_foldl]
  exact List.mem_diff_of_mem member kept

/-- Erasing all values of a list leaves nothing. -/
theorem foldl_erase_self (values : List α) : values.foldl List.erase values = [] := by
  refine List.eq_nil_iff_forall_not_mem.mpr fun value member => ?_
  have some := List.count_pos_iff.mpr member
  rw [count_foldl_erase] at some
  omega

/-- Every step is booked. -/
theorem Step.booked {s t : State κ α} (step : Step s t) : Booked s t := by
  cases step with
  | register k value =>
    refine ⟨_, rfl, fun key v => ⟨0, ?_, Nat.zero_le _⟩⟩
    rw [State.register_tracked, registrations_put]
    by_cases same : key = k
    · rw [if_pos same, if_pos same.symm, List.count_append, Nat.add_zero]
    · rw [if_neg same, if_neg (Ne.symm same)]
  | release k groups =>
    refine ⟨_, rfl, fun key v => ?_⟩
    rw [State.release_tracked, registrations_deletes, removals_deletes]
    by_cases same : key = k
    · refine ⟨min ((s.tracked key).count v) (groups.flatten.count v), ?_, ?_⟩
      · rw [if_pos same, count_foldl_erase]
        omega
      · rw [if_pos same.symm]
        exact Nat.min_le_right _ _
    · exact ⟨0, by rw [if_neg same], Nat.zero_le _⟩
  | lose k groups =>
    exact ⟨_, rfl, fun key v => ⟨0, by rw [registrations_deletes]; rfl, Nat.zero_le _⟩⟩

/-- Every path is booked. -/
theorem Steps.booked {s t : State κ α} (steps : Steps s t) : Booked s t := by
  induction steps with
  | refl => exact Booked.refl s
  | tail _ step ih => exact ih.trans step.booked

/-- A value that the client has registered and that is still at the server. -/
def Left (initial : Server κ α) (history : List (Change κ α)) (key : κ) (value : α) : Prop :=
  0 < registrations history key value ∧ value ∈ initial.after history key

/-- Everything of the client's that is left at the server is in its ledger. -/
def Covers (initial : Server κ α) (s : State κ α) : Prop :=
  ∀ key value, Left initial s.history key value → value ∈ s.tracked key

/-- What is left after a registration is the new value or was left before. -/
theorem left_put {initial : Server κ α} {history : List (Change κ α)} {k key : κ}
    {values : List α} {value : α} (left : Left initial (history ++ [.put k values]) key value) :
    Left initial history key value ∨ k = key ∧ value ∈ values := by
  obtain ⟨own, held⟩ := left
  rw [registrations_append, registrations_put] at own
  rw [Server.after_append] at held
  by_cases named : k = key ∧ value ∈ values
  · exact Or.inr named
  · have before := ((Server.mem_apply_put _ k key values value).mp held).resolve_right named
    refine Or.inl ⟨?_, before⟩
    split_ifs at own with same
    · have absent : values.count value = 0 :=
        List.count_eq_zero.mpr fun member => named ⟨same, member⟩
      omega
    · exact own

/-- What is left after removals was left before and was not named. -/
theorem left_deletes {initial : Server κ α} {history : List (Change κ α)} {k key : κ}
    {groups : List (List α)} {value : α}
    (left : Left initial (history ++ groups.map (.delete k)) key value) :
    Left initial history key value ∧ ¬(k = key ∧ value ∈ groups.flatten) := by
  obtain ⟨own, held⟩ := left
  rw [registrations_append, registrations_deletes] at own
  rw [Server.after_append, Server.mem_after_deletes] at held
  exact ⟨⟨own, held.1⟩, held.2⟩

/-- A step keeps the ledger above what is left. -/
theorem Step.covers {initial : Server κ α} {s t : State κ α} (step : Step s t)
    (covers : Covers initial s) : Covers initial t := by
  cases step with
  | register k value =>
    intro key v left
    rw [State.register_tracked]
    by_cases same : key = k
    · rw [if_pos same, List.mem_append]
      exact (left_put left).imp (covers key v) And.right
    · rw [if_neg same]
      exact covers key v ((left_put left).resolve_right fun named => same named.1.symm)
  | release k groups =>
    intro key v left
    obtain ⟨before, unnamed⟩ := left_deletes left
    have member := covers key v before
    rw [State.release_tracked]
    by_cases same : key = k
    · rw [if_pos same]
      exact mem_foldl_erase member fun named => unnamed ⟨same.symm, named⟩
    · rwa [if_neg same]
  | lose k groups => exact fun key v left => covers key v (left_deletes left).1

/-- Every path keeps the ledger above what is left. -/
theorem Steps.covers {initial : Server κ α} {s t : State κ α} (steps : Steps s t)
    (covers : Covers initial s) : Covers initial t := by
  induction steps with
  | refl => exact covers
  | tail _ step ih => exact step.covers ih

/-- Forgetting is harmless exactly when nothing of the client's is left. -/
theorem covers_forget (initial : Server κ α) (s : State κ α) :
    Covers initial s.forget ↔ ∀ key value, ¬Left initial s.history key value := by
  constructor
  · intro covers key value left
    exact absurd (covers key value left) List.not_mem_nil
  · exact fun none key value left => absurd left (none key value)

section Shared

variable {ι : Type} [DecidableEq ι]

/-- The requests of one client among those of several. -/
def own (i : ι) (history : List (ι × Change κ α)) : List (Change κ α) :=
  (history.filter fun entry => entry.1 = i).map Prod.snd

/-- The requests of all clients, in the order in which the server has acknowledged them. -/
def everyone (history : List (ι × Change κ α)) : List (Change κ α) := history.map Prod.snd

/-- What a client has registered is registered by no other client. -/
def Apart (i : ι) (history : List (ι × Change κ α)) : Prop :=
  ∀ entry ∈ history, entry.1 ≠ i → ∀ key value, 0 < registrations (own i history) key value →
    entry.2.putCount key value = 0

omit [DecidableEq κ] [DecidableEq α] in
/-- A last request belongs to its client. -/
theorem own_concat (i : ι) (history : List (ι × Change κ α)) (entry : ι × Change κ α) :
    own i (history ++ [entry]) =
      if entry.1 = i then own i history ++ [entry.2] else own i history := by
  unfold own
  rw [List.filter_append, List.map_append]
  by_cases same : entry.1 = i
  · rw [if_pos same, List.filter_cons_of_pos (by simpa using same)]
    rfl
  · rw [if_neg same, List.filter_cons_of_neg (by simpa using same)]
    exact List.append_nil _

/-- A request keeps one server below another. -/
theorem Server.mem_apply_mono {a b : Server κ α} {key : κ} {value : α}
    (below : value ∈ a key → value ∈ b key) (change : Change κ α)
    (held : value ∈ a.apply change key) : value ∈ b.apply change key := by
  cases change with
  | put k values =>
    rw [mem_apply_put] at held ⊢
    exact held.imp below id
  | delete k values =>
    rw [mem_apply_delete] at held ⊢
    exact ⟨below held.1, held.2⟩

/-- A value that a request does not register was held before. -/
theorem Server.held_before {server : Server κ α} {key : κ} {value : α} {change : Change κ α}
    (unnamed : change.putCount key value = 0) (held : value ∈ server.apply change key) :
    value ∈ server key := by
  cases change with
  | put k values =>
    rw [mem_apply_put] at held
    rcases held with before | ⟨same, named⟩
    · exact before
    · have counted := List.count_pos_iff.mpr named
      have none : (if k = key then values.count value else 0) = 0 := unnamed
      rw [if_pos same] at none
      omega
  | delete k values =>
    rw [mem_apply_delete] at held
    exact held.1

/-- A value that no other client registers is held by the server of all clients only when the
requests of its own client alone would hold it. -/
theorem held_own {initial : Server κ α} {history : List (ι × Change κ α)} {i : ι} {key : κ}
    {value : α} (others : ∀ entry ∈ history, entry.1 ≠ i → entry.2.putCount key value = 0)
    (held : value ∈ initial.after (everyone history) key) :
    value ∈ initial.after (own i history) key := by
  induction history using List.reverseRecOn with
  | nil => exact held
  | append_singleton history entry earlier =>
    have before := earlier fun other member => others other (List.mem_append_left _ member)
    unfold everyone at held before
    rw [List.map_append, Server.after_append] at held
    rw [own_concat]
    by_cases same : entry.1 = i
    · rw [if_pos same, Server.after_append]
      exact Server.mem_apply_mono before entry.2 held
    · rw [if_neg same]
      have unnamed := others entry (List.mem_append_right _ List.mem_cons_self) same
      exact before (Server.held_before unnamed held)

/-- What a client has registered and is left at the server of all clients is left of its own
requests, when the clients are apart. -/
theorem left_own {initial : Server κ α} {history : List (ι × Change κ α)} {i : ι} {key : κ}
    {value : α} (apart : Apart i history) (registered : 0 < registrations (own i history) key value)
    (held : value ∈ initial.after (everyone history) key) :
    Left initial (own i history) key value :=
  ⟨registered, held_own (fun entry member other => apart entry member other key value registered)
    held⟩

/-- A value that no client has registered was there from the beginning. -/
theorem held_initially {initial : Server κ α} {history : List (ι × Change κ α)} {key : κ}
    {value : α} (unregistered : ∀ i, registrations (own i history) key value = 0)
    (held : value ∈ initial.after (everyone history) key) : value ∈ initial key := by
  induction history using List.reverseRecOn with
  | nil => exact held
  | append_singleton history entry earlier =>
    have single : registrations [entry.2] key value = entry.2.putCount key value := rfl
    have mine := unregistered entry.1
    rw [own_concat, if_pos rfl, registrations_append, single] at mine
    have before : ∀ i, registrations (own i history) key value = 0 := by
      intro i
      have counted := unregistered i
      rw [own_concat] at counted
      split_ifs at counted
      · rw [registrations_append] at counted
        omega
      · exact counted
    unfold everyone at held
    rw [List.map_append, Server.after_append] at held
    exact earlier before (Server.held_before (by omega) held)

end Shared

end Ledger
