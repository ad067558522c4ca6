import RcDynamics.Device

/-!
# Paths in documents

Where a path of keys leads in a document: to a value, to an object without the next key, or to a
value that has no members at all. The three ways of the JSON library to read a key are compared
with it. The non-const `operator[]` reads a null where there is no key, the const one is undefined
there, and `at` throws.
-/

namespace RcDynamics

/-- Caught by `catch (nlohmann::json::exception&)`. -/
def Exn.isJson : Exn → Bool
  | .json _ _ _ => true
  | _ => false

/-- Where a path leads. -/
inductive Lookup where
  | found (value : Json)
  /-- An object on the way does not have the next key. -/
  | absent
  /-- A value on the way has no members. -/
  | blocked

/-- The value at the end of a path, if it leads to one. -/
def Lookup.value? : Lookup → Option Json
  | found value => some value
  | _ => none

/-- The path leads to no value, or to null. -/
def Lookup.Missing (lookup : Lookup) : Prop := ∀ value, lookup.value? = some value → value = .null

namespace Json

/-- A boolean, if the value is one. -/
def boolean? : Json → Option Bool
  | boolean value => some value
  | _ => none

/-- The integer value of a number, without the fraction that it may have. -/
def integer? : Json → Option Int
  | unsigned value => some value
  | integer value => some value
  | float value => value.truncated?
  | _ => none

/-- A step along one key. -/
def member (j : Json) (key : String) : Lookup :=
  match j with
  | object members =>
    match members.lookup key with
    | some value => .found value
    | none => .absent
  | _ => .blocked

/-- The place that a path of keys leads to. -/
def follow (j : Json) : List String → Lookup
  | [] => .found j
  | key :: keys =>
    match j.member key with
    | .found value => value.follow keys
    | .absent => .absent
    | .blocked => .blocked

/-- A path ends where its second part ends from the end of its first part. -/
theorem follow_append {j value : Json} {keys : List String} (rest : List String)
    (leads : j.follow keys = .found value) : j.follow (keys ++ rest) = value.follow rest := by
  induction keys generalizing j with
  | nil =>
    cases leads
    rfl
  | cons key keys ih =>
    rw [follow] at leads
    rw [List.cons_append, follow]
    cases step : j.member key with
    | found next =>
      rw [step] at leads
      exact ih leads
    | absent =>
      rw [step] at leads
      cases leads
    | blocked =>
      rw [step] at leads
      cases leads

/-- A key leads to a value in an object that has it. -/
theorem member_found {j value : Json} {key : String} (leads : j.member key = .found value) :
    ∃ members, j = object members ∧ members.lookup key = some value := by
  cases j with
  | object members =>
    unfold member at leads
    cases present : members.lookup key with
    | some other =>
      simp only [present, Lookup.found.injEq] at leads
      exact ⟨members, rfl, leads ▸ present⟩
    | none => simp [present] at leads
  | _ => cases leads

/-- A key is absent in an object that does not have it. -/
theorem member_absent {j : Json} {key : String} (lacks : j.member key = .absent) :
    ∃ members, j = object members ∧ members.lookup key = none := by
  cases j with
  | object members =>
    unfold member at lacks
    cases present : members.lookup key with
    | some other => simp [present] at lacks
    | none => exact ⟨members, rfl, present⟩
  | _ => cases lacks

/-- A key is out of reach in a value that is no object. -/
theorem member_blocked {j : Json} {key : String} (ends : j.member key = .blocked)
    (members : List (String × Json)) : j ≠ object members := by
  rintro rfl
  unfold member at ends
  cases present : members.lookup key <;> simp [present] at ends

/-- What a key leads to is found. -/
theorem find?_of_follow {j value : Json} {key : String} (leads : j.follow [key] = .found value) :
    j.find? key = some value := by
  rw [follow] at leads
  cases step : j.member key with
  | found other =>
    rw [step] at leads
    cases leads
    obtain ⟨members, rfl, present⟩ := member_found step
    exact present
  | _ =>
    rw [step] at leads
    cases leads

/-- The non-const `operator[]` reads the value of a key. -/
theorem index_found {j value : Json} {key : String} (leads : j.member key = .found value) :
    j.index key = .ok value := by
  obtain ⟨members, rfl, present⟩ := member_found leads
  simp [index, present]

/-- Without the key it reads a null, or the value has no members. -/
theorem index_lost (j : Json) (key : String) (lost : (j.member key).value? = none) :
    j.index key = .ok null ∨ j.index key = .error (noOperator j) := by
  cases step : j.member key with
  | found value =>
    rw [step] at lost
    cases lost
  | absent =>
    obtain ⟨members, rfl, present⟩ := member_absent step
    exact Or.inl (by simp [index, present])
  | blocked =>
    cases j with
    | object members => exact absurd rfl (member_blocked step members)
    | null => exact Or.inl rfl
    | _ => exact Or.inr rfl

/-- A path from null reads null. -/
theorem foldlM_index_null (keys : List String) : keys.foldlM index null = .ok null := by
  induction keys with
  | nil => rfl
  | cons key keys ih =>
    rw [List.foldlM_cons]
    exact ih

/-- A path read with the non-const `operator[]` yields the value it leads to. -/
theorem foldlM_index_found {j value : Json} {keys : List String}
    (leads : j.follow keys = .found value) : keys.foldlM index j = .ok value := by
  induction keys generalizing j with
  | nil =>
    cases leads
    rfl
  | cons key keys ih =>
    rw [follow] at leads
    rw [List.foldlM_cons]
    cases step : j.member key with
    | found next =>
      rw [step] at leads
      rw [index_found step]
      exact ih leads
    | absent =>
      rw [step] at leads
      cases leads
    | blocked =>
      rw [step] at leads
      cases leads

/-- A path that leads to no value reads null, or ends in an exception of the JSON library. -/
theorem foldlM_index_lost {j : Json} {keys : List String}
    (lost : (j.follow keys).value? = none) :
    keys.foldlM index j = .ok null ∨ ∃ e, e.isJson = true ∧ keys.foldlM index j = .error e := by
  induction keys generalizing j with
  | nil => cases lost
  | cons key keys ih =>
    rw [follow] at lost
    rw [List.foldlM_cons]
    cases step : j.member key with
    | found next =>
      rw [step] at lost
      rw [index_found step]
      exact ih lost
    | _ =>
      rcases index_lost j key (by rw [step]; rfl) with null | thrown
      · rw [null]
        exact Or.inl (foldlM_index_null keys)
      · rw [thrown]
        exact Or.inr ⟨_, rfl, rfl⟩

/-- Nested reads with `operator[]` are a read along a path. -/
theorem index_pair {α : Type} (j : Json) (outer inner : String) (convert : Json → Except Exn α) :
    (do convert (← (← j.index outer).index inner)) =
      ([outer, inner].foldlM index j >>= convert) := by
  simp only [List.foldlM_cons, List.foldlM_nil, bind_pure, bind_assoc]

/-- A conversion accepts the values of one type, and throws an exception of the library for
every other value, null included. -/
structure Converts {α : Type} (convert : Json → Except Exn α) (view : Json → Option α) : Prop where
  accepts : ∀ value a, view value = some a → convert value = .ok a
  rejects : ∀ value, view value = none → ∃ e, e.isJson = true ∧ convert value = .error e
  null : view null = none

/-- `get<std::string>()` accepts strings. -/
theorem getString_converts : Converts getString string? where
  accepts value text is := by
    cases value <;> cases is
    rfl
  rejects value other := by
    cases value with
    | string text => cases other
    | _ => exact ⟨_, rfl, rfl⟩
  null := rfl

/-- `get<bool>()` accepts booleans. -/
theorem getBool_converts : Converts getBool boolean? where
  accepts value bool is := by
    cases value <;> cases is
    rfl
  rejects value other := by
    cases value with
    | boolean bool => cases other
    | _ => exact ⟨_, rfl, rfl⟩
  null := rfl

/-- A value of the type at the end of a path is read. -/
theorem Converts.read_some {α : Type} {convert : Json → Except Exn α} {view : Json → Option α}
    (converts : Converts convert view) {j : Json} {keys : List String} {a : α}
    (leads : (j.follow keys).value?.bind view = some a) :
    (keys.foldlM index j >>= convert) = .ok a := by
  cases place : j.follow keys with
  | found value =>
    rw [place] at leads
    rw [foldlM_index_found place]
    exact converts.accepts value a leads
  | _ =>
    rw [place] at leads
    cases leads

/-- Anything else there, or nothing, is an exception of the JSON library. -/
theorem Converts.read_none {α : Type} {convert : Json → Except Exn α} {view : Json → Option α}
    (converts : Converts convert view) {j : Json} {keys : List String}
    (misses : (j.follow keys).value?.bind view = none) :
    ∃ e, e.isJson = true ∧ (keys.foldlM index j >>= convert) = .error e := by
  cases place : j.follow keys with
  | found value =>
    rw [place] at misses
    rw [foldlM_index_found place]
    exact converts.rejects value misses
  | _ =>
    rcases foldlM_index_lost (by rw [place]; rfl) with null | ⟨e, isJson, thrown⟩
    · rw [null]
      exact converts.rejects .null converts.null
    · rw [thrown]
      exact ⟨e, isJson, rfl⟩

end Json

end RcDynamics
