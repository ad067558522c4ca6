import RcDynamics.Checked
import RcDynamics.Documents
import RcDynamics.Trajectory

/-!
# Reads of a document

A decoder follows a path and converts what it finds to a string, or to a number as the setter of a
message takes it. A read fits when the path leads to a value that converts, and it keeps the value
when the conversion loses nothing. A read that does not fit ends in an exception, except that the
const `operator[]` has no defined result for an absent key.
-/

namespace RcDynamics

open Checked

namespace Json

/-- The value of a number. -/
def number? : Json → Option Number
  | unsigned value => some (.finite value)
  | integer value => some (.finite value)
  | float value => some value
  | _ => none

/-- The string at the end of a path. -/
def stringAt (j : Json) (path : List String) : Option String :=
  (j.follow path).value?.bind string?

/-- The number at the end of a path. -/
def numberAt (j : Json) (path : List String) : Option Number :=
  (j.follow path).value?.bind number?

/-- The number at the end of a path is the one at the end of its second part. -/
theorem numberAt_append {j value : Json} {keys : List String} (rest : List String)
    (leads : j.follow keys = .found value) :
    j.numberAt (keys ++ rest) = value.numberAt rest := by
  rw [numberAt, numberAt, follow_append rest leads]

end Json

/-- What a value is read as. -/
inductive Kind where
  | string
  /-- A number, as a setter takes it. -/
  | set (convert : Json → Except Exn Number)
  /-- Any value: it is looked up only, or iterated over. -/
  | any

namespace Kind

/-- A value can be read so. -/
def accepts : Kind → Json → Bool
  | string, j => j.getString.isOk
  | set convert, j => (convert j).isOk
  | any, _ => true

/-- A value can be read so without loss: what the setter takes is the number in the document. -/
def Keeps : Kind → Json → Prop
  | string, j => j.string?.isSome
  | set convert, j => ∃ x, convert j = .ok x ∧ j.number? = some x
  | any, _ => True

/-- What is kept is accepted. -/
theorem accepts_of_keeps {kind : Kind} {j : Json} (keeps : kind.Keeps j) :
    kind.accepts j = true := by
  cases kind with
  | string =>
    cases j with
    | string value => rfl
    | _ => cases keeps
  | set convert =>
    obtain ⟨x, taken, _⟩ := keeps
    rw [accepts, taken]
    rfl
  | any => rfl

end Kind

/-- What a conversion throws are exceptions of the JSON library. -/
def ThrowsJson {α : Type} (convert : Json → Except Exn α) : Prop :=
  ∀ value e, convert value = .error e → e.isJson = true

/-- `get<std::string>()` throws such. -/
theorem getString_throwsJson : ThrowsJson Json.getString := by
  intro value e thrown
  cases value <;> cases thrown <;> rfl

/-- An exception of the JSON library can be caught. -/
theorem Exn.isException_of_isJson {e : Exn} (isJson : e.isJson = true) : e.isException = true := by
  cases e <;> first | rfl | cases isJson

/-- A place in a document, and what its value is read as. -/
structure Read where
  place : Lookup
  kind : Kind

namespace Read

/-- The place has a value that can be read so. -/
def fits (read : Read) : Bool := (read.place.value?.map read.kind.accepts).getD false

/-- The place has a value that can be read so without loss. -/
def Exact (read : Read) : Prop := ∃ value, read.place = .found value ∧ read.kind.Keeps value

/-- The key is absent. -/
def isAbsent (read : Read) : Bool :=
  match read.place with
  | .absent => true
  | _ => false

/-- The exception of a read that does not fit: one that can be caught, unless the key is absent and
the lookup is not safe. -/
def Fault (safe : Bool) (e : Exn) (read : Read) : Prop :=
  e.isException = (safe || !read.isAbsent)

/-- What is read without loss fits. -/
theorem fits_of_exact {read : Read} (exact' : read.Exact) : read.fits = true := by
  obtain ⟨value, found, keeps⟩ := exact'
  simp [fits, found, Lookup.value?, Kind.accepts_of_keeps keeps]

/-- A value that is there is read without loss when its kind keeps it. -/
theorem exact_iff {place : Lookup} {kind : Kind} {value : Json} (found : place = .found value) :
    Read.Exact ⟨place, kind⟩ ↔ kind.Keeps value := by
  subst found
  constructor
  · rintro ⟨other, same, keeps⟩
    cases same
    exact keeps
  · exact fun keeps => ⟨value, rfl, keeps⟩

/-- A value that is there is read as any value without loss. -/
theorem exact_any (value : Json) : Read.Exact ⟨.found value, .any⟩ := ⟨value, rfl, trivial⟩

end Read

/-- A way to look up a key: safe, if it throws when the key is absent. -/
structure Looks (look : Json → String → Except Exn Json) (safe : Bool) : Prop where
  found : ∀ j key value, j.member key = .found value → look j key = .ok value
  absent : ∀ j key, j.member key = .absent → ∃ e, e.isException = safe ∧ look j key = .error e
  blocked : ∀ j key, j.member key = .blocked → ∃ e, e.isException = true ∧ look j key = .error e

/-- The const `operator[]` is not safe. -/
theorem constIndex_looks : Looks Json.constIndex false where
  found j key value leads := by
    obtain ⟨members, rfl, present⟩ := Json.member_found leads
    simp [Json.constIndex, present]
  absent j key lacks := by
    obtain ⟨members, rfl, missing⟩ := Json.member_absent lacks
    exact ⟨.undefined ("json: const operator[] without member " ++ key), rfl,
      by simp [Json.constIndex, missing]⟩
  blocked j key ends := by
    cases j with
    | object members => exact absurd rfl (Json.member_blocked ends members)
    | _ => exact ⟨_, rfl, rfl⟩

/-- `at` is safe. -/
theorem at_looks : Looks Json.at' true where
  found j key value leads := by
    obtain ⟨members, rfl, present⟩ := Json.member_found leads
    simp [Json.at', present]
  absent j key lacks := by
    obtain ⟨members, rfl, missing⟩ := Json.member_absent lacks
    exact ⟨.json "out_of_range" 403 ("key '" ++ key ++ "' not found"), rfl,
      by simp [Json.at', missing]⟩
  blocked j key ends := by
    cases j with
    | object members => exact absurd rfl (Json.member_blocked ends members)
    | _ => exact ⟨_, rfl, rfl⟩

section Following

variable {look : Json → String → Except Exn Json} {safe : Bool}

/-- What a place has is looked up; where there is nothing, an exception is thrown, and it can be
caught unless a key is absent and the lookup is not safe. -/
def LookedUp (safe : Bool) (place : Lookup) (result : Except Exn Json) : Prop :=
  match place with
  | .found value => result = .ok value
  | .absent => ∃ e, e.isException = safe ∧ result = .error e
  | .blocked => ∃ e, e.isException = true ∧ result = .error e

/-- Looking up a path looks up the place it leads to. -/
theorem Looks.follow (looks : Looks look safe) (j : Json) (keys : List String) :
    LookedUp safe (j.follow keys) (keys.foldlM look j) := by
  induction keys generalizing j with
  | nil => rfl
  | cons key keys ih =>
    rw [Json.follow, List.foldlM_cons]
    cases step : j.member key with
    | found value =>
      rw [looks.found j key value step]
      exact ih value
    | absent =>
      obtain ⟨e, isException, thrown⟩ := looks.absent j key step
      rw [thrown]
      exact ⟨e, isException, rfl⟩
    | blocked =>
      obtain ⟨e, isException, thrown⟩ := looks.blocked j key step
      rw [thrown]
      exact ⟨e, isException, rfl⟩

/-- Looking up a path that leads to no value is a fault, whatever is to be read there. -/
theorem Looks.lost (looks : Looks look safe) {j : Json} {keys : List String}
    (lost : (j.follow keys).value? = none) :
    ∃ e, (∀ kind, Read.Fault safe e ⟨j.follow keys, kind⟩) ∧ keys.foldlM look j = .error e := by
  have looked := looks.follow j keys
  cases place : j.follow keys with
  | found value =>
    rw [place] at lost
    cases lost
  | _ =>
    rw [place] at looked
    obtain ⟨e, isException, thrown⟩ := looked
    exact ⟨e, fun _ => by simp [Read.Fault, Read.isAbsent, isException], thrown⟩

/-- Looking up a path and converting what is there makes the check of that read. -/
theorem Looks.follows (looks : Looks look safe) {α : Type} {convert : Json → Except Exn α}
    (throws : ThrowsJson convert) {kind : Kind}
    (same : ∀ value, kind.accepts value = (convert value).isOk) (j : Json) (keys : List String) :
    Follows Read.fits (Read.Fault safe) [⟨j.follow keys, kind⟩]
      (keys.foldlM look j >>= convert) := by
  have looked := looks.follow j keys
  cases place : j.follow keys with
  | found value =>
    rw [place] at looked
    rw [show keys.foldlM look j = .ok value from looked]
    change Follows _ _ _ (convert value)
    have fits : Read.fits ⟨.found value, kind⟩ = (convert value).isOk := same value
    cases converted : convert value with
    | ok a =>
      rw [converted] at fits
      exact Follows.of_fits fits rfl
    | error e =>
      rw [converted] at fits
      refine Follows.of_fault fits rfl ?_
      simp [Read.Fault, Read.isAbsent, Exn.isException_of_isJson (throws value e converted)]
  | _ =>
    obtain ⟨e, fault, thrown⟩ := looks.lost (by rw [place]; rfl)
    rw [thrown]
    exact Follows.of_fault rfl rfl (place ▸ fault kind)

/-- A value read at the end of a path is there. -/
theorem Looks.converted (looks : Looks look safe) {α : Type} {convert : Json → Except Exn α}
    {j : Json} {keys : List String} {a : α} (ran : (keys.foldlM look j >>= convert) = .ok a) :
    ∃ value, j.follow keys = .found value ∧ convert value = .ok a := by
  have looked := looks.follow j keys
  cases place : j.follow keys with
  | found value =>
    rw [place] at looked
    rw [show keys.foldlM look j = .ok value from looked] at ran
    exact ⟨value, rfl, ran⟩
  | _ =>
    obtain ⟨e, _, thrown⟩ := looks.lost (by rw [place]; rfl)
    rw [thrown] at ran
    cases ran

/-- What has been looked up at the end of a path is there. -/
theorem Looks.found_of_ok (looks : Looks look safe) {j value : Json} {keys : List String}
    (ran : keys.foldlM look j = .ok value) : j.follow keys = .found value := by
  have returned : (keys.foldlM look j >>= Except.ok) = .ok value := by
    rw [ran]
    rfl
  obtain ⟨other, found, same⟩ := looks.converted returned
  cases same
  exact found

/-- Looking up a string. -/
theorem Looks.follows_string (looks : Looks look safe) (j : Json) (keys : List String) :
    Follows Read.fits (Read.Fault safe) [⟨j.follow keys, .string⟩]
      (keys.foldlM look j >>= Json.getString) :=
  looks.follows getString_throwsJson (fun _ => rfl) j keys

/-- Looking up a number for a setter. -/
theorem Looks.follows_set (looks : Looks look safe) {convert : Json → Except Exn Number}
    (throws : ThrowsJson convert) (j : Json) (keys : List String) :
    Follows Read.fits (Read.Fault safe) [⟨j.follow keys, .set convert⟩]
      (keys.foldlM look j >>= convert) :=
  looks.follows throws (fun _ => rfl) j keys

/-- Looking up any value. -/
theorem Looks.follows_any (looks : Looks look safe) (j : Json) (keys : List String) :
    Follows Read.fits (Read.Fault safe) [⟨j.follow keys, .any⟩] (keys.foldlM look j) := by
  have looked := looks.follow j keys
  cases place : j.follow keys with
  | found value =>
    rw [place] at looked
    exact Follows.of_fits rfl looked
  | _ =>
    obtain ⟨e, fault, thrown⟩ := looks.lost (by rw [place]; rfl)
    exact Follows.of_fault rfl thrown (place ▸ fault .any)

/-- A string that has been looked up is the one in the document. -/
theorem Looks.string_exact (looks : Looks look safe) {j : Json} {keys : List String} {text : String}
    (ran : (keys.foldlM look j >>= Json.getString) = .ok text) :
    Read.Exact ⟨j.follow keys, .string⟩ ∧ j.stringAt keys = some text := by
  obtain ⟨value, found, converted⟩ := looks.converted ran
  cases value <;> cases converted
  exact ⟨⟨_, found, rfl⟩, by rw [Json.stringAt, found]; rfl⟩

/-- A number that a setter has taken is the one in the document exactly when the read is. -/
theorem Looks.set_exact_iff (looks : Looks look safe) {convert : Json → Except Exn Number}
    {j : Json} {keys : List String} {x : Number}
    (ran : (keys.foldlM look j >>= convert) = .ok x) :
    Read.Exact ⟨j.follow keys, .set convert⟩ ↔ j.numberAt keys = some x := by
  obtain ⟨value, found, converted⟩ := looks.converted ran
  have kept : (Kind.set convert).Keeps value ↔ value.number? = some x := by
    rw [Kind.Keeps, converted]
    simp
  rw [Read.exact_iff found, kept, Json.numberAt, found]
  rfl

end Following

/-- A decoder ends with the content of the document, or with an exception that can be caught. -/
def Faithful {α : Type} (content : α → Prop) : Except Exn α → Prop
  | .ok a => content a
  | .error e => e.isException = true

/-- The reads end with an exception that can be caught: the first that does not fit lacks no key,
or the lookup is safe. -/
def Refused (safe : Bool) (reads : List Read) : Prop :=
  ∃ read, firstUnfit Read.fits reads = some read ∧ (safe || !read.isAbsent) = true

/-- A decoder that follows its reads, and whose result is the content exactly when all reads keep
their values, is faithful exactly when the reads are refused or keep their values. -/
theorem faithful_iff {α : Type} {safe : Bool} {reads : List Read} {content : α → Prop}
    {m : Except Exn α} (follows : Follows Read.fits (Read.Fault safe) reads m)
    (described : ∀ a, m = .ok a → (content a ↔ ∀ read ∈ reads, read.Exact)) :
    Faithful content m ↔ Refused safe reads ∨ ∀ read ∈ reads, read.Exact := by
  cases m with
  | ok a =>
    have fit : firstUnfit Read.fits reads = none := follows
    have unrefused : ¬Refused safe reads := by
      rintro ⟨read, unfit, _⟩
      rw [fit] at unfit
      cases unfit
    exact (described a rfl).trans (or_iff_right unrefused).symm
  | error e =>
    obtain ⟨read, unfit, fault⟩ := follows
    have inexact : ¬∀ read ∈ reads, read.Exact := by
      intro all
      obtain ⟨member, misfit⟩ := firstUnfit_eq_some unfit
      rw [Read.fits_of_exact (all read member)] at misfit
      cases misfit
    rw [or_iff_left inexact]
    change e.isException = true ↔ Refused safe reads
    rw [show e.isException = (safe || !read.isAbsent) from fault]
    constructor
    · exact fun caught => ⟨read, unfit, caught⟩
    · rintro ⟨other, same, caught⟩
      rw [unfit] at same
      cases same
      exact caught

end RcDynamics
