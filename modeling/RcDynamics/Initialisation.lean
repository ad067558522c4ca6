import RcDynamics.Calls

/-!
# Initialisation

What `checkSystemReady` leaves behind, for every answer of the device and every point at which
it can be abandoned: the lists of requested destinations are gone, and an object that calls
itself initialised describes the last answer to `/datastreams` as a whole.
-/

namespace RcDynamics

open Effect

/-- The name and the message type of a stream in an answer to `/datastreams`. -/
def streamEntry (stream : Json) : Except Exn (String × String) := do
  let name ← RemoteInterface.streamMember stream "name"
  let protobuf ← RemoteInterface.streamMember stream "protobuf"
  return (name, protobuf)

/-- The message type in the last entry of a name. -/
def lastType (entries : List (String × String)) (name : String) : Option String :=
  entries.reverse.lookup name

/-- An answer that lists streams, in its order. -/
def Announces (env : Env) (r : Response) (entries : List (String × String)) : Prop :=
  r.statusCode = 200 ∧ ∃ j, env.parse r.text = some j ∧ j.elements.mapM streamEntry = .ok entries

/-- The object knows exactly these streams: their names in order, and for each name the message
type of its last entry. -/
structure Describes (iface : RemoteInterface) (entries : List (String × String)) : Prop where
  streams : iface.availStreams = entries.map Prod.fst
  types : ∀ name, iface.protobufMap[name]? = lastType entries name

/-- The object describes the last answer to `/datastreams`. -/
def Described (env : Env) (s : Sys) : Prop :=
  ∃ r entries, (streamAnswers s.world.trace).getLast? = some r ∧ Announces env r entries ∧
    Describes s.iface entries

/-- A name has a last entry exactly when it is listed. -/
theorem lastType_isSome (entries : List (String × String)) (name : String) :
    (lastType entries name).isSome ↔ name ∈ entries.map Prod.fst := by
  rw [lastType, List.lookup_isSome_iff]
  simp

/-- An earlier entry counts only for names that are not listed later. -/
theorem lastType_cons (entry : String × String) (entries : List (String × String))
    (name : String) :
    lastType (entry :: entries) name =
      (lastType entries name).or (if entry.1 = name then some entry.2 else none) := by
  unfold lastType
  rw [List.reverse_cons, List.lookup_append, List.lookup_cons, List.lookup_nil]
  by_cases same : entry.1 = name
  · simp [same]
  · rw [if_neg same, beq_eq_false_iff_ne.mpr (Ne.symm same)]

/-- What reading the streams does not touch. -/
def unlisted (iface : RemoteInterface) : RemoteInterface :=
  { iface with availStreams := [], protobufMap := ∅ }

/-- What finding out the version does not touch. -/
def unversioned (iface : RemoteInterface) : RemoteInterface := { iface with visardVersion := 0 }

/-- A change of members that are not observed is aside. -/
theorem setIface_aside {β : Type} {observe : RemoteInterface → β}
    (f : RemoteInterface → RemoteInterface) (hidden : ∀ iface, observe (f iface) = observe iface)
    (s : Sys) : Within (Aside observe) (setIface f) s :=
  Within.of_run rfl ⟨hidden s.iface, Nat.le_refl _, [], (List.append_nil _).symm, rfl, .nil⟩

namespace RemoteInterface

variable (env : Env)

/-- The first half of `checkSystemReady` changes only the version. -/
theorem readSystem_aside (s : Sys) : Within (Aside unversioned) (readSystem env) s := by
  unfold readSystem
  refine (allocate_aside env s).bind fun _ t _ => ?_
  refine (this_within t).bind fun _ t _ => ?_
  refine (cprGetWithRetry_aside env (by decide) _ t).bind fun response t _ => ?_
  split
  · exact Within.pure false t
  refine (handleCPRResponse_within response t).bind fun _ t _ => ?_
  refine (allocate_aside env t).bind fun _ t _ => ?_
  refine (this_within t).bind fun _ t _ => ?_
  refine (cprGetWithRetry_aside env (by decide) _ t).bind fun getSystem t _ => ?_
  refine (handleCPRResponse_within getSystem t).bind fun _ t _ => ?_
  refine (parseJson_within env _ t).bind fun j t _ => ?_
  refine (lift_within _ t).bind fun ready t _ => ?_
  split
  · exact Within.pure false t
  refine (lift_within _ t).bind fun version t _ => ?_
  refine (allocate_aside env t).bind fun _ t _ => ?_
  refine (setIface_aside _ (fun iface => ?_) t).bind fun _ t _ => Within.pure true t
  unfold setVersion
  cases extractVersion version <;> rfl

/-- One stream changes only what is known of the streams. -/
theorem addStream_aside (stream : Json) (s : Sys) :
    Within (Aside unlisted) (addStream env stream) s := by
  unfold addStream
  refine (allocate_aside env s).bind fun _ t _ => ?_
  refine (lift_within _ t).bind fun _ t _ => ?_
  refine (setIface_aside _ (fun _ => by rfl) t).bind fun _ t _ => ?_
  refine (allocate_aside env t).bind fun _ t _ => ?_
  split
  · refine (lift_within _ t).bind fun _ t _ => ?_
    refine (lift_within _ t).bind fun _ t _ => ?_
    exact setIface_aside _ (fun _ => by rfl) t
  · refine (lift_within _ t).bind fun _ t _ => ?_
    refine (setIface_aside _ (fun _ => by rfl) t).bind fun _ t _ => ?_
    refine (lift_within _ t).bind fun _ t _ => ?_
    exact setIface_aside _ (fun _ => by rfl) t

/-- An iteration that returns has read an entry, appended its name and set its type. -/
theorem addStream_ok {stream : Json} {s t : Sys} (ran : (addStream env stream).run s = .ok () t) :
    ∃ entry, streamEntry stream = .ok entry ∧
      t.iface.availStreams = s.iface.availStreams ++ [entry.1] ∧
      ∀ key, t.iface.protobufMap[key]? =
        if entry.1 = key then some entry.2 else s.iface.protobufMap[key]? := by
  unfold addStream at ran
  obtain ⟨_, s₁, first, ran₁⟩ := run_bind_eq_ok.mp ran
  obtain ⟨name, s₂, named, ran₂⟩ := run_bind_eq_ok.mp ran₁
  obtain ⟨nameEq, rfl⟩ := lift_ok_iff.mp named
  rw [run_setIface_bind] at ran₂
  obtain ⟨_, s₃, second, ran₃⟩ := run_bind_eq_ok.mp ran₂
  have firstKeeps := (allocate_ok env first).iface
  have secondKeeps := (allocate_ok env second).iface
  split at ran₃
  · obtain ⟨protobuf, s₄, typed, ran₄⟩ := run_bind_eq_ok.mp ran₃
    obtain ⟨typeEq, rfl⟩ := lift_ok_iff.mp typed
    obtain ⟨key, s₅, keyed, ran₅⟩ := run_bind_eq_ok.mp ran₄
    obtain ⟨keyEq, rfl⟩ := lift_ok_iff.mp keyed
    cases ran₅
    obtain rfl : key = name := by simpa [keyEq] using nameEq
    refine ⟨(key, protobuf), by simp [streamEntry, keyEq, typeEq]; rfl, ?_, fun k => ?_⟩
    · simp [setProtobuf, secondKeeps, firstKeeps]
    · simp [setProtobuf, secondKeeps, firstKeeps, Std.TreeMap.getElem?_insert]
  · obtain ⟨key, s₄, keyed, ran₄⟩ := run_bind_eq_ok.mp ran₃
    obtain ⟨keyEq, rfl⟩ := lift_ok_iff.mp keyed
    rw [run_setIface_bind] at ran₄
    obtain ⟨protobuf, s₅, typed, ran₅⟩ := run_bind_eq_ok.mp ran₄
    obtain ⟨typeEq, rfl⟩ := lift_ok_iff.mp typed
    cases ran₅
    obtain rfl : key = name := by simpa [keyEq] using nameEq
    refine ⟨(key, protobuf), by simp [streamEntry, keyEq, typeEq]; rfl, ?_, fun k => ?_⟩
    · simp [setProtobuf, touchProtobuf, secondKeeps, firstKeeps]
    · by_cases same : key = k
      · simp [setProtobuf, same]
      · simp [setProtobuf, touchProtobuf, secondKeeps, firstKeeps, Std.TreeMap.getElem?_insert,
          Std.TreeMap.getElem?_insertIfNew, same]

/-- A loop that returns has read an entry from each stream: the names are appended in order, and
the last entry of a name counts. -/
theorem forM_addStream_ok {streams : List Json} {s t : Sys}
    (ran : (forM streams (addStream env)).run s = .ok () t) :
    ∃ entries, streams.mapM streamEntry = .ok entries ∧
      t.iface.availStreams = s.iface.availStreams ++ entries.map Prod.fst ∧
      ∀ name, t.iface.protobufMap[name]? =
        (lastType entries name).or s.iface.protobufMap[name]? := by
  induction streams generalizing s with
  | nil =>
    cases ran
    exact ⟨[], rfl, (List.append_nil _).symm, fun _ => rfl⟩
  | cons stream streams ih =>
    rw [List.forM_cons] at ran
    obtain ⟨_, u, added, rest⟩ := run_bind_eq_ok.mp ran
    obtain ⟨entry, entryEq, pushed, set⟩ := addStream_ok env added
    obtain ⟨entries, entriesEq, streamsEq, typesEq⟩ := ih rest
    refine ⟨entry :: entries, ?_, ?_, fun name => ?_⟩
    · simp only [List.mapM_cons, entryEq, entriesEq]
      rfl
    · rw [streamsEq, pushed, List.map_cons, List.append_assoc, List.singleton_append]
    · rw [typesEq, set, lastType_cons]
      split_ifs
      · cases lastType entries name <;> rfl
      · cases lastType entries name <;> rfl

/-- Reading the streams is harmless and changes only what is known of them. -/
theorem readStreams_harmless (s : Sys) : Within (Harmless unlisted) (readStreams env) s := by
  unfold readStreams
  have weaken {t u : Sys} (aside : Aside unlisted t u) : Harmless unlisted t u := aside.harmless
  refine ((allocate_aside env s).mono fun _ => weaken).bind fun _ t _ => ?_
  refine ((this_within t).mono fun _ => weaken).bind fun iface t _ => ?_
  refine Within.bind ?_ fun r t _ => ?_
  · obtain ⟨events, u, exchange, _, ends⟩ :=
      run_request env (request .get .datastreams none iface.timeoutCurl t.iface) t
    have harmless : Harmless unlisted t u :=
      ⟨congrArg unlisted exchange.iface, exchange.tick, events, exchange.trace,
        exchange.unchanged rfl⟩
    refine Within.of_run ends ?_
    cases (answer env _ waitBeforeRetry t.world.tick).1 with
    | some r => exact harmless
    | none => exact harmless
  refine ((handleCPRResponse_within r t).mono fun _ => weaken).bind fun _ t _ => ?_
  refine ((parseJson_within env _ t).mono fun _ => weaken).bind fun j t _ => ?_
  exact Within.forM j.elements fun stream _ u => (addStream_aside env stream u).mono fun _ => weaken

/-- Streams that have been read from a state that knew none describe the last answer. -/
theorem readStreams_ok {s t : Sys} (unknown : s.iface.availStreams = [])
    (untyped : s.iface.protobufMap = ∅) (ran : (readStreams env).run s = .ok () t) :
    Described env t := by
  unfold readStreams at ran
  obtain ⟨_, s₁, first, ran₁⟩ := run_bind_eq_ok.mp ran
  have firstKeeps := (allocate_ok env first).iface
  rw [run_this_bind] at ran₁
  obtain ⟨r, s₂, got, ran₂⟩ := run_bind_eq_ok.mp ran₁
  obtain ⟨_, s₃, passed, ran₃⟩ := run_bind_eq_ok.mp ran₂
  obtain ⟨j, s₄, parsed, ran₄⟩ := run_bind_eq_ok.mp ran₃
  obtain ⟨success, rfl⟩ := handleCPRResponse_ok passed
  obtain ⟨document, rfl⟩ := parseJson_ok parsed
  obtain ⟨events, exchange⟩ := exchange_of_ok got
  obtain ⟨entries, decoded, streamsEq, typesEq⟩ := forM_addStream_ok env ran₄
  have looped : Within (Aside unlisted) (forM j.elements (addStream env)) s₄ :=
    Within.forM j.elements fun stream _ u => addStream_aside env stream u
  obtain ⟨later, laterTrace, _, laterSilent⟩ := (looped.of_ok ran₄).trace
  have known : s₄.iface = s.iface := exchange.iface.trans firstKeeps
  refine ⟨r, entries, ?_, ⟨success, j, document, decoded⟩, ?_, fun name => ?_⟩
  · have last := exchange.listed rfl rfl r rfl
    rw [laterTrace, exchange.trace, streamAnswers_append, streamAnswers_append,
      laterSilent.streamAnswers, List.append_nil, List.getLast?_append, last]
    rfl
  · rw [streamsEq, known, unknown, List.nil_append]
  · rw [typesEq, known, untyped]
    simp

/-- What a run of `checkSystemReady` leaves behind, whether it returns or throws. -/
structure Initialised (s t : Sys) : Prop where
  tick : s.world.tick ≤ t.world.tick
  trace : ∃ events, t.world.trace = s.world.trace ++ events ∧ changes events = []
  reqStreams : t.iface.reqStreams = ∅
  described : t.iface.initialized = true → Described env t

/-- Whatever harmless happens after the reset leaves the lists of destinations empty. -/
theorem initialised_of_harmless {s t : Sys}
    (harmless : Harmless reqStreams { s with iface := s.iface.reset } t)
    (described : t.iface.initialized = true → Described env t) : Initialised env s t where
  tick := harmless.tick
  trace := harmless.trace
  reqStreams := harmless.observed
  described := described

/-- A run of `checkSystemReady` in its two halves. -/
theorem run_checkSystemReady (s : Sys) :
    (checkSystemReady env).run s =
      match (readSystem env).run { s with iface := s.iface.reset } with
      | .error e t => .error e t
      | .ok false t => .ok false t
      | .ok true t => match (readStreams env).run t with
        | .error e u => .error e u
        | .ok _ u => .ok true { u with iface := { u.iface with initialized := true } } := by
  unfold checkSystemReady
  rw [run_setIface_bind, EStateM.run_bind]
  cases (readSystem env).run { s with iface := s.iface.reset } with
  | error e t => rfl
  | ok ready t =>
    cases ready with
    | false => rfl
    | true =>
      simp only [if_true, EStateM.run_bind]
      cases (readStreams env).run t <;> rfl

/-- An object that does not call itself initialised need not describe anything. -/
theorem described_of_unset {s t : Sys} (kept : t.iface.initialized = s.iface.initialized)
    (unset : s.iface.initialized = false) : t.iface.initialized = true → Described env t :=
  fun ready => absurd (ready.symm.trans (kept.trans unset)) (by decide)

/-- `checkSystemReady` clears the lists of destinations, and the object calls itself initialised
only when it describes the last answer. -/
theorem checkSystemReady_initialised (s : Sys) :
    Within (Initialised env) (checkSystemReady env) s := by
  have system := readSystem_aside env { s with iface := s.iface.reset }
  have early {t : Sys} (aside : Aside unversioned { s with iface := s.iface.reset } t) :
      Harmless reqStreams { s with iface := s.iface.reset } t :=
    aside.harmless.coarsen reqStreams reqStreams fun _ => rfl
  have unset {t : Sys} (aside : Aside unversioned { s with iface := s.iface.reset } t) :
      t.iface.initialized = false := congrArg initialized aside.observed
  unfold Within
  rw [run_checkSystemReady]
  cases first : (readSystem env).run { s with iface := s.iface.reset } with
  | error e t =>
    have aside := system.of_error first
    exact initialised_of_harmless env (early aside) (described_of_unset env rfl (unset aside))
  | ok ready t =>
    have aside := system.of_ok first
    cases ready with
    | false =>
      exact initialised_of_harmless env (early aside) (described_of_unset env rfl (unset aside))
    | true =>
      have streams := readStreams_harmless env t
      have late {u : Sys} (harmless : Harmless unlisted t u) :
          Harmless reqStreams { s with iface := s.iface.reset } u :=
        trans_of _ (early aside) (harmless.coarsen reqStreams reqStreams fun _ => rfl)
      simp only
      cases second : (readStreams env).run t with
      | error e u =>
        have harmless := streams.of_error second
        have kept : u.iface.initialized = t.iface.initialized :=
          (congrArg initialized harmless.observed :)
        exact initialised_of_harmless env (late harmless)
          (described_of_unset env kept (unset aside))
      | ok _ u =>
        obtain ⟨observed, tick, trace⟩ := late (streams.of_ok second)
        obtain ⟨r, entries, last, announced, described⟩ := readStreams_ok env
          (congrArg availStreams aside.observed) (congrArg protobufMap aside.observed) second
        exact initialised_of_harmless env ⟨observed, tick, trace⟩ fun _ =>
          ⟨r, entries, last, announced, described.streams, described.types⟩

/-- The object calls itself initialised when `checkSystemReady` returns `true`. -/
theorem checkSystemReady_true {s t : Sys} (ran : (checkSystemReady env).run s = .ok true t) :
    t.iface.initialized = true := by
  rw [run_checkSystemReady] at ran
  cases first : (readSystem env).run { s with iface := s.iface.reset } with
  | error e t =>
    rw [first] at ran
    cases ran
  | ok ready u =>
    rw [first] at ran
    cases ready with
    | false => cases ran
    | true =>
      simp only at ran
      cases second : (readStreams env).run u with
      | error e v =>
        rw [second] at ran
        cases ran
      | ok _ v =>
        rw [second] at ran
        cases ran
        rfl

end RemoteInterface

end RcDynamics
