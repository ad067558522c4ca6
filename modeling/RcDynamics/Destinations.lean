import RcDynamics.Initialisation

/-!
# Requests about destinations

The requests that register and remove destinations of a stream. Whether a removal is accepted is
a function of the answers of the device and of the number of the question it begins with, so a
sequence of removals is described before it is run: the ones accepted before the first that
fails are the changes it makes.
-/

namespace RcDynamics

open Effect

/-- A request that registers destinations of a stream. -/
def RemoteInterface.registration (iface : RemoteInterface) (stream : String)
    (destinations : List String) : Request :=
  request .put (.datastream stream) (some (destinationArgs destinations)) iface.timeoutCurl iface

/-- A request that removes destinations of a stream. -/
def RemoteInterface.deletion (iface : RemoteInterface) (stream : String)
    (destinations : List String) : Request :=
  request .delete (.datastream stream) (some (destinationArgs destinations)) iface.timeoutCurl iface

/-- The destinations named in a body are the given ones. -/
theorem destinations_args (method : Method) (resource : Resource) (destinations : List String)
    (timeout : Int) (iface : RemoteInterface) :
    (request method resource (some (destinationArgs destinations)) timeout iface).destinations =
      destinations := by
  have strings : destinations.filterMap (Json.string? ∘ Json.string) = destinations := by
    rw [show Json.string? ∘ Json.string = some from rfl, List.filterMap_some]
  simpa [Request.destinations, request, destinationArgs, Json.find?, Json.elements,
    List.filterMap_map] using strings

/-- The change that a registration asks for. -/
theorem change_registration (iface : RemoteInterface) (stream : String)
    (destinations : List String) :
    (iface.registration stream destinations).change = some (.put stream destinations) := by
  have named := destinations_args .put (.datastream stream) destinations iface.timeoutCurl iface
  unfold RemoteInterface.registration Request.change
  rw [named]
  rfl

/-- The change that a removal asks for. -/
theorem change_deletion (iface : RemoteInterface) (stream : String)
    (destinations : List String) :
    (iface.deletion stream destinations).change = some (.delete stream destinations) := by
  have named := destinations_args .delete (.datastream stream) destinations iface.timeoutCurl iface
  unfold RemoteInterface.deletion Request.change
  rw [named]
  rfl

/-- The state with another list of destinations for a stream. -/
def Sys.track (s : Sys) (stream : String) (destinations : List String) : Sys :=
  { s with iface := s.iface.track stream destinations }

/-- Whether a removal that begins with a question is accepted, and the number of the question
after it: a body that cannot be printed is not sent, and an answer has to be 200. -/
def deleteAccepted (env : Env) (iface : RemoteInterface) (stream : String)
    (destinations : List String) (n : Nat) : Bool × Nat :=
  if destinations.all env.utf8 then
    let (result, m) := answer env (iface.deletion stream destinations) waitBeforeRetry n
    (isSuccess result, m)
  else (false, n)

/-- Some events are the attempts of one removal, which was accepted or not. -/
structure Removal (env : Env) (stream : String) (destinations : List String) (accepted : Bool)
    (events : List Event) (s t : Sys) : Prop extends Sys.Extends events s t where
  outcome : deleteAccepted env s.iface stream destinations s.world.tick = (accepted, t.world.tick)
  changed : changes events = if accepted then [.delete stream destinations] else []
  silent : Silent events
  asked : ∀ sent ∈ requests events, sent = s.iface.deletion stream destinations
  attempted : destinations.all env.utf8 = true →
    s.iface.deletion stream destinations ∈ requests events

/-- A removal whose body can be printed is one request that has to succeed. -/
theorem run_deleteRequest_valid {env : Env} {stream : String} {destinations : List String}
    (valid : destinations.all env.utf8 = true) (s : Sys) :
    (RemoteInterface.deleteRequest env stream destinations).run s =
      (withRetry env (s.iface.deletion stream destinations) waitBeforeRetry >>=
        handleCPRResponse).run s := by
  unfold RemoteInterface.deleteRequest dumpArgs cprDeleteWithRetry RemoteInterface.deletion
  rw [if_pos valid, pure_bind, run_this_bind, bind_assoc, run_this_bind]

/-- A removal that is accepted returns, and one that is not throws. -/
theorem run_deleteRequest (env : Env) (stream : String) (destinations : List String) (s : Sys) :
    ∃ events t,
      Removal env stream destinations true events s t ∧
          (RemoteInterface.deleteRequest env stream destinations).run s = .ok () t ∨
        Removal env stream destinations false events s t ∧ ∃ e, e.isException = true ∧
          (RemoteInterface.deleteRequest env stream destinations).run s = .error e t := by
  by_cases valid : destinations.all env.utf8
  · obtain ⟨result, events, t, answered, exchange, ends⟩ :=
      run_checkedRequest env (s.iface.deletion stream destinations) s
    have outcome : deleteAccepted env s.iface stream destinations s.world.tick =
        (isSuccess result, t.world.tick) := by
      rw [deleteAccepted, if_pos valid, answered]
    have silent : Silent events :=
      exchange.silent (by simp [RemoteInterface.deletion, request])
    have changed := exchange.changed
    rw [Request.acknowledged, change_deletion] at changed
    rw [run_deleteRequest_valid valid]
    refine ⟨events, t, ends.imp ?_ ?_⟩
    · rintro ⟨success, ran⟩
      rw [success] at outcome changed
      exact ⟨⟨exchange.toExtends, outcome, changed, silent, exchange.single,
        fun _ => exchange.attempted⟩, ran⟩
    · rintro ⟨failure, ran⟩
      rw [failure] at outcome changed
      exact ⟨⟨exchange.toExtends, outcome, changed, silent, exchange.single,
        fun _ => exchange.attempted⟩, ran⟩
  · refine ⟨[], s, Or.inr ⟨⟨Sys.Extends.refl s, ?_, rfl, .nil, ?_, ?_⟩, Json.invalidUtf8, rfl, ?_⟩⟩
    · rw [deleteAccepted, if_neg valid]
    · simp [requests]
    · exact fun all => absurd all valid
    · unfold RemoteInterface.deleteRequest dumpArgs
      rw [if_neg valid]
      rfl

/-- The groups of a sequence of removals that are accepted before the first that is not. -/
def acceptedGroups (env : Env) (iface : RemoteInterface) (stream : String) :
    List (List String) → Nat → List (List String)
  | [], _ => []
  | group :: groups, n =>
    match deleteAccepted env iface stream group n with
    | (true, m) => group :: acceptedGroups env iface stream groups m
    | (false, _) => []

/-- The groups of a sequence of removals that are tried: the accepted ones and the one after. -/
def triedGroups (env : Env) (iface : RemoteInterface) (stream : String)
    (groups : List (List String)) (n : Nat) : List (List String) :=
  groups.take ((acceptedGroups env iface stream groups n).length + 1)

/-- Some events are the attempts of a sequence of removals up to the first that fails. -/
structure Removals (env : Env) (stream : String) (groups : List (List String))
    (events : List Event) (s t : Sys) : Prop extends Sys.Extends events s t where
  changed : changes events =
    (acceptedGroups env s.iface stream groups s.world.tick).map (.delete stream)
  silent : Silent events
  asked : ∀ sent ∈ requests events,
    ∃ group ∈ triedGroups env s.iface stream groups s.world.tick,
      sent = s.iface.deletion stream group
  attempted : ∀ group ∈ triedGroups env s.iface stream groups s.world.tick,
    group.all env.utf8 = true → s.iface.deletion stream group ∈ requests events

/-- A sequence of removals returns when all are accepted and throws at the first that is not. -/
theorem run_deleteGroups (env : Env) (stream : String) (groups : List (List String)) (s : Sys) :
    ∃ events t, Removals env stream groups events s t ∧
      (acceptedGroups env s.iface stream groups s.world.tick = groups ∧
          (forM groups (RemoteInterface.deleteRequest env stream)).run s = .ok () t ∨
        acceptedGroups env s.iface stream groups s.world.tick ≠ groups ∧
          ∃ e, e.isException = true ∧
            (forM groups (RemoteInterface.deleteRequest env stream)).run s = .error e t) := by
  induction groups generalizing s with
  | nil =>
    exact ⟨[], s, ⟨Sys.Extends.refl s, rfl, .nil, by simp [requests], by simp [triedGroups]⟩,
      Or.inl ⟨rfl, rfl⟩⟩
  | cons group groups ih =>
    obtain ⟨events, t, ⟨removal, ran⟩ | ⟨removal, e, caught, ran⟩⟩ :=
      run_deleteRequest env stream group s
    · obtain ⟨more, u, rest, ends⟩ := ih t
      have same := removal.iface
      have accepted : acceptedGroups env s.iface stream (group :: groups) s.world.tick =
          group :: acceptedGroups env t.iface stream groups t.world.tick := by
        rw [acceptedGroups, removal.outcome, same]
      have tried : triedGroups env s.iface stream (group :: groups) s.world.tick =
          group :: triedGroups env t.iface stream groups t.world.tick := by
        rw [triedGroups, accepted]
        rfl
      refine ⟨events ++ more, u, ⟨removal.toExtends.trans rest.toExtends, ?_, ?_, ?_, ?_⟩, ?_⟩
      · rw [changes_append, removal.changed, rest.changed, accepted]
        rfl
      · exact removal.silent.append rest.silent
      · intro sent member
        rw [tried]
        rw [requests_append] at member
        rcases List.mem_append.mp member with first | later
        · exact ⟨group, List.mem_cons_self, removal.asked sent first⟩
        · obtain ⟨g, present, eq⟩ := rest.asked sent later
          exact ⟨g, List.mem_cons_of_mem group present, same ▸ eq⟩
      · intro g member valid
        rw [requests_append, List.mem_append]
        rw [tried] at member
        rcases List.mem_cons.mp member with rfl | later
        · exact Or.inl (removal.attempted valid)
        · exact Or.inr (same ▸ rest.attempted g later valid)
      · rw [accepted, List.forM_cons, run_bind_of_ok ran]
        simpa using ends
    · have accepted : acceptedGroups env s.iface stream (group :: groups) s.world.tick = [] := by
        rw [acceptedGroups, removal.outcome]
      have tried : triedGroups env s.iface stream (group :: groups) s.world.tick = [group] := by
        rw [triedGroups, accepted]
        rfl
      refine ⟨events, t, ⟨removal.toExtends, ?_, removal.silent, ?_, ?_⟩,
        Or.inr ⟨?_, e, caught, ?_⟩⟩
      · rw [accepted, removal.changed]
        rfl
      · exact fun sent member =>
          ⟨group, tried ▸ List.mem_singleton_self group, removal.asked sent member⟩
      · intro g member valid
        rw [tried, List.mem_singleton] at member
        exact member ▸ removal.attempted (member ▸ valid)
      · rw [accepted]
        exact (List.cons_ne_nil group groups).symm
      · rw [List.forM_cons]
        exact run_bind_of_error ran

/-- A stream that an initialised object knows. -/
structure Available (iface : RemoteInterface) (stream : String) : Prop where
  initialized : iface.initialized = true
  listed : stream ∈ iface.availStreams

/-- Replacing a list of destinations does not change which streams are available. -/
theorem Available.track {iface : RemoteInterface} {stream : String}
    (available : Available iface stream) (k : String) (destinations : List String) :
    Available (iface.track k destinations) stream := ⟨available.initialized, available.listed⟩

/-- Nor does looking up a message type. -/
theorem Available.touch {iface : RemoteInterface} {stream : String}
    (available : Available iface stream) (key : String) :
    Available (iface.touchProtobuf key) stream := ⟨available.initialized, available.listed⟩

namespace RemoteInterface

variable (env : Env)

/-- An initialised object is not initialised again. -/
theorem run_ensureInitialized {s : Sys} (ready : s.iface.initialized = true) :
    (ensureInitialized env).run s = .ok () s := by
  unfold ensureInitialized
  rw [run_this_bind, if_pos ready]
  rfl

/-- An available stream passes the check. -/
theorem run_checkStreamTypeAvailable {s : Sys} {stream : String}
    (available : Available s.iface stream) :
    (checkStreamTypeAvailable env stream).run s = .ok () s := by
  unfold checkStreamTypeAvailable
  rw [run_bind_of_ok (run_ensureInitialized env available.initialized), run_this_bind,
    if_pos available.listed]
  rfl

/-- Another stream of an initialised object does not. -/
theorem run_checkStreamTypeAvailable_unlisted {s : Sys} {stream : String}
    (ready : s.iface.initialized = true) (unlisted : stream ∉ s.iface.availStreams) :
    ∃ e, e.isException = true ∧ (checkStreamTypeAvailable env stream).run s = .error e s := by
  unfold checkStreamTypeAvailable
  rw [run_bind_of_ok (run_ensureInitialized env ready), run_this_bind, if_neg unlisted]
  exact ⟨_, rfl, rfl⟩

/-- A stream that passes the check is available. -/
theorem checkStreamTypeAvailable_ok {s t : Sys} {stream : String}
    (ran : (checkStreamTypeAvailable env stream).run s = .ok () t) : Available t.iface stream := by
  unfold checkStreamTypeAvailable ensureInitialized at ran
  obtain ⟨_, u, ensured, rest⟩ := run_bind_eq_ok.mp ran
  rw [run_this_bind] at rest ensured
  split_ifs at rest with listed
  · cases rest
    refine ⟨?_, listed⟩
    split_ifs at ensured with ready
    · cases ensured
      exact ready
    · obtain ⟨done, v, checked, passed⟩ := run_bind_eq_ok.mp ensured
      cases done with
      | false => cases passed
      | true =>
        cases passed
        exact checkSystemReady_true env checked
  · cases rest

/-- An answer 403 ends in an exception. -/
theorem run_tooManyDestinations (put : Response) (s : Sys) :
    ∃ e, (tooManyDestinations env put).run s = .error e s := by
  unfold tooManyDestinations parseJson
  cases env.parse put.text with
  | none => exact ⟨_, rfl⟩
  | some j =>
    simp only [pure_bind]
    cases (do (← j.index "message").getString : Except Exn String) with
    | ok message => exact ⟨_, rfl⟩
    | error e => exact ⟨_, rfl⟩

/-- Adding a destination to an available stream whose body can be printed. -/
theorem run_addDestinationToStream_valid {s : Sys} {stream destination : String}
    (available : Available s.iface stream) (valid : env.utf8 destination = true) :
    (addDestinationToStream env stream destination).run s =
      (withRetry env (s.iface.registration stream [destination]) waitBeforeRetry >>= fun put =>
        if put.statusCode = 403 then tooManyDestinations env put
        else do
          handleCPRResponse put
          setIface fun iface => iface.track stream (iface.tracked stream ++ [destination])).run
        s := by
  unfold addDestinationToStream dumpArgs cprPutWithRetry registration
  rw [run_bind_of_ok (run_checkStreamTypeAvailable env available), if_pos (by simpa using valid),
    pure_bind, run_this_bind, bind_assoc, run_this_bind]

/-- Adding a destination to an available stream: either it is registered by one acknowledged PUT
and entered once, or nothing is acknowledged, nothing is entered, and the call throws. -/
theorem run_addDestinationToStream {s : Sys} {stream : String}
    (available : Available s.iface stream) (destination : String) :
    ∃ events t, Sys.Extends events s t ∧ Silent events ∧
      (env.utf8 destination = true ∧ changes events = [.put stream [destination]] ∧
          (addDestinationToStream env stream destination).run s =
            .ok () (t.track stream (t.iface.tracked stream ++ [destination])) ∨
        changes events = [] ∧
          ∃ e, (addDestinationToStream env stream destination).run s = .error e t) := by
  by_cases valid : env.utf8 destination
  · obtain ⟨events, t, exchange, _, ends⟩ :=
      run_request env (s.iface.registration stream [destination]) s
    have silent : Silent events := exchange.silent (by simp [registration, request])
    have changed := exchange.changed
    rw [Request.acknowledged, change_registration] at changed
    refine ⟨events, t, exchange.toExtends, silent, ?_⟩
    rw [run_addDestinationToStream_valid env available valid, EStateM.run_bind, ends]
    generalize (answer env _ waitBeforeRetry s.world.tick).1 = result at changed
    cases result with
    | none => exact Or.inr ⟨changed, _, rfl⟩
    | some r =>
      simp only
      by_cases success : r.statusCode = 200
      · refine Or.inl ⟨valid, by simpa [isSuccess, success] using changed, ?_⟩
        rw [if_neg (by omega), run_bind_of_ok (run_handleCPRResponse_ok success t), run_setIface]
        rfl
      · refine Or.inr ⟨by simpa [isSuccess, success] using changed, ?_⟩
        split_ifs with full
        · exact run_tooManyDestinations env r t
        · obtain ⟨e, _, thrown⟩ := run_handleCPRResponse_error success t
          exact ⟨e, run_bind_of_error thrown⟩
  · refine ⟨[], s, Sys.Extends.refl s, .nil, Or.inr ⟨rfl, Json.invalidUtf8, ?_⟩⟩
    unfold addDestinationToStream dumpArgs
    rw [run_bind_of_ok (run_checkStreamTypeAvailable env available), if_neg (by simpa using valid)]
    rfl

/-- The groups in which destinations are removed: all at once, or one by one on older firmware. -/
def deletionGroups (iface : RemoteInterface) (destinations : List String) : List (List String) :=
  if usesSingleRequest iface.visardVersion then [destinations] else destinations.map ([·])

/-- A list is the concatenation of its elements. -/
theorem flatten_singletons (destinations : List String) :
    (destinations.map ([·])).flatten = destinations := by
  rw [← List.flatMap_def]
  exact List.flatMap_singleton' destinations

/-- The groups consist of the destinations in their order. -/
theorem flatten_deletionGroups (iface : RemoteInterface) (destinations : List String) :
    (iface.deletionGroups destinations).flatten = destinations := by
  unfold deletionGroups
  split_ifs
  · exact List.flatten_singleton
  · exact flatten_singletons destinations

/-- The requests of a removal are those of its groups. -/
theorem run_deleteRequests (stream : String) (destinations : List String) (s : Sys) :
    (deleteRequests env stream destinations).run s =
      (forM (s.iface.deletionGroups destinations) (deleteRequest env stream)).run s := by
  unfold deleteRequests deletionGroups
  rw [run_this_bind]
  split_ifs
  · rw [List.forM_cons, List.forM_nil, bind_pure_unit]
  · rw [List.forM_map]

/-- The removal of one destination from an available stream: it is entered when it is accepted. -/
theorem run_deleteDestinationFromStream {s : Sys} {stream : String}
    (available : Available s.iface stream) (destination : String) :
    ∃ events t,
      Removal env stream [destination] true events s t ∧
          (deleteDestinationFromStream env stream destination).run s =
            .ok () (t.track stream ((t.iface.tracked stream).erase destination)) ∨
        Removal env stream [destination] false events s t ∧ ∃ e, e.isException = true ∧
          (deleteDestinationFromStream env stream destination).run s = .error e t := by
  unfold deleteDestinationFromStream
  rw [run_bind_of_ok (run_checkStreamTypeAvailable env available)]
  obtain ⟨events, t, ⟨removal, ran⟩ | ⟨removal, e, caught, ran⟩⟩ :=
    run_deleteRequest env stream [destination] s
  · refine ⟨events, t, Or.inl ⟨removal, ?_⟩⟩
    rw [run_bind_of_ok ran, run_setIface]
    simp only [Sys.track, CellList.values_eraseFirst, CellList.values_ofList]
  · exact ⟨events, t, Or.inr ⟨removal, e, caught, run_bind_of_error ran⟩⟩

/-- The removal of a list of the caller's from an available stream: all of it is entered when all
of it is accepted, and nothing of it otherwise. -/
theorem run_deleteDestinationsFromStream {s : Sys} {stream : String}
    (available : Available s.iface stream) (destinations : List String) :
    ∃ events t,
      Removals env stream (s.iface.deletionGroups destinations) events s t ∧
      (acceptedGroups env s.iface stream (s.iface.deletionGroups destinations) s.world.tick =
            s.iface.deletionGroups destinations ∧
          (deleteDestinationsFromStream env stream (.list destinations)).run s =
            .ok () (t.track stream (destinations.foldl List.erase (t.iface.tracked stream))) ∨
        acceptedGroups env s.iface stream (s.iface.deletionGroups destinations) s.world.tick ≠
            s.iface.deletionGroups destinations ∧ ∃ e, e.isException = true ∧
          (deleteDestinationsFromStream env stream (.list destinations)).run s = .error e t) := by
  obtain ⟨events, t, removals, ends⟩ :=
    run_deleteGroups env stream (s.iface.deletionGroups destinations) s
  refine ⟨events, t, removals, ?_⟩
  unfold deleteDestinationsFromStream
  rw [run_bind_of_ok (run_checkStreamTypeAvailable env available), Destinations.read, pure_bind]
  rw [← run_deleteRequests] at ends
  refine ends.imp ?_ ?_
  · rintro ⟨all, ran⟩
    refine ⟨all, ?_⟩
    rw [run_bind_of_ok ran, eraseRequested, run_setIface]
    simp only [Sys.track, CellList.values_eraseEach, CellList.values_ofList]
  · rintro ⟨stopped, e, caught, ran⟩
    exact ⟨stopped, e, caught, run_bind_of_error ran⟩

end RemoteInterface

end RcDynamics
