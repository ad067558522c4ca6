import RcDynamics.Destinations

/-!
# What calls leave alone

All that operations do apart from their sockets is to change the object, to ask questions and to
record events. A relation of states that allows these steps, for requests of some kind, relates
the states of every operation that sends requests of this kind only: initialising the object and
explaining a timeout get resources, and a call about a destination names it. The requests sent
and the sockets open are two such relations.
-/

namespace RcDynamics

open Effect

/-- A relation that allows changes of the object, questions, and events whose requests have a
property. -/
structure Allows (P : Request → Prop) (R : Sys → Sys → Prop) : Prop where
  iface : ∀ (s : Sys) (f : RemoteInterface → RemoteInterface), R s { s with iface := f s.iface }
  tick : ∀ s : Sys, R s { s with world.tick := s.world.tick + 1 }
  event : ∀ (s : Sys) (e : Event), (∀ sent ∈ requests [e], P sent) →
    R s { s with world.trace := s.world.trace ++ [e] }

/-- A relation that allows what a request with a property takes: changes of the object, questions,
the request with its answer, and waiting for another attempt. Receivers are left out. -/
structure Converses (P : Request → Prop) (R : Sys → Sys → Prop) : Prop where
  iface : ∀ (s : Sys) (f : RemoteInterface → RemoteInterface), R s { s with iface := f s.iface }
  tick : ∀ s : Sys, R s { s with world.tick := s.world.tick + 1 }
  http : ∀ (s : Sys) (request : Request) (response : Response), P request →
    R s { s with world.trace := s.world.trace ++ [.http request response] }
  wait : ∀ (s : Sys) (ms : Nat), R s { s with world.trace := s.world.trace ++ [.wait ms] }

/-- What allows all events allows those of requests. -/
theorem Allows.converses {P : Request → Prop} {R : Sys → Sys → Prop} (allows : Allows P R) :
    Converses P R where
  iface := allows.iface
  tick := allows.tick
  http s request response holds := by
    apply allows.event s (.http request response)
    simpa [requests] using holds
  wait s ms := allows.event s (.wait ms) (by simp [requests])

section Steps

variable {P : Request → Prop} {R : Sys → Sys → Prop} [Std.Refl R] [IsTrans Sys R]

variable (converses : Converses P R)

omit [Std.Refl R] [IsTrans Sys R] in
/-- Recording an event is allowed when its requests are. -/
theorem emit_allowed (allows : Allows P R) {e : Event} (allowed : ∀ sent ∈ requests [e], P sent)
    (s : Sys) : Within R (emit e) s := Within.of_run rfl (allows.event s e allowed)

include converses

omit [Std.Refl R] [IsTrans Sys R] in
/-- Numbering a question is allowed. -/
theorem tick_allowed (s : Sys) : Within R tick s := Within.of_run rfl (converses.tick s)

omit [Std.Refl R] [IsTrans Sys R] in
/-- Changing the object is allowed. -/
theorem setIface_allowed (f : RemoteInterface → RemoteInterface) (s : Sys) :
    Within R (setIface f) s := Within.of_run rfl (converses.iface s f)

/-- Allocating is allowed. -/
theorem allocate_allowed (env : Env) (s : Sys) : Within R (allocate env) s :=
  allocate_within (tick_allowed converses) env s

/-- A request with retries is allowed when the request is. -/
theorem withRetry_allowed (env : Env) {request : Request} (holds : P request) (waits : List Nat)
    (s : Sys) : Within R (withRetry env request waits) s := by
  induction waits generalizing s with
  | nil => exact Within.throw _ s
  | cons wait waits ih =>
    have sent (response : Response) (t : Sys) : Within R (emit (.http request response)) t :=
      Within.of_run rfl (converses.http t request response holds)
    have waited (t : Sys) : Within R (emit (.wait wait)) t :=
      Within.of_run rfl (converses.wait t wait)
    rw [withRetry]
    refine Within.bind ?_ fun response t _ => ?_
    · refine (tick_allowed converses s).bind fun n t _ => ?_
      exact (sent _ t).bind fun _ t _ => Within.pure _ t
    · split
      · exact (waited t).bind fun _ t _ => ih t
      · exact Within.pure response t

end Steps

namespace RemoteInterface

section Gets

variable {P : Request → Prop} {R : Sys → Sys → Prop} [Std.Refl R] [IsTrans Sys R]
variable (converses : Converses P R)

/-- The requests that get a resource have a property. -/
abbrev Gets (P : Request → Prop) (resource : Resource) : Prop :=
  ∀ request : Request, request.method = .get → request.resource = resource → P request

variable (env : Env)

include converses

/-- Getting a resource. -/
theorem cprGetWithRetry_allowed {resource : Resource} (gets : Gets P resource) (timeout : Int)
    (s : Sys) : Within R (cprGetWithRetry env resource timeout) s :=
  (this_within s).bind fun _ t _ =>
    withRetry_allowed converses env (gets _ rfl rfl) waitBeforeRetry t

/-- Entering a stream sends nothing. -/
theorem addStream_allowed (stream : Json) (s : Sys) : Within R (addStream env stream) s := by
  unfold addStream
  refine (allocate_allowed converses env s).bind fun _ t _ => ?_
  refine (lift_within _ t).bind fun _ t _ => ?_
  refine (setIface_allowed converses _ t).bind fun _ t _ => ?_
  refine (allocate_allowed converses env t).bind fun _ t _ => ?_
  split
  · refine (lift_within _ t).bind fun _ t _ => ?_
    exact (lift_within _ t).bind fun _ t _ => setIface_allowed converses _ t
  · refine (lift_within _ t).bind fun _ t _ => ?_
    refine (setIface_allowed converses _ t).bind fun _ t _ => ?_
    exact (lift_within _ t).bind fun _ t _ => setIface_allowed converses _ t

/-- Asking for a state gets its resource. -/
theorem getState_allowed {node : String} (gets : Gets P (.status node)) (s : Sys) :
    Within R (getState env node) s := by
  unfold getState
  refine (this_within s).bind fun _ t _ => ?_
  refine (cprGetWithRetry_allowed converses env gets _ t).bind fun r t _ => ?_
  refine (handleCPRResponse_within r t).bind fun _ t _ => ?_
  refine Within.tryCatch ((parseJson_within env _ t).bind fun j t _ => lift_within _ t) ?_
  intro e t _
  split
  · exact Within.pure _ t
  · exact Within.throw e t

/-- Explaining a timeout asks for a state. -/
theorem explainTimeout_allowed (gets : Gets P (.status "rc_dynamics")) (s : Sys) :
    Within R (explainTimeout env) s := by
  unfold explainTimeout
  refine (getState_allowed converses env gets s).bind fun currentState t _ => ?_
  split
  · exact Within.throw _ t
  · exact Within.throw _ t

variable (system : Gets P .system)

include system

/-- The first half of `checkSystemReady` gets the system. -/
theorem readSystem_allowed (s : Sys) : Within R (readSystem env) s := by
  unfold readSystem
  refine (allocate_allowed converses env s).bind fun _ t _ => ?_
  refine (this_within t).bind fun _ t _ => ?_
  refine (cprGetWithRetry_allowed converses env system _ t).bind fun response t _ => ?_
  split
  · exact Within.pure false t
  refine (handleCPRResponse_within response t).bind fun _ t _ => ?_
  refine (allocate_allowed converses env t).bind fun _ t _ => ?_
  refine (this_within t).bind fun _ t _ => ?_
  refine (cprGetWithRetry_allowed converses env system _ t).bind fun getSystem t _ => ?_
  refine (handleCPRResponse_within getSystem t).bind fun _ t _ => ?_
  refine (parseJson_within env _ t).bind fun j t _ => ?_
  refine (lift_within _ t).bind fun ready t _ => ?_
  split
  · exact Within.pure false t
  refine (lift_within _ t).bind fun version t _ => ?_
  refine (allocate_allowed converses env t).bind fun _ t _ => ?_
  exact (setIface_allowed converses _ t).bind fun _ t _ => Within.pure true t

variable (datastreams : Gets P .datastreams)

include datastreams

omit system in
/-- The second half of `checkSystemReady` gets the streams. -/
theorem readStreams_allowed (s : Sys) : Within R (readStreams env) s := by
  unfold readStreams
  refine (allocate_allowed converses env s).bind fun _ t _ => ?_
  refine (this_within t).bind fun _ t _ => ?_
  refine (cprGetWithRetry_allowed converses env datastreams _ t).bind fun getStreams t _ => ?_
  refine (handleCPRResponse_within getStreams t).bind fun _ t _ => ?_
  refine (parseJson_within env _ t).bind fun j t _ => ?_
  exact Within.forM j.elements fun stream _ u => addStream_allowed converses env stream u

/-- `checkSystemReady` gets both. -/
theorem checkSystemReady_allowed (s : Sys) : Within R (checkSystemReady env) s := by
  unfold checkSystemReady
  refine (setIface_allowed converses _ s).bind fun _ t _ => ?_
  refine (readSystem_allowed converses env system t).bind fun ready t _ => ?_
  split
  · refine (readStreams_allowed converses env datastreams t).bind fun _ t _ => ?_
    exact (setIface_allowed converses _ t).bind fun _ t _ => Within.pure true t
  · exact Within.pure false t

/-- So does a lazy initialisation. -/
theorem ensureInitialized_allowed (s : Sys) : Within R (ensureInitialized env) s := by
  unfold ensureInitialized
  refine (this_within s).bind fun _ t _ => ?_
  split
  · exact Within.pure () t
  · refine (checkSystemReady_allowed converses env system datastreams t).bind fun ready t _ => ?_
    split
    · exact Within.pure () t
    · exact Within.throw _ t

/-- The check of a stream initialises the object. -/
theorem checkStreamTypeAvailable_allowed (stream : String) (s : Sys) :
    Within R (checkStreamTypeAvailable env stream) s := by
  unfold checkStreamTypeAvailable
  refine (ensureInitialized_allowed converses env system datastreams s).bind fun _ t _ => ?_
  refine (this_within t).bind fun _ t _ => ?_
  split
  · exact Within.pure () t
  · exact Within.throw _ t

end Gets

section Destinations

/-- A request that gets, or that names one destination and no other. -/
def Names (destination : String) (request : Request) : Prop :=
  request.method = .get ∨ request.destinations = [destination]

/-- Getting is naming no destination. -/
theorem names_of_get (destination : String) (resource : Resource) :
    Gets (Names destination) resource := fun _ get _ => Or.inl get

/-- The body of a request about a destination names it. -/
theorem names_of_body {env : Env} {destination : String} {body : Json} {s t : Sys}
    (printed : (dumpArgs env [destination]).run s = .ok body t) (method : Method)
    (resource : Resource) (timeout : Int) (iface : RemoteInterface) :
    Names destination (request method resource (some body) timeout iface) := by
  unfold dumpArgs at printed
  split at printed
  · cases printed
    exact Or.inr (destinations_args method resource [destination] timeout iface)
  · cases printed

variable {R : Sys → Sys → Prop} [Std.Refl R] [IsTrans Sys R] {destination : String}
variable (env : Env) (stream : String)

section Requests

variable (converses : Converses (Names destination) R)

include converses

/-- Registering a destination names it. -/
theorem addDestinationToStream_allowed (s : Sys) :
    Within R (addDestinationToStream env stream destination) s := by
  unfold addDestinationToStream
  refine (checkStreamTypeAvailable_allowed converses env (names_of_get _ _)
    (names_of_get _ _) stream s).bind fun _ t _ => ?_
  refine (dumpArgs_within env _ t).bind fun body u printed => ?_
  refine (this_within u).bind fun iface u _ => ?_
  refine Within.bind ?_ fun put u _ => ?_
  · exact (this_within u).bind fun iface u _ =>
      withRetry_allowed converses env (names_of_body printed .put _ _ iface) waitBeforeRetry u
  split
  · exact tooManyDestinations_within env put u
  · exact (handleCPRResponse_within put u).bind fun _ u _ => setIface_allowed converses _ u

/-- Removing a destination names it. -/
theorem deleteDestinationFromStream_allowed (s : Sys) :
    Within R (deleteDestinationFromStream env stream destination) s := by
  unfold deleteDestinationFromStream deleteRequest
  refine (checkStreamTypeAvailable_allowed converses env (names_of_get _ _)
    (names_of_get _ _) stream s).bind fun _ t _ => ?_
  refine Within.bind ?_ fun _ t _ => setIface_allowed converses _ t
  refine (dumpArgs_within env _ t).bind fun body u printed => ?_
  refine (this_within u).bind fun iface u _ => ?_
  refine Within.bind ?_ fun del u _ => handleCPRResponse_within del u
  exact (this_within u).bind fun iface u _ =>
    withRetry_allowed converses env (names_of_body printed .delete _ _ iface) waitBeforeRetry u

end Requests

/-- Requesting a stream and waiting for its first message names the destination. -/
theorem establish_allowed (allows : Allows (Names destination) R) (receiver : TrackedDataReceiver)
    (s : Sys) :
    Within R (establish env receiver stream destination) s := by
  have timeout (ms : Nat) (t : Sys) : Within R (receiver.setTimeout env ms) t := by
    refine (tick_allowed allows.converses t).bind fun n t _ => ?_
    split
    · exact Within.pure () t
    · exact Within.throw _ t
  unfold establish protobufOf
  refine (addDestinationToStream_allowed env stream allows.converses s).bind fun _ t _ => ?_
  refine (timeout initialTimeOut t).bind fun _ t _ => ?_
  refine Within.bind ?_ fun pbMsgType t _ => ?_
  · refine (setIface_allowed allows.converses _ t).bind fun _ t _ => ?_
    exact (this_within t).bind fun _ t _ => Within.pure _ t
  refine Within.bind ?_ fun msg t _ => ?_
  · refine (emit_allowed allows (by simp [requests]) t).bind fun _ t _ => ?_
    split
    · refine (tick_allowed allows.converses t).bind fun n t _ => ?_
      split
      · exact Within.pure _ t
      · split
        · exact Within.pure none t
        · exact Within.throw _ t
    · exact Within.throw _ t
  split
  · exact explainTimeout_allowed allows.converses env (names_of_get _ _) t
  · exact timeout 100 t

end Destinations

end RemoteInterface

/-- Every request sent from one state to a later one has a property. -/
def Asks (P : Request → Prop) (s t : Sys) : Prop :=
  ∃ events, t.world.trace = s.world.trace ++ events ∧ ∀ sent ∈ requests events, P sent

/-- Where nothing is recorded nothing is sent. -/
theorem asks_of_trace {P : Request → Prop} {s t : Sys} (same : t.world.trace = s.world.trace) :
    Asks P s t :=
  ⟨[], by rw [same, List.append_nil], fun _ member => absurd member List.not_mem_nil⟩

/-- Standing still sends nothing. -/
instance Asks.refl {P : Request → Prop} : Std.Refl (Asks P) := ⟨fun _ => asks_of_trace rfl⟩

/-- Requests follow one another. -/
instance Asks.trans {P : Request → Prop} : IsTrans Sys (Asks P) where
  trans s t u first second := by
    obtain ⟨early, earlyTrace, earlyAll⟩ := first
    obtain ⟨late, lateTrace, lateAll⟩ := second
    refine ⟨early ++ late, by rw [lateTrace, earlyTrace, List.append_assoc], fun sent member => ?_⟩
    rw [requests_append] at member
    exact (List.mem_append.mp member).elim (earlyAll sent) (lateAll sent)

/-- The requests sent are those of the events recorded. -/
theorem Asks.allows (P : Request → Prop) : Allows P (Asks P) where
  iface _ _ := asks_of_trace rfl
  tick _ := asks_of_trace rfl
  event _ e allowed := ⟨[e], rfl, allowed⟩

/-- The same sockets are open. -/
def SameSockets (s t : Sys) : Prop := t.world.sockets = s.world.sockets

/-- Standing still leaves the sockets. -/
instance SameSockets.refl : Std.Refl SameSockets := ⟨fun _ => rfl⟩

/-- One thing after another leaves the sockets when both do. -/
instance SameSockets.trans : IsTrans Sys SameSockets :=
  ⟨fun _ _ _ first second => Eq.trans second first⟩

/-- All steps but those on sockets leave the sockets. -/
theorem SameSockets.allows (P : Request → Prop) : Allows P SameSockets where
  iface _ _ := rfl
  tick _ := rfl
  event _ _ _ := rfl

end RcDynamics
