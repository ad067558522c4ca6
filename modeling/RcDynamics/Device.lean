import RcDynamics.Http
import RcDynamics.Ledger

/-!
# The device

The device is a server of destinations by stream: a PUT adds and a DELETE removes the
destinations named in its body, exactly when the answer is 200. The changes of a trace are the
history of a ledger whose lists are `req_streams_`. One description of a request from any state
is all that the operations need: which changes it makes, and that the object is untouched.
-/

namespace RcDynamics

/-- A request acknowledged by the device. -/
abbrev Change := Ledger.Change String String

/-- The destinations registered for each stream. -/
abbrev Device := Ledger.Server String String

/-- A string, if the value is one. -/
def Json.string? : Json → Option String
  | .string value => some value
  | _ => none

/-- The destinations named in the body of a request. -/
def Request.destinations (request : Request) : List String :=
  match request.body.bind (·.find? "destination") with
  | some j => j.elements.filterMap Json.string?
  | none => []

/-- The change that a request asks for. -/
def Request.change (request : Request) : Option Change :=
  match request.method, request.resource with
  | .put, .datastream stream => some (.put stream request.destinations)
  | .delete, .datastream stream => some (.delete stream request.destinations)
  | _, _ => none

/-- The change that an event makes: the one asked for, when the answer is 200. -/
def Event.change : Event → Option Change
  | .http request response => if response.statusCode = 200 then request.change else none
  | _ => none

/-- The changes made by a sequence of events. -/
def changes (events : List Event) : List Change := events.filterMap Event.change

/-- The changes of two parts of a trace are those of both in order. -/
@[simp] theorem changes_append (first second : List Event) :
    changes (first ++ second) = changes first ++ changes second := List.filterMap_append

/-- Rejected attempts change nothing. -/
theorem changes_rejected {request : Request} {events : List Event}
    (rejected : ∀ e ∈ events, Rejection request e) : changes events = [] := by
  refine List.filterMap_eq_nil_iff.mpr fun e member => ?_
  cases e with
  | http sent response =>
    obtain ⟨_, status⟩ := rejected _ member
    simp [Event.change, status]
  | wait ms => rfl
  | receive pbMsgType => rfl

/-- The answers to GET requests of `/datastreams`. -/
def Event.streamAnswer : Event → Option Response
  | .http request response =>
    if request.method = .get ∧ request.resource = .datastreams then some response else none
  | _ => none

/-- The answers to `/datastreams` in a sequence of events. -/
def streamAnswers (events : List Event) : List Response := events.filterMap Event.streamAnswer

/-- The answers of two parts of a trace are those of both in order. -/
@[simp] theorem streamAnswers_append (first second : List Event) :
    streamAnswers (first ++ second) = streamAnswers first ++ streamAnswers second :=
  List.filterMap_append

/-- The message types that receivers are asked for. -/
def receives (events : List Event) : List String :=
  events.filterMap fun
    | .receive pbMsgType => some pbMsgType
    | _ => none

/-- The types of two parts of a trace are those of both in order. -/
@[simp] theorem receives_append (first second : List Event) :
    receives (first ++ second) = receives first ++ receives second := List.filterMap_append

/-- Rejected attempts ask no receiver. -/
theorem receives_rejected {request : Request} {events : List Event}
    (rejected : ∀ e ∈ events, Rejection request e) : receives events = [] := by
  refine List.filterMap_eq_nil_iff.mpr fun e member => ?_
  cases e with
  | http sent response => rfl
  | wait ms => rfl
  | receive pbMsgType => exact absurd (rejected _ member) not_false

/-- The requests among some events, attempts included. -/
def requests (events : List Event) : List Request :=
  events.filterMap fun
    | .http request _ => some request
    | _ => none

/-- The requests of two parts of a trace are those of both in order. -/
@[simp] theorem requests_append (first second : List Event) :
    requests (first ++ second) = requests first ++ requests second := List.filterMap_append

/-- Without a request for `/datastreams` there is no answer to one. -/
theorem streamAnswers_eq_nil {events : List Event}
    (others : ∀ request ∈ requests events, request.resource ≠ .datastreams) :
    streamAnswers events = [] := by
  refine List.filterMap_eq_nil_iff.mpr fun e member => ?_
  cases e with
  | http request response =>
    have other := others request (List.mem_filterMap.mpr ⟨_, member, rfl⟩)
    simp [Event.streamAnswer, other]
  | wait ms => rfl
  | receive pbMsgType => rfl

/-- Rejected attempts are attempts of the one request. -/
theorem requests_rejected {request : Request} {events : List Event}
    (rejected : ∀ e ∈ events, Rejection request e) : ∀ sent ∈ requests events, sent = request := by
  intro sent member
  obtain ⟨e, present, asked⟩ := List.mem_filterMap.mp member
  cases e with
  | http other response =>
    cases asked
    exact (rejected _ present).1
  | wait ms => cases asked
  | receive pbMsgType => cases asked

/-- A later state with the same object. -/
structure Sys.Extends (events : List Event) (s t : Sys) : Prop where
  iface : t.iface = s.iface
  tick : s.world.tick ≤ t.world.tick
  trace : t.world.trace = s.world.trace ++ events

/-- Nothing happens in no events. -/
theorem Sys.Extends.refl (s : Sys) : Sys.Extends [] s s :=
  ⟨rfl, Nat.le_refl _, (List.append_nil _).symm⟩

/-- Events follow one another. -/
theorem Sys.Extends.trans {first second : List Event} {s t u : Sys} (early : Sys.Extends first s t)
    (late : Sys.Extends second t u) : Sys.Extends (first ++ second) s u where
  iface := late.iface.trans early.iface
  tick := Nat.le_trans early.tick late.tick
  trace := by rw [late.trace, early.trace, List.append_assoc]

/-- Advancing to a later question. -/
theorem Sys.extends_advance {s : Sys} {n : Nat} (later : s.world.tick ≤ n) (events : List Event) :
    Sys.Extends events s (s.advance n events) := ⟨rfl, later, rfl⟩

/-- The changes that an answered request makes. -/
def Request.acknowledged (request : Request) (result : Option Response) : List Change :=
  if isSuccess result then request.change.toList else []

/-- An answered request makes the changes acknowledged by its answer. -/
theorem changes_http (request : Request) (r : Response) :
    changes [.http request r] = request.acknowledged (some r) := by
  simp only [changes, List.filterMap_cons, List.filterMap_nil, Event.change,
    Request.acknowledged, isSuccess, decide_eq_true_eq]
  split_ifs
  · cases request.change <;> rfl
  · rfl

/-- Some events are the attempts of one request, and the object is untouched by them. -/
structure Exchange (request : Request) (result : Option Response) (events : List Event)
    (s t : Sys) : Prop extends Sys.Extends events s t where
  changed : changes events = request.acknowledged result
  single : ∀ sent ∈ requests events, sent = request
  attempted : request ∈ requests events
  listed : request.method = .get → request.resource = .datastreams →
    ∀ r, result = some r → (streamAnswers events).getLast? = some r
  unreceived : receives events = []

/-- A request with the retries of the library is an exchange, and its result is the answer. -/
theorem run_request (env : Env) (request : Request) (s : Sys) :
    ∃ events t, Exchange request (answer env request waitBeforeRetry s.world.tick).1 events s t ∧
      t.world.tick = (answer env request waitBeforeRetry s.world.tick).2 ∧
      (withRetry env request waitBeforeRetry).run s =
        match (answer env request waitBeforeRetry s.world.tick).1 with
        | some r => .ok r t
        | none => .error (.tooManyRequests request.url) t := by
  obtain ⟨rejected, rejections, attempted, ends⟩ := run_withRetry env request waitBeforeRetry s
  have later := answer_le env request waitBeforeRetry s.world.tick
  have unchanged := changes_rejected rejections
  have attempts := requests_rejected rejections
  cases asked : answer env request waitBeforeRetry s.world.tick with
  | mk result n =>
    rw [asked] at ends later
    cases result with
    | some r =>
      refine ⟨_, _, ⟨Sys.extends_advance later _, ?_, ?_, ?_, ?_, ?_⟩, rfl, ends⟩
      · rw [changes_append, unchanged, List.nil_append, changes_http]
      · intro sent member
        rw [requests_append] at member
        exact (List.mem_append.mp member).elim (attempts sent) fun last => by
          simpa [requests] using last
      · simp [requests]
      · intro get datastreams r' same
        cases same
        simp [streamAnswers, Event.streamAnswer, get, datastreams]
      · rw [receives_append, receives_rejected rejections]
        rfl
    | none =>
      refine ⟨_, _, ⟨Sys.extends_advance later _, unchanged, attempts, ?_, ?_,
        receives_rejected rejections⟩, rfl, ends⟩
      · obtain ⟨r, present⟩ := attempted (by rw [asked]) (by decide)
        exact List.mem_filterMap.mpr ⟨_, present, rfl⟩
      · intro _ _ r same
        cases same

/-- A request whose answer has to be a success returns or throws accordingly. -/
theorem run_checkedRequest (env : Env) (request : Request) (s : Sys) :
    ∃ result events t, answer env request waitBeforeRetry s.world.tick = (result, t.world.tick) ∧
      Exchange request result events s t ∧
      (isSuccess result = true ∧
          (withRetry env request waitBeforeRetry >>= handleCPRResponse).run s = .ok () t ∨
        isSuccess result = false ∧ ∃ e, e.isException = true ∧
          (withRetry env request waitBeforeRetry >>= handleCPRResponse).run s = .error e t) := by
  obtain ⟨events, t, exchange, tick, ends⟩ := run_request env request s
  refine ⟨(answer env request waitBeforeRetry s.world.tick).1, events, t,
    Prod.ext rfl tick.symm, exchange, ?_⟩
  rw [EStateM.run_bind, ends]
  generalize (answer env request waitBeforeRetry s.world.tick).1 = result
  cases result with
  | some r =>
    by_cases success : r.statusCode = 200
    · exact Or.inl ⟨decide_eq_true success, run_handleCPRResponse_ok success t⟩
    · exact Or.inr ⟨decide_eq_false success, run_handleCPRResponse_error success t⟩
  | none => exact Or.inr ⟨rfl, _, rfl, rfl⟩

/-- A request that returns is an exchange whose result is the answer returned. -/
theorem exchange_of_ok {env : Env} {request : Request} {s t : Sys} {r : Response}
    (ran : (withRetry env request waitBeforeRetry).run s = .ok r t) :
    ∃ events, Exchange request (some r) events s t := by
  obtain ⟨events, u, exchange, _, ends⟩ := run_request env request s
  rw [ran] at ends
  cases asked : (answer env request waitBeforeRetry s.world.tick).1 with
  | some answered =>
    rw [asked] at ends exchange
    cases ends
    exact ⟨events, exchange⟩
  | none =>
    rw [asked] at ends
    cases ends

/-- Events that tell nothing of the streams and ask no receiver. -/
structure Silent (events : List Event) : Prop where
  streamAnswers : streamAnswers events = []
  receives : receives events = []

/-- Nothing is silent. -/
theorem Silent.nil : Silent [] := ⟨rfl, rfl⟩

/-- Silence followed by silence is silent. -/
theorem Silent.append {first second : List Event} (early : Silent first) (late : Silent second) :
    Silent (first ++ second) where
  streamAnswers := by rw [streamAnswers_append, early.streamAnswers, late.streamAnswers]; rfl
  receives := by rw [receives_append, early.receives, late.receives]; rfl

/-- A request for anything but the streams is silent. -/
theorem Exchange.silent {request : Request} {result : Option Response} {events : List Event}
    {s t : Sys} (exchange : Exchange request result events s t)
    (other : request.resource ≠ .datastreams) : Silent events where
  streamAnswers := streamAnswers_eq_nil fun sent member => exchange.single sent member ▸ other
  receives := exchange.unreceived

/-- No acknowledged change, and what is observed of the object stays. -/
structure Harmless {β : Type} (observe : RemoteInterface → β) (s t : Sys) : Prop where
  observed : observe t.iface = observe s.iface
  tick : s.world.tick ≤ t.world.tick
  trace : ∃ events, t.world.trace = s.world.trace ++ events ∧ changes events = []

/-- Standing still is harmless. -/
instance Harmless.refl {β : Type} (observe : RemoteInterface → β) : Std.Refl (Harmless observe) :=
  ⟨fun _ => ⟨rfl, Nat.le_refl _, [], (List.append_nil _).symm, rfl⟩⟩

/-- One harmless thing after another is harmless. -/
instance Harmless.trans {β : Type} (observe : RemoteInterface → β) :
    IsTrans Sys (Harmless observe) where
  trans s t u first second := by
    obtain ⟨early, earlyTrace, earlyChanges⟩ := first.trace
    obtain ⟨late, lateTrace, lateChanges⟩ := second.trace
    refine ⟨second.observed.trans first.observed, Nat.le_trans first.tick second.tick,
      early ++ late, ?_, ?_⟩
    · rw [lateTrace, earlyTrace, List.append_assoc]
    · rw [changes_append, earlyChanges, lateChanges, List.append_nil]

/-- What is harmless is so when less is observed. -/
theorem Harmless.coarsen {β γ : Type} {observe : RemoteInterface → β} {s t : Sys}
    (harmless : Harmless observe s t) (part : RemoteInterface → γ) (view : β → γ)
    (sees : ∀ iface, part iface = view (observe iface)) : Harmless part s t where
  observed := by rw [sees, sees, harmless.observed]
  tick := harmless.tick
  trace := harmless.trace

/-- Nothing happens that the device notices, that tells the streams or that asks a receiver, and
what is observed of the object stays. -/
structure Aside {β : Type} (observe : RemoteInterface → β) (s t : Sys) : Prop where
  observed : observe t.iface = observe s.iface
  tick : s.world.tick ≤ t.world.tick
  trace : ∃ events, t.world.trace = s.world.trace ++ events ∧ changes events = [] ∧ Silent events

/-- Nothing happens, and the object stays. -/
abbrev Quiet : Sys → Sys → Prop := Aside id

/-- Standing still is aside. -/
instance Aside.refl {β : Type} (observe : RemoteInterface → β) : Std.Refl (Aside observe) :=
  ⟨fun _ => ⟨rfl, Nat.le_refl _, [], (List.append_nil _).symm, rfl, .nil⟩⟩

/-- One thing aside after another is aside. -/
instance Aside.trans {β : Type} (observe : RemoteInterface → β) :
    IsTrans Sys (Aside observe) where
  trans s t u first second := by
    obtain ⟨early, earlyTrace, earlyChanges, earlySilent⟩ := first.trace
    obtain ⟨late, lateTrace, lateChanges, lateSilent⟩ := second.trace
    refine ⟨second.observed.trans first.observed, Nat.le_trans first.tick second.tick,
      early ++ late, ?_, ?_, ?_⟩
    · rw [lateTrace, earlyTrace, List.append_assoc]
    · rw [changes_append, earlyChanges, lateChanges, List.append_nil]
    · exact earlySilent.append lateSilent

/-- A quiet step leaves the object. -/
theorem Aside.iface {s t : Sys} (quiet : Quiet s t) : t.iface = s.iface := quiet.observed

/-- What is aside is harmless. -/
theorem Aside.harmless {β : Type} {observe : RemoteInterface → β} {s t : Sys}
    (aside : Aside observe s t) : Harmless observe s t where
  observed := aside.observed
  tick := aside.tick
  trace := by
    obtain ⟨events, trace, unchanged, _⟩ := aside.trace
    exact ⟨events, trace, unchanged⟩

/-- A quiet step is aside, whatever is observed. -/
theorem Aside.of_quiet {β : Type} {observe : RemoteInterface → β} {s t : Sys} (quiet : Quiet s t) :
    Aside observe s t where
  observed := congrArg observe quiet.observed
  tick := quiet.tick
  trace := quiet.trace

/-- A request that asks for no change makes none. -/
theorem Exchange.unchanged {request : Request} {result : Option Response} {events : List Event}
    {s t : Sys} (exchange : Exchange request result events s t)
    (harmless : request.change = none) : changes events = [] := by
  rw [exchange.changed, Request.acknowledged, harmless]
  split_ifs <;> rfl

/-- A request that asks for no change and not for the streams is quiet. -/
theorem Exchange.quiet {request : Request} {result : Option Response} {events : List Event}
    {s t : Sys} (exchange : Exchange request result events s t) (harmless : request.change = none)
    (other : request.resource ≠ .datastreams) : Quiet s t where
  observed := exchange.iface
  tick := exchange.tick
  trace := ⟨events, exchange.trace, exchange.unchanged harmless, exchange.silent other⟩

/-- The ledger of an object: its lists, and the requests the device has acknowledged. -/
def Sys.ledger (s : Sys) : Ledger.State String String where
  tracked := s.iface.tracked
  history := changes s.world.trace

end RcDynamics
