import RcDynamics.Budget
import RcDynamics.Retries
import RcDynamics.Receivers

/-!
# What the device is told

The events of a run are exchanges one after the other: a request of a known kind, sent again after
a pause while the answer is 429, and between the exchanges the messages that receivers wait for.
A request that names a stream comes only after the device has listed this stream. The object knows
this of the streams that it calls available; every operation keeps that knowledge, speaks in such
exchanges only, and needs a bounded number of them.
-/

namespace RcDynamics

open Effect

/-- A request to an address. -/
def requestTo (address : String) (method : Method) (resource : Resource) (body : Option Json)
    (timeout : Int) : Request where
  method := method
  resource := resource
  url := "http://" ++ address ++ "/api/v1" ++ resource.path
  body := body
  timeout := timeout

/-- The device has listed a stream: in an answer to a successful request for its streams. -/
def Listed (env : Env) (before : List Event) (stream : String) : Prop :=
  ∃ request response j entry, .http request response ∈ before ∧ request.method = .get ∧
    request.resource = .datastreams ∧ response.statusCode = 200 ∧
    env.parse response.text = some j ∧ entry ∈ j.elements ∧
    RemoteInterface.streamMember entry "name" = .ok stream

/-- What has been listed stays listed. -/
theorem Listed.later {env : Env} {before : List Event} {stream : String}
    (listed : Listed env before stream) (events : List Event) :
    Listed env (before ++ events) stream := by
  obtain ⟨request, response, j, entry, member, rest⟩ := listed
  exact ⟨request, response, j, entry, List.mem_append_left events member, rest⟩

/-- The nodes that are asked for their state. -/
def nodes : List String := ["rc_dynamics", "rc_slam", "rc_stereo_ins"]

/-- The services that are called without arguments, by node. -/
def plainServices : List (String × String) :=
  ["restart", "restart_slam", "start", "start_slam", "stop", "stop_slam",
    "get_cam2imu_transform"].map ("rc_dynamics", ·) ++
  ["reset", "save_map", "load_map", "remove_map"].map ("rc_slam", ·)

/-- The requests that may be made after some events, with their bodies. -/
inductive Allowed (env : Env) (before : List Event) : Method → Resource → Option Json → Prop where
  | system : Allowed env before .get .system none
  | streams : Allowed env before .get .datastreams none
  | status {node : String} (known : node ∈ nodes) : Allowed env before .get (.status node) none
  | service {node name : String} (known : (node, name) ∈ plainServices) :
      Allowed env before .put (.service node name) none
  | trajectory (start stop : TrajectoryTime) :
      Allowed env before .put (.service "rc_slam" "get_trajectory")
        (some (trajectoryArgs start stop))
  | destinations {stream : String} (listed : Listed env before stream) :
      Allowed env before .get (.datastream stream) none
  | add {stream destination : String} (listed : Listed env before stream)
      (valid : env.utf8 destination = true) :
      Allowed env before .put (.datastream stream) (some (destinationArgs [destination]))
  | remove {stream : String} {destinations : List String} (listed : Listed env before stream)
      (valid : ∀ destination ∈ destinations, env.utf8 destination = true) :
      Allowed env before .delete (.datastream stream) (some (destinationArgs destinations))

/-- The events of an exchange: the attempts of a request from a question on. -/
def exchange (env : Env) (request : Request) (n : ℕ) : List Event :=
  (env.attempts request waitBeforeRetry n).map (attemptEvent request)

/-- Events that may follow others: messages waited for, and at most so many exchanges. -/
inductive Script (env : Env) (address : String) : List Event → ℕ → List Event → Prop where
  | silent {before : List Event} {n : ℕ} : Script env address before n []
  | heard {before events : List Event} {n : ℕ} {pbMsgType : String}
      (others : Script env address (before ++ [.receive pbMsgType]) n events) :
      Script env address before n (.receive pbMsgType :: events)
  | asked {before events : List Event} {n k : ℕ} {method : Method} {resource : Resource}
      {body : Option Json} {timeout : Int} (allowed : Allowed env before method resource body)
      (others : Script env address
        (before ++ exchange env (requestTo address method resource body timeout) k) n events) :
      Script env address before (n + 1)
        (exchange env (requestTo address method resource body timeout) k ++ events)

/-- More exchanges may be allowed for. -/
theorem Script.more {env : Env} {address : String} {before events : List Event} {m n : ℕ}
    (script : Script env address before m events) (larger : m ≤ n) :
    Script env address before n events := by
  induction script generalizing n with
  | silent => exact .silent
  | heard others ih => exact .heard (ih larger)
  | asked allowed others ih =>
    cases n with
    | zero => exact absurd larger (Nat.not_succ_le_zero _)
    | succ n => exact .asked allowed (ih (Nat.le_of_succ_le_succ larger))

/-- One part of a script and then another. -/
theorem Script.append {env : Env} {address : String} {before first second : List Event} {m n : ℕ}
    (early : Script env address before m first)
    (late : Script env address (before ++ first) n second) :
    Script env address before (m + n) (first ++ second) := by
  induction early generalizing n with
  | silent =>
    rw [List.append_nil] at late
    exact late.more (Nat.le_add_left _ _)
  | heard others ih =>
    apply Script.heard
    apply ih
    rwa [List.append_assoc]
  | asked allowed others ih =>
    rw [List.append_assoc, Nat.add_right_comm]
    apply Script.asked allowed
    apply ih
    rwa [List.append_assoc]

/-- The object calls only streams available that the device has listed. -/
def Informed (env : Env) (s : Sys) : Prop :=
  ∀ stream ∈ s.iface.availStreams, Listed env s.world.trace stream

/-- From one state to another there are at most so many exchanges with the device, and the object
stays informed. -/
structure Speaks (env : Env) (n : ℕ) (s t : Sys) : Prop where
  address : t.iface.visardAddrs = s.iface.visardAddrs
  speaks : Informed env s → Informed env t ∧ ∃ events, t.world.trace = s.world.trace ++ events ∧
    Script env s.iface.visardAddrs s.world.trace n events

/-- A change that no event reports and that makes no stream available. -/
theorem speaks_of_trace {env : Env} {s t : Sys}
    (address : t.iface.visardAddrs = s.iface.visardAddrs)
    (streams : ∀ stream ∈ t.iface.availStreams, stream ∈ s.iface.availStreams)
    (trace : t.world.trace = s.world.trace) : Speaks env 0 s t where
  address := address
  speaks informed := by
    refine ⟨fun stream member => ?_, [], ?_, .silent⟩
    · rw [trace]
      exact informed stream (streams stream member)
    · rw [trace, List.append_nil]

/-- Exchanges add up. -/
theorem speaks_budgeted (env : Env) : Budgeted (Speaks env) where
  stay s := speaks_of_trace rfl (fun _ member => member) rfl
  add first second := by
    refine ⟨second.address.trans first.address, fun informed => ?_⟩
    obtain ⟨between, early, trace, script⟩ := first.speaks informed
    obtain ⟨after, late, trace', script'⟩ := second.speaks between
    rw [first.address, trace] at script'
    refine ⟨after, early ++ late, ?_, script.append script'⟩
    rw [trace', trace, List.append_assoc]
  more larger speaks := by
    refine ⟨speaks.address, fun informed => ?_⟩
    obtain ⟨after, events, trace, script⟩ := speaks.speaks informed
    exact ⟨after, events, trace, script.more larger⟩

/-- Nothing is said from a state to itself. -/
instance Speaks.refl {env : Env} {n : ℕ} : Std.Refl (Speaks env n) where
  refl s := (speaks_budgeted env).more (Nat.zero_le n) ((speaks_budgeted env).stay s)

/-- Nothing is said by two changes of which neither says anything. -/
instance Speaks.trans {env : Env} : IsTrans Sys (Speaks env 0) where
  trans _ _ _ first second := (speaks_budgeted env).add first second

section Parts

variable {env : Env} {n : ℕ}

/-- Numbering a question says nothing. -/
theorem tick_speaks (s : Sys) : Within (Speaks env n) tick s :=
  Within.of_run rfl ((speaks_budgeted env).more (Nat.zero_le n)
    (speaks_of_trace rfl (fun _ member => member) rfl))

/-- Allocating says nothing. -/
theorem allocate_speaks (s : Sys) : Within (Speaks env 0) (allocate env) s :=
  allocate_within tick_speaks env s

/-- A change of the object that makes no stream available says nothing. -/
theorem setIface_speaks {f : RemoteInterface → RemoteInterface} (s : Sys)
    (address : (f s.iface).visardAddrs = s.iface.visardAddrs)
    (streams : ∀ stream ∈ (f s.iface).availStreams, stream ∈ s.iface.availStreams) :
    Within (Speaks env 0) (setIface f) s :=
  Within.of_run rfl (speaks_of_trace address streams rfl)

/-- A request with retries is an exchange. -/
theorem withRetry_speaks {method : Method} {resource : Resource} {body : Option Json}
    {timeout : Int} {s : Sys}
    (allowed : Informed env s → Allowed env s.world.trace method resource body) :
    Within (Speaks env 1) (withRetry env (request method resource body timeout s.iface)
      waitBeforeRetry) s := by
  have told (t : Sys) (iface : t.iface = s.iface)
      (trace : t.world.trace = s.world.trace ++
        exchange env (request method resource body timeout s.iface) s.world.tick) :
      Speaks env 1 s t := by
    refine ⟨by rw [iface], fun informed => ⟨fun stream member => ?_, _, trace, ?_⟩⟩
    · rw [iface] at member
      rw [trace]
      exact (informed stream member).later _
    · rw [← List.append_nil (exchange env _ _)]
      exact .asked (allowed informed) .silent
  have ran := run_withRetry_attempts env (request method resource body timeout s.iface)
    waitBeforeRetry s
  apply Within.of_run ran
  cases Retry.result Response.tooMany _ waitBeforeRetry s.world.tick with
  | some r => exact told _ rfl rfl
  | none => exact told _ rfl rfl

/-- A GET request with retries is an exchange. -/
theorem cprGetWithRetry_speaks {resource : Resource} {timeout : Int} {s : Sys}
    (allowed : Informed env s → Allowed env s.world.trace .get resource none) :
    Within (Speaks env 1) (cprGetWithRetry env resource timeout) s := by
  apply (speaks_budgeted env).free (this_within s)
  intro iface t ran
  cases ran
  exact withRetry_speaks allowed

/-- A PUT request with retries is an exchange. -/
theorem cprPutWithRetry_speaks {resource : Resource} {timeout : Int} {body : Option Json} {s : Sys}
    (allowed : Informed env s → Allowed env s.world.trace .put resource body) :
    Within (Speaks env 1) (cprPutWithRetry env resource timeout body) s := by
  apply (speaks_budgeted env).free (this_within s)
  intro iface t ran
  cases ran
  exact withRetry_speaks allowed

/-- A DELETE request with retries is an exchange. -/
theorem cprDeleteWithRetry_speaks {resource : Resource} {timeout : Int} {body : Option Json}
    {s : Sys} (allowed : Informed env s → Allowed env s.world.trace .delete resource body) :
    Within (Speaks env 1) (cprDeleteWithRetry env resource timeout body) s := by
  apply (speaks_budgeted env).free (this_within s)
  intro iface t ran
  cases ran
  exact withRetry_speaks allowed

end Parts

/-- Nothing changes but sockets and the number of questions. -/
structure Still (s t : Sys) : Prop where
  iface : t.iface = s.iface
  trace : t.world.trace = s.world.trace

/-- Nothing changes from a state to itself. -/
instance Still.refl : Std.Refl Still := ⟨fun _ => ⟨rfl, rfl⟩⟩

/-- Nothing changes in two steps. -/
instance Still.trans : IsTrans Sys Still where
  trans _ _ _ first second :=
    ⟨second.iface.trans first.iface, second.trace.trans first.trace⟩

/-- Where nothing changes nothing is said. -/
theorem Still.speaks {env : Env} {s t : Sys} (still : Still s t) : Speaks env 0 s t := by
  apply speaks_of_trace
  · rw [still.iface]
  · intro stream member
    rwa [still.iface] at member
  · exact still.trace

section Sockets

variable (env : Env)

/-- Numbering a question changes nothing. -/
theorem tick_still (s : Sys) : Within Still tick s := Within.of_run rfl ⟨rfl, rfl⟩

/-- Nor does closing a socket. -/
theorem closeSocket_still (sockfd : Nat) (s : Sys) : Within Still (closeSocket sockfd) s :=
  Within.of_run rfl ⟨rfl, rfl⟩

/-- Nor does opening one. -/
theorem openSocket_still (s : Sys) : Within Still (openSocket env) s := by
  apply (tick_still s).bind
  intro n t _
  split
  · exact Within.of_run rfl ⟨rfl, rfl⟩
  · exact Within.throw _ t

/-- Nor does building a receiver. -/
theorem TrackedDataReceiver.construct_still (ipAddress : String) (port : BitVec 32)
    (stream : String) (s : Sys) :
    Within Still (TrackedDataReceiver.construct env ipAddress port stream) s := by
  have built : Within Still (DataReceiver.construct env ipAddress port) s := by
    unfold DataReceiver.construct
    split
    · exact Within.throw _ s
    apply (openSocket_still env s).bind
    intro sockfd t _
    apply (tick_still t).bind
    intro n t _
    split
    · exact Within.throw _ t
    · split
      · apply (tick_still t).bind
        intro n t _
        split
        · exact Within.pure _ t
        · exact (closeSocket_still sockfd t).bind fun _ t _ => Within.throw _ t
      · exact Within.pure _ t
  exact built.bind fun _ t _ => Within.pure _ t

/-- Nor does setting a timeout. -/
theorem DataReceiver.setTimeout_still (receiver : DataReceiver) (ms : Nat) (s : Sys) :
    Within Still (receiver.setTimeout env ms) s := by
  apply (tick_still s).bind
  intro n t _
  split
  · exact Within.pure () t
  · exact Within.throw _ t

/-- Waiting for a message leaves everything but the time. -/
theorem DataReceiver.receiveAs_still (env : Env) (pbMsgType : String) (s : Sys) :
    Within Still (receiveAs env pbMsgType) s := by
  apply (tick_still s).bind
  intro n t _
  split
  · exact Within.pure _ t
  · split
    · exact Within.pure none t
    · exact Within.throw _ t

/-- Waiting for a message is an event by itself. -/
theorem DataReceiver.receive_speaks (receiver : DataReceiver) (pbMsgType : String) (s : Sys) :
    Within (Speaks env 0) (receiver.receive env pbMsgType) s := by
  have heard : Speaks env 0 s (s.advance s.world.tick [.receive pbMsgType]) := by
    refine ⟨rfl, fun informed => ⟨fun stream member => ?_, _, rfl, .heard .silent⟩⟩
    exact (informed stream member).later _
  have recorded : Within (Speaks env 0) (emit (.receive pbMsgType)) s := Within.of_run rfl heard
  apply (speaks_budgeted env).free recorded
  intro _ t _
  split
  · exact (receiveAs_still env pbMsgType t).mono fun _ still => still.speaks
  · exact Within.throw _ t

end Sockets

namespace RemoteInterface

section Initialising

variable {env : Env}

/-- Nothing is said, and only streams with one of some names become available. -/
structure Adds (names : String → Prop) (s t : Sys) : Prop where
  address : t.iface.visardAddrs = s.iface.visardAddrs
  streams : ∀ stream ∈ t.iface.availStreams, stream ∈ s.iface.availStreams ∨ names stream
  trace : t.world.trace = s.world.trace

/-- Nothing is added from a state to itself. -/
instance Adds.refl {names : String → Prop} : Std.Refl (Adds names) :=
  ⟨fun _ => ⟨rfl, fun _ member => .inl member, rfl⟩⟩

/-- What two steps add has one of the names. -/
instance Adds.trans {names : String → Prop} : IsTrans Sys (Adds names) where
  trans _ _ _ first second := by
    refine ⟨second.address.trans first.address, fun stream member => ?_,
      second.trace.trans first.trace⟩
    rcases second.streams stream member with known | named
    · exact first.streams stream known
    · exact .inr named

/-- Entering a stream adds its name. -/
theorem addStream_adds (entry : Json) (s : Sys) :
    Within (Adds fun name => streamMember entry "name" = .ok name) (addStream env entry) s := by
  have asked (s : Sys) :
      Within (Adds fun name => streamMember entry "name" = .ok name) tick s :=
    Within.of_run rfl ⟨rfl, fun _ member => .inl member, rfl⟩
  have changed (f : RemoteInterface → RemoteInterface)
      (kept : ∀ iface, (f iface).visardAddrs = iface.visardAddrs ∧
        (f iface).availStreams = iface.availStreams) (s : Sys) :
      Within (Adds fun name => streamMember entry "name" = .ok name) (setIface f) s := by
    apply Within.of_run rfl
    refine ⟨(kept s.iface).1, fun stream member => .inl ?_, rfl⟩
    rw [← (kept s.iface).2]
    exact member
  unfold addStream
  apply (allocate_within asked env s).bind
  intro _ t _
  apply (lift_within _ t).bind
  intro name u ran
  have named := (lift_ok_iff.mp ran).1
  have listed : Within (Adds fun name => streamMember entry "name" = .ok name)
      (setIface fun iface => { iface with availStreams := iface.availStreams ++ [name] }) u := by
    apply Within.of_run rfl
    refine ⟨rfl, fun stream member => ?_, rfl⟩
    rcases List.mem_append.mp member with known | new
    · exact .inl known
    · rw [List.mem_singleton.mp new]
      exact .inr named
  apply listed.bind
  intro _ t _
  apply (allocate_within asked env t).bind
  intro _ t _
  split
  · apply (lift_within _ t).bind
    intro protobuf t _
    apply (lift_within _ t).bind
    intro key t _
    exact changed (setProtobuf key protobuf) (fun _ => ⟨rfl, rfl⟩) t
  · apply (lift_within _ t).bind
    intro key t _
    apply (changed (touchProtobuf key) (fun _ => ⟨rfl, rfl⟩) t).bind
    intro _ t _
    apply (lift_within _ t).bind
    intro protobuf t _
    exact changed (setProtobuf key protobuf) (fun _ => ⟨rfl, rfl⟩) t

/-- What is added by streams that the device has listed leaves the object informed. -/
theorem Adds.speaks {names : String → Prop} {s t : Sys} (adds : Adds names s t)
    (listed : ∀ name, names name → Listed env s.world.trace name) : Speaks env 0 s t where
  address := adds.address
  speaks informed := by
    refine ⟨fun stream member => ?_, [], ?_, .silent⟩
    · rw [adds.trace]
      rcases adds.streams stream member with known | named
      · exact informed stream known
      · exact listed stream named
    · rw [adds.trace, List.append_nil]

/-- The system is asked for twice at most. -/
theorem readSystem_speaks (s : Sys) : Within (Speaks env 2) (readSystem env) s := by
  have budget := speaks_budgeted env
  unfold readSystem
  apply budget.free (allocate_speaks s)
  intro _ t _
  apply budget.free (this_within t)
  intro _ t _
  apply budget.bind (m := 1) (n := 1) (cprGetWithRetry_speaks fun _ => .system)
  intro response t _
  split
  · exact budget.pure _ t
  apply budget.free (handleCPRResponse_within response t)
  intro _ t _
  apply budget.free (allocate_speaks t)
  intro _ t _
  apply budget.free (this_within t)
  intro _ t _
  apply budget.bind (m := 1) (n := 0) (cprGetWithRetry_speaks fun _ => .system)
  intro getSystem t _
  apply (handleCPRResponse_within getSystem t).bind
  intro _ t _
  apply (parseJson_within env _ t).bind
  intro j t _
  apply (lift_within _ t).bind
  intro ready t _
  split
  · exact budget.pure _ t
  apply (lift_within _ t).bind
  intro version t _
  apply (allocate_speaks t).bind
  intro _ t _
  have set : Within (Speaks env 0) (setIface (setVersion version)) t := by
    have kept : (setVersion version t.iface).visardAddrs = t.iface.visardAddrs ∧
        (setVersion version t.iface).availStreams = t.iface.availStreams := by
      unfold setVersion
      split <;> exact ⟨rfl, rfl⟩
    apply setIface_speaks t kept.1
    intro stream member
    rwa [kept.2] at member
  exact set.bind fun _ t _ => Within.pure true t

/-- The streams are asked for once, and those that become available are in the answer. -/
theorem readStreams_speaks (s : Sys) : Within (Speaks env 1) (readStreams env) s := by
  have budget := speaks_budgeted env
  unfold readStreams
  apply budget.free (allocate_speaks s)
  intro _ t _
  apply budget.free (this_within t)
  intro iface t ran
  cases ran
  apply budget.bind (m := 1) (n := 0) (cprGetWithRetry_speaks fun _ => .streams)
  intro getStreams u ran
  have answered : ∃ request, .http request getStreams ∈ u.world.trace ∧
      request.method = .get ∧ request.resource = .datastreams := by
    obtain ⟨events, exchange⟩ := exchange_of_ok ran
    have last := exchange.listed rfl rfl getStreams rfl
    obtain ⟨e, member, same⟩ := List.mem_filterMap.mp (List.mem_of_getLast? last)
    cases e with
    | http request response =>
      rw [Event.streamAnswer] at same
      split_ifs at same with asked
      cases same
      refine ⟨request, ?_, asked⟩
      rw [exchange.trace]
      exact List.mem_append_right _ member
    | wait ms => cases same
    | receive pbMsgType => cases same
  apply (handleCPRResponse_within getStreams u).bind
  intro _ v ran
  obtain ⟨success, rfl⟩ := handleCPRResponse_ok ran
  apply (parseJson_within env _ v).bind
  intro j w ran
  obtain ⟨parsed, rfl⟩ := parseJson_ok ran
  obtain ⟨request, member, asked⟩ := answered
  have entered : Within
      (Adds fun name => ∃ entry ∈ j.elements, streamMember entry "name" = .ok name)
      (forM j.elements (addStream env)) w := by
    apply Within.forM
    intro entry inside x
    apply (addStream_adds entry x).mono
    intro y adds
    refine ⟨adds.address, fun stream member => ?_, adds.trace⟩
    rcases adds.streams stream member with known | named
    · exact .inl known
    · exact .inr ⟨entry, inside, named⟩
  apply entered.mono
  intro x adds
  apply adds.speaks
  rintro name ⟨entry, inside, named⟩
  exact ⟨request, getStreams, j, entry, member, asked.1, asked.2, success, parsed, inside, named⟩

/-- An initialisation takes three exchanges at most. -/
theorem checkSystemReady_speaks (s : Sys) :
    Within (Speaks env 3) (checkSystemReady env) s := by
  have budget := speaks_budgeted env
  unfold checkSystemReady
  have emptied : Within (Speaks env 0) (setIface reset) s :=
    setIface_speaks s rfl fun stream member => absurd member List.not_mem_nil
  apply budget.free emptied
  intro _ t _
  apply budget.bind (m := 2) (n := 1) (readSystem_speaks t)
  intro ready t _
  split
  · apply budget.bind (m := 1) (n := 0) (readStreams_speaks t)
    intro _ t _
    have set : Within (Speaks env 0) (setIface fun iface => { iface with initialized := true }) t :=
      setIface_speaks t rfl fun stream member => member
    exact set.bind fun _ t _ => Within.pure true t
  · exact budget.pure _ t

/-- A lazy initialisation takes three exchanges at most. -/
theorem ensureInitialized_speaks (s : Sys) : Within (Speaks env 3) (ensureInitialized env) s := by
  have budget := speaks_budgeted env
  unfold ensureInitialized
  apply budget.free (this_within s)
  intro _ t _
  split
  · exact budget.pure () t
  · apply budget.bind (m := 3) (n := 0) (checkSystemReady_speaks t)
    intro ready t _
    split
    · exact budget.pure () t
    · exact budget.throw _ t

/-- So does the check of a stream. -/
theorem checkStreamTypeAvailable_speaks (stream : String) (s : Sys) :
    Within (Speaks env 3) (checkStreamTypeAvailable env stream) s := by
  have budget := speaks_budgeted env
  apply budget.bind (m := 3) (n := 0) (ensureInitialized_speaks s)
  intro _ t _
  apply (this_within t).bind
  intro _ t _
  split
  · exact budget.pure () t
  · exact budget.throw _ t

end Initialising

section Operations

variable {env : Env}

/-- An operation that begins with the check of a stream takes three exchanges more than from
states in which the stream is available. -/
theorem speaks_of_available {α : Type} {stream : String} {next : Unit → Call α} {n : ℕ} (s : Sys)
    (speaks : ∀ t, Available t.iface stream →
      Within (Speaks env n) (checkStreamTypeAvailable env stream >>= next) t) :
    Within (Speaks env (3 + n)) (checkStreamTypeAvailable env stream >>= next) s := by
  apply (speaks_budgeted env).bind (checkStreamTypeAvailable_speaks stream s)
  intro _ t ran
  have available := checkStreamTypeAvailable_ok env ran
  have checked := speaks t available
  unfold Within at checked
  rwa [run_bind_of_ok (run_checkStreamTypeAvailable env available)] at checked

/-- Where a stream is available, its check says nothing. -/
theorem available_speaks {stream : String} {s : Sys} (available : Available s.iface stream) :
    Within (Speaks env 0) (checkStreamTypeAvailable env stream) s :=
  Within.of_run (run_checkStreamTypeAvailable env available) (refl_of _ s)

/-- Asking for a state is one exchange. -/
theorem getState_speaks {node : String} (known : node ∈ nodes) (s : Sys) :
    Within (Speaks env 1) (getState env node) s := by
  have budget := speaks_budgeted env
  unfold getState
  apply budget.free (this_within s)
  intro _ t _
  apply budget.bind (m := 1) (n := 0) (cprGetWithRetry_speaks fun _ => .status known)
  intro r t _
  apply (handleCPRResponse_within r t).bind
  intro _ t _
  apply Within.tryCatch
  · apply (parseJson_within env _ t).bind
    intro j t _
    exact lift_within _ t
  · intro e t _
    split
    · exact Within.pure _ t
    · exact Within.throw e t

/-- A service that enters a state is one exchange. -/
theorem callStateService_speaks {node serviceName : String} (validStates : List String)
    (known : (node, serviceName) ∈ plainServices) (s : Sys) :
    Within (Speaks env 1) (callStateService env node serviceName validStates) s := by
  have budget := speaks_budgeted env
  unfold callStateService
  apply budget.free (this_within s)
  intro _ t _
  apply budget.bind (m := 1) (n := 0) (cprPutWithRetry_speaks fun _ => .service known)
  intro r t _
  apply (handleCPRResponse_within r t).bind
  intro _ t _
  apply (parseJson_within env _ t).bind
  intro j t _
  exact lift_within _ t

/-- A service that answers with a document is one exchange. -/
theorem service_speaks {α : Type} {node serviceName : String} {timeout : Int}
    {body : Option Json} {decode : Json → Except Exn α} (s : Sys)
    (allowed : ∀ before, Allowed env before .put (.service node serviceName) body) :
    Within (Speaks env 1) (do
      let r ← cprPutWithRetry env (.service node serviceName) timeout body
      handleCPRResponse r
      let j ← parseJson env r.text
      lift (decode j)) s := by
  apply (speaks_budgeted env).bind (m := 1) (n := 0)
    (cprPutWithRetry_speaks fun _ => allowed s.world.trace)
  intro r t _
  apply (handleCPRResponse_within r t).bind
  intro _ t _
  apply (parseJson_within env _ t).bind
  intro j t _
  exact lift_within _ t

/-- Explaining a timeout is one exchange. -/
theorem explainTimeout_speaks (s : Sys) : Within (Speaks env 1) (explainTimeout env) s := by
  apply (speaks_budgeted env).bind (m := 1) (n := 0) (getState_speaks List.mem_cons_self s)
  intro currentState t _
  split
  · exact Within.throw _ t
  · exact Within.throw _ t

/-- Getting the streams takes an initialisation at most. -/
theorem getAvailableStreams_speaks (s : Sys) :
    Within (Speaks env 3) (getAvailableStreams env) s := by
  apply (speaks_budgeted env).bind (m := 3) (n := 0) (ensureInitialized_speaks s)
  intro _ t _
  apply (this_within t).bind
  intro _ t _
  exact Within.pure _ t

/-- Looking up a type says nothing. -/
theorem protobufOf_speaks (stream : String) (s : Sys) :
    Within (Speaks env 0) (protobufOf stream) s := by
  have touched : Within (Speaks env 0) (setIface (touchProtobuf stream)) s :=
    setIface_speaks s rfl fun stream member => member
  apply touched.bind
  intro _ t _
  apply (this_within t).bind
  intro _ t _
  exact Within.pure _ t

/-- Getting the type of a stream takes an initialisation at most. -/
theorem getPbMsgTypeOfStream_speaks (stream : String) (s : Sys) :
    Within (Speaks env 3) (getPbMsgTypeOfStream env stream) s := by
  apply (speaks_budgeted env).bind (m := 3) (n := 0) (checkStreamTypeAvailable_speaks stream s)
  intro _ t _
  exact protobufOf_speaks stream t

/-- Getting the destinations of a stream is one exchange after an initialisation. -/
theorem getDestinationsOfStream_speaks (stream : String) (s : Sys) :
    Within (Speaks env 4) (getDestinationsOfStream env stream) s := by
  have budget := speaks_budgeted env
  apply speaks_of_available (n := 1)
  intro t available
  apply budget.free (available_speaks available)
  intro _ u ran
  have listed := (checkStreamTypeAvailable_ok env ran).listed
  apply budget.free (this_within u)
  intro iface u ran
  cases ran
  apply budget.bind (m := 1) (n := 0)
    (cprGetWithRetry_speaks fun informed => .destinations (informed stream listed))
  intro r t _
  apply (handleCPRResponse_within r t).bind
  intro _ t _
  apply (parseJson_within env _ t).bind
  intro j t _
  exact lift_within _ t

/-- A body that is printed names valid destinations. -/
theorem dumpArgs_ok {destinations : List String} {body : Json} {s t : Sys}
    (ran : (dumpArgs env destinations).run s = .ok body t) :
    body = destinationArgs destinations ∧ t = s ∧
      ∀ destination ∈ destinations, env.utf8 destination = true := by
  unfold dumpArgs at ran
  split_ifs at ran with valid
  · cases ran
    exact ⟨rfl, rfl, List.all_eq_true.mp valid⟩
  · cases ran

/-- Replacing a list of destinations says nothing. -/
theorem track_speaks (stream : String) (destinations : RemoteInterface → List String) (s : Sys) :
    Within (Speaks env 0) (setIface fun iface => iface.track stream (destinations iface)) s :=
  setIface_speaks s rfl fun _ member => member

/-- Adding a destination of an available stream is one exchange. -/
theorem addDestinationToStream_available {stream : String} (destination : String) {s : Sys}
    (available : Available s.iface stream) :
    Within (Speaks env 1) (addDestinationToStream env stream destination) s := by
  have budget := speaks_budgeted env
  apply budget.free (available_speaks available)
  intro _ t ran
  have listed := (checkStreamTypeAvailable_ok env ran).listed
  apply budget.free (dumpArgs_within env _ t)
  intro body u ran
  obtain ⟨rfl, rfl, valid⟩ := dumpArgs_ok ran
  apply budget.free (this_within u)
  intro iface v ran
  cases ran
  apply budget.bind (m := 1) (n := 0) (cprPutWithRetry_speaks fun informed =>
    .add (informed stream listed) (valid destination List.mem_cons_self))
  intro put w _
  split
  · exact tooManyDestinations_within env put w
  · apply (handleCPRResponse_within put w).bind
    intro _ w _
    exact track_speaks stream (fun iface => iface.tracked stream ++ [destination]) w

/-- Adding a destination is one exchange after an initialisation. -/
theorem addDestinationToStream_speaks (stream destination : String) (s : Sys) :
    Within (Speaks env 4) (addDestinationToStream env stream destination) s :=
  speaks_of_available (n := 1) s fun _ available =>
    addDestinationToStream_available destination available

/-- A removal for an available stream is one exchange. -/
theorem deleteRequest_speaks {stream : String} (destinations : List String) {s : Sys}
    (listed : stream ∈ s.iface.availStreams) :
    Within (Speaks env 1) (deleteRequest env stream destinations) s := by
  have budget := speaks_budgeted env
  apply budget.free (dumpArgs_within env _ s)
  intro body t ran
  obtain ⟨rfl, rfl, valid⟩ := dumpArgs_ok ran
  apply budget.free (this_within t)
  intro iface u ran
  cases ran
  apply budget.bind (m := 1) (n := 0)
    (cprDeleteWithRetry_speaks fun informed => .remove (informed stream listed) valid)
  intro del v _
  exact handleCPRResponse_within del v

/-- Removing a destination of an available stream is one exchange. -/
theorem deleteDestinationFromStream_available {stream : String} (destination : String) {s : Sys}
    (available : Available s.iface stream) :
    Within (Speaks env 1) (deleteDestinationFromStream env stream destination) s := by
  have budget := speaks_budgeted env
  apply budget.free (available_speaks available)
  intro _ t ran
  have listed := (checkStreamTypeAvailable_ok env ran).listed
  apply budget.bind (m := 1) (n := 0) (deleteRequest_speaks [destination] listed)
  intro _ u _
  exact track_speaks stream (fun iface =>
    ((CellList.ofList (iface.tracked stream)).eraseFirst destination).values) u

/-- Removing a destination is one exchange after an initialisation. -/
theorem deleteDestinationFromStream_speaks (stream destination : String) (s : Sys) :
    Within (Speaks env 4) (deleteDestinationFromStream env stream destination) s :=
  speaks_of_available (n := 1) s fun _ available =>
    deleteDestinationFromStream_available destination available

/-- A removal does not change the object. -/
theorem deleteRequest_iface (stream : String) (destinations : List String) (s : Sys) :
    Within (fun s t => t.iface = s.iface) (deleteRequest env stream destinations) s := by
  obtain ⟨events, t, ⟨removal, ran⟩ | ⟨removal, e, _, ran⟩⟩ :=
    run_deleteRequest env stream destinations s
  · exact Within.of_run ran removal.iface
  · exact Within.of_run ran removal.iface

/-- The removals for an available stream are one exchange, or one for each destination. -/
theorem deleteRequests_speaks {stream : String} (destinations : List String) {s : Sys}
    (listed : stream ∈ s.iface.availStreams) :
    Within (Speaks env (max 1 destinations.length)) (deleteRequests env stream destinations) s := by
  have budget := speaks_budgeted env
  unfold deleteRequests
  apply budget.free (this_within s)
  intro iface t ran
  cases ran
  split
  · exact budget.within_more (deleteRequest_speaks destinations listed) (Nat.le_max_left _ _)
  · have guarded := budget.guarded fun s => stream ∈ s.iface.availStreams
    have each : Within (Guarded (fun s => stream ∈ s.iface.availStreams) (Speaks env)
        (destinations.length * 1))
        (forM destinations fun destination => deleteRequest env stream [destination]) s := by
      apply guarded.forM
      intro destination _ u known
      refine ⟨deleteRequest_speaks [destination] known, ?_⟩
      have same : (final ((deleteRequest env stream [destination]).run u)).iface = u.iface :=
        deleteRequest_iface stream [destination] u
      change stream ∈ (final ((deleteRequest env stream [destination]).run u)).iface.availStreams
      rwa [same]
    have both := each listed
    rw [Nat.mul_one] at both
    exact budget.within_more both.1 (Nat.le_max_right _ _)

/-- Removing the destinations from the list of the object says nothing. -/
theorem eraseRequested_speaks (stream : String) (destinations : Destinations) (s : Sys) :
    Within (Speaks env 0) (eraseRequested stream destinations) s := by
  cases destinations with
  | list values =>
    exact track_speaks stream (fun iface =>
      ((CellList.ofList (iface.tracked stream)).eraseEach values).values) s
  | tracked epoch =>
    apply (this_within s).bind
    intro iface t _
    split
    · rename_i list _
      exact track_speaks stream (fun _ => list.values) t
    · exact Within.throw _ t
    · exact Within.throw _ t

/-- Removing a list of the caller's takes an exchange for each at most, after an
initialisation. -/
theorem deleteDestinationsFromStream_speaks (stream : String) (destinations : List String)
    (s : Sys) :
    Within (Speaks env (3 + max 1 destinations.length))
      (deleteDestinationsFromStream env stream (.list destinations)) s := by
  have budget := speaks_budgeted env
  apply speaks_of_available (n := max 1 destinations.length)
  intro t available
  apply budget.free (available_speaks available)
  intro _ u ran
  have listed := (checkStreamTypeAvailable_ok env ran).listed
  apply budget.free (read_within stream (.list destinations) u)
  intro values v ran
  cases ran
  apply budget.bind (n := 0) (deleteRequests_speaks destinations listed)
  intro _ w _
  exact eraseRequested_speaks stream (.list destinations) w

/-- Destroying a receiver takes what its removal takes. -/
theorem destroyReceiver_takes {n : ℕ} (receiver : TrackedDataReceiver) {s : Sys}
    (removed : Within (Speaks env n)
      (deleteDestinationFromStream env receiver.stream receiver.dest) s) :
    Within (Speaks env n) (receiver.destroy env) s := by
  have budget := speaks_budgeted env
  have handled : Within (Speaks env n)
      (tryCatch (deleteDestinationFromStream env receiver.stream receiver.dest)
        fun e => if e.isException then return () else throw e) s := by
    apply budget.tryCatch (n := 0) removed
    intro e t _
    split
    · exact Within.pure () t
    · exact Within.throw e t
  apply budget.bind (n := 0) handled
  intro _ t _
  exact (closeSocket_still receiver.sockfd t).mono fun _ still => still.speaks

/-- Destroying a receiver of an available stream takes one exchange. -/
theorem destroyReceiver_available (receiver : TrackedDataReceiver) {s : Sys}
    (available : Available s.iface receiver.stream) :
    Within (Speaks env 1) (receiver.destroy env) s :=
  destroyReceiver_takes receiver (deleteDestinationFromStream_available receiver.dest available)

/-- Destroying a receiver takes one exchange after an initialisation. -/
theorem destroyReceiver_speaks (receiver : TrackedDataReceiver) (s : Sys) :
    Within (Speaks env 4) (receiver.destroy env) s :=
  destroyReceiver_takes receiver
    (deleteDestinationFromStream_speaks receiver.stream receiver.dest s)

/-- Requesting an available stream and waiting for its first message takes two exchanges. -/
theorem establish_speaks (receiver : TrackedDataReceiver) {stream : String} (destination : String)
    {s : Sys} (available : Available s.iface stream) :
    Within (Speaks env 2) (establish env receiver stream destination) s := by
  have budget := speaks_budgeted env
  apply budget.bind (m := 1) (n := 1) (addDestinationToStream_available destination available)
  intro _ t _
  have set := receiver.setTimeout_still env initialTimeOut t
  apply budget.free (set.mono fun _ still => still.speaks)
  intro _ t _
  apply budget.free (protobufOf_speaks stream t)
  intro pbMsgType t _
  apply budget.free (receiver.receive_speaks env pbMsgType t)
  intro msg t _
  split
  · exact explainTimeout_speaks t
  · have reset := receiver.setTimeout_still env 100 t
    exact budget.within_more (reset.mono fun _ still => still.speaks) (Nat.zero_le 1)

/-- Creating a receiver takes three exchanges after an initialisation. -/
theorem createReceiverForStream_speaks (stream destInterface : String) (destPort : BitVec 32)
    (s : Sys) :
    Within (Speaks env 6) (createReceiverForStream env stream destInterface destPort) s := by
  have budget := speaks_budgeted env
  apply budget.bind (m := 3) (n := 3) (checkStreamTypeAvailable_speaks stream s)
  intro _ t ran
  have available := checkStreamTypeAvailable_ok env ran
  have asked := tick_still t
  apply budget.free (asked.mono fun _ still => still.speaks)
  intro n u ran
  have known : Available u.iface stream := (asked.of_ok ran).iface ▸ available
  apply budget.free (this_within u)
  intro iface v ran
  cases ran
  split
  · exact budget.throw _ u
  · rename_i destAddress _
    have built := TrackedDataReceiver.construct_still env destAddress destPort stream u
    apply budget.free (built.mono fun _ still => still.speaks)
    rintro ⟨receiver, port⟩ w ran
    have kept : Available w.iface stream := (built.of_ok ran).iface ▸ known
    have named : receiver.stream = stream := (TrackedDataReceiver.construct_ok ran).2.2
    apply budget.bind (m := 3) (n := 0)
    · apply budget.unwinding (m := 2) (n := 1) (establish_speaks receiver _ kept)
      intro e x thrown
      have moves := establish_moves env receiver (destAddress ++ ":" ++ toString port.toNat) kept
      have still := Moves.available (moves.of_error thrown) kept
      exact destroyReceiver_available receiver (named ▸ still)
    · intro _ x _
      exact Within.pure receiver x

end Operations

end RemoteInterface

end RcDynamics
