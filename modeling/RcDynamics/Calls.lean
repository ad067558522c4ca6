import RcDynamics.Device
import RcDynamics.RemoteInterface

/-!
# Quiet calls

The parts of operations that neither the device nor the ledger notices: reading the object,
parsing, sockets, and the requests that change nothing. Each is related to its states by the
rules of `Effect.Within`.
-/

namespace RcDynamics

open Effect

section Still

variable {R : Sys → Sys → Prop} [Std.Refl R]

/-- Reading the object changes no state. -/
theorem this_within (s : Sys) : Within R this s := Within.of_run rfl (refl_of R s)

/-- Nor does a lifted result. -/
theorem lift_within {α : Type} (result : Except Exn α) (s : Sys) : Within R (lift result) s := by
  cases result with
  | ok a => exact Within.pure a s
  | error e => exact Within.throw e s

/-- Nor does judging an answer. -/
theorem handleCPRResponse_within (r : Response) (s : Sys) : Within R (handleCPRResponse r) s := by
  unfold handleCPRResponse
  cases r.failure with
  | none => exact Within.pure () s
  | some e => exact Within.throw e s

/-- Nor does parsing. -/
theorem parseJson_within (env : Env) (text : String) (s : Sys) :
    Within R (parseJson env text) s := by
  unfold parseJson
  cases env.parse text with
  | some j => exact Within.pure j s
  | none => exact Within.throw Json.parseError s

/-- Nor does printing a body. -/
theorem dumpArgs_within (env : Env) (destinations : List String) (s : Sys) :
    Within R (dumpArgs env destinations) s := by
  unfold dumpArgs
  split
  · exact Within.pure _ s
  · exact Within.throw _ s

/-- Allocating does what asking a question does. -/
theorem allocate_within [IsTrans Sys R] (asked : ∀ s, Within R tick s) (env : Env) (s : Sys) :
    Within R (allocate env) s := by
  refine (asked s).bind fun n t _ => ?_
  split
  · exact Within.throw _ t
  · exact Within.pure _ t

end Still

section Parts

variable {β : Type} {observe : RemoteInterface → β}

/-- Asking for the number of a question is aside. -/
theorem tick_aside (s : Sys) : Within (Aside observe) tick s :=
  Within.of_run rfl ⟨rfl, Nat.le_succ _, [], (List.append_nil _).symm, rfl, .nil⟩

/-- Allocating is aside. -/
theorem allocate_aside (env : Env) (s : Sys) : Within (Aside observe) (allocate env) s :=
  allocate_within tick_aside env s

/-- A request that asks for no change and not for the streams is aside. -/
theorem withRetry_aside (env : Env) {request : Request} (harmless : request.change = none)
    (other : request.resource ≠ .datastreams) (s : Sys) :
    Within (Aside observe) (withRetry env request waitBeforeRetry) s := by
  obtain ⟨events, t, exchange, _, ends⟩ := run_request env request s
  refine Within.of_run ends ?_
  have aside : Aside observe s t := Aside.of_quiet (exchange.quiet harmless other)
  cases (answer env request waitBeforeRetry s.world.tick).1 with
  | some r => exact aside
  | none => exact aside

/-- Getting anything but the streams is aside. -/
theorem cprGetWithRetry_aside (env : Env) {resource : Resource} (other : resource ≠ .datastreams)
    (timeout : Int) (s : Sys) : Within (Aside observe) (cprGetWithRetry env resource timeout) s :=
  (this_within s).bind fun _ t _ => withRetry_aside env rfl other t

/-- Calling a service is aside. -/
theorem cprPutWithRetry_service_aside (env : Env) (node name : String) (timeout : Int)
    (body : Option Json) (s : Sys) :
    Within (Aside observe) (cprPutWithRetry env (.service node name) timeout body) s :=
  (this_within s).bind fun _ t _ => withRetry_aside env rfl (by simp [request]) t

end Parts

namespace RemoteInterface

variable (env : Env)

/-- Asking for a state is quiet. -/
theorem getState_quiet (node : String) (s : Sys) : Within Quiet (getState env node) s := by
  refine (this_within s).bind fun _ t _ => ?_
  refine (cprGetWithRetry_aside env (by simp) _ t).bind fun r t _ => ?_
  refine (handleCPRResponse_within r t).bind fun _ t _ => ?_
  refine Within.tryCatch ((parseJson_within env _ t).bind fun j t _ => lift_within _ t) ?_
  intro e t _
  split
  · exact Within.pure _ t
  · exact Within.throw e t

/-- A service that enters a state is quiet. -/
theorem callStateService_quiet (node serviceName : String) (validStates : List String) (s : Sys) :
    Within Quiet (callStateService env node serviceName validStates) s := by
  refine (this_within s).bind fun _ t _ => ?_
  refine (cprPutWithRetry_service_aside env node serviceName _ none t).bind fun r t _ => ?_
  refine (handleCPRResponse_within r t).bind fun _ t _ => ?_
  exact (parseJson_within env _ t).bind fun j t _ => lift_within _ t

/-- A service that answers with a document is quiet. -/
theorem service_quiet {α : Type} (node serviceName : String) (timeout : Int) (body : Option Json)
    (decode : Json → Except Exn α) (s : Sys) :
    Within Quiet (do
      let r ← cprPutWithRetry env (.service node serviceName) timeout body
      handleCPRResponse r
      let j ← parseJson env r.text
      lift (decode j)) s := by
  refine (cprPutWithRetry_service_aside env node serviceName timeout body s).bind fun r t _ => ?_
  refine (handleCPRResponse_within r t).bind fun _ t _ => ?_
  exact (parseJson_within env _ t).bind fun j t _ => lift_within _ t

/-- Requiring that the map has not been cleared changes no state. -/
theorem requireEpoch_within {R : Sys → Sys → Prop} [Std.Refl R] [IsTrans Sys R] (epoch : Nat)
    (s : Sys) : Within R (requireEpoch epoch) s := by
  refine (this_within s).bind fun iface t _ => ?_
  split
  · exact Within.pure () t
  · exact Within.throw _ t

/-- Nor does reading the argument of a removal. -/
theorem read_within {R : Sys → Sys → Prop} [Std.Refl R] [IsTrans Sys R] (stream : String)
    (destinations : Destinations) (s : Sys) : Within R (destinations.read stream) s := by
  cases destinations with
  | list values => exact Within.pure values s
  | tracked epoch =>
    refine (requireEpoch_within epoch s).bind fun _ t _ => ?_
    exact (this_within t).bind fun _ t _ => Within.pure _ t

/-- Nor does explaining why a registration is refused: it always throws. -/
theorem tooManyDestinations_within {R : Sys → Sys → Prop} [Std.Refl R] [IsTrans Sys R]
    (put : Response) (s : Sys) : Within R (tooManyDestinations env put) s := by
  refine (parseJson_within env _ s).bind fun j t _ => ?_
  exact (lift_within _ t).bind fun message t _ => Within.throw _ t

/-- Explaining a timeout is quiet. -/
theorem explainTimeout_quiet (s : Sys) : Within Quiet (explainTimeout env) s := by
  refine (getState_quiet env _ s).bind fun currentState t _ => ?_
  split
  · exact Within.throw _ t
  · exact Within.throw _ t

end RemoteInterface

section Receivers

variable (env : Env)

/-- Closing a socket is quiet. -/
theorem closeSocket_quiet (sockfd : Nat) (s : Sys) : Within Quiet (closeSocket sockfd) s :=
  Within.of_run rfl ⟨rfl, Nat.le_refl _, [], (List.append_nil _).symm, rfl, .nil⟩

/-- Opening a socket is quiet. -/
theorem openSocket_quiet (s : Sys) : Within Quiet (openSocket env) s := by
  refine (tick_aside s).bind fun n t _ => ?_
  split
  · exact Within.of_run rfl ⟨rfl, Nat.le_refl _, [], (List.append_nil _).symm, rfl, .nil⟩
  · exact Within.throw _ t

/-- Building a receiver is quiet. -/
theorem DataReceiver.construct_quiet (ipAddress : String) (port : BitVec 32) (s : Sys) :
    Within Quiet (DataReceiver.construct env ipAddress port) s := by
  unfold DataReceiver.construct
  split
  · exact Within.throw _ s
  refine (openSocket_quiet env s).bind fun sockfd t _ => ?_
  refine (tick_aside t).bind fun n t _ => ?_
  split
  · exact Within.throw _ t
  · split
    · refine (tick_aside t).bind fun n t _ => ?_
      split
      · exact Within.pure _ t
      · exact (closeSocket_quiet sockfd t).bind fun _ t _ => Within.throw _ t
    · exact Within.pure _ t

/-- Building a tracked receiver is quiet. -/
theorem TrackedDataReceiver.construct_quiet (ipAddress : String) (port : BitVec 32)
    (stream : String) (s : Sys) :
    Within Quiet (TrackedDataReceiver.construct env ipAddress port stream) s :=
  (DataReceiver.construct_quiet env ipAddress port s).bind fun _ t _ => Within.pure _ t

/-- Setting a timeout is quiet. -/
theorem DataReceiver.setTimeout_quiet (receiver : DataReceiver) (ms : Nat) (s : Sys) :
    Within Quiet (receiver.setTimeout env ms) s := by
  refine (tick_aside s).bind fun n t _ => ?_
  split
  · exact Within.pure () t
  · exact Within.throw _ t

/-- Receiving a message is quiet once the receiver has been asked. -/
theorem DataReceiver.receiveAs_quiet (pbMsgType : String) (s : Sys) :
    Within Quiet (DataReceiver.receiveAs env pbMsgType) s := by
  refine (tick_aside s).bind fun n t _ => ?_
  split
  · exact Within.pure _ t
  · split
    · exact Within.pure none t
    · exact Within.throw _ t

/-- Asking a receiver is quiet after the event that records it. -/
theorem DataReceiver.run_receive (receiver : DataReceiver) (pbMsgType : String) (s : Sys) :
    Quiet (s.advance s.world.tick [.receive pbMsgType])
      (final ((receiver.receive env pbMsgType).run s)) := by
  unfold DataReceiver.receive
  rw [run_bind_of_ok (run_emit (.receive pbMsgType) s)]
  change Within Quiet _ (s.advance s.world.tick [.receive pbMsgType])
  split
  · exact receiveAs_quiet env pbMsgType _
  · exact Within.throw _ _

end Receivers

/-- Allocating does not touch the object. -/
theorem allocate_ok (env : Env) {s t : Sys} (ran : (allocate env).run s = .ok () t) :
    Quiet s t := (allocate_aside env s).of_ok ran

/-- A lifted result that returns is that value. -/
theorem lift_ok_iff {α : Type} {result : Except Exn α} {a : α} {s t : Sys} :
    (lift result).run s = .ok a t ↔ result = .ok a ∧ t = s := by
  cases result with
  | ok b => simp [eq_comm]
  | error e => simp

/-- An answer that passes is a success. -/
theorem handleCPRResponse_ok {r : Response} {s t : Sys}
    (ran : (handleCPRResponse r).run s = .ok () t) : r.statusCode = 200 ∧ t = s := by
  by_cases success : r.statusCode = 200
  · rw [run_handleCPRResponse_ok success] at ran
    cases ran
    exact ⟨success, rfl⟩
  · obtain ⟨e, _, thrown⟩ := run_handleCPRResponse_error success s
    rw [thrown] at ran
    cases ran

/-- A text that is parsed has a document. -/
theorem parseJson_ok {env : Env} {text : String} {j : Json} {s t : Sys}
    (ran : (parseJson env text).run s = .ok j t) : env.parse text = some j ∧ t = s := by
  unfold parseJson at ran
  cases parsed : env.parse text with
  | some document =>
    rw [parsed] at ran
    cases ran
    exact ⟨rfl, rfl⟩
  | none =>
    rw [parsed] at ran
    cases ran

end RcDynamics
