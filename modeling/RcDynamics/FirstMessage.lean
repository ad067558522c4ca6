import RcDynamics.Receivers
import RcDynamics.Services

/-!
# States of nodes and the first message

A node answers with its state, or without one; a receiver for which no first message arrives is
explained by the state of `rc_dynamics`. What both have to come to is stated for every document,
together with the documents for which the library comes to it: the handler for
`std::domain_error` that is to supply the state `UNKNOWN` never runs.
-/

namespace RcDynamics

open Effect

namespace RemoteInterface

/-- `values.state`, when it is a string. -/
def stateField (j : Json) : Option String :=
  (j.follow ["values", "state"]).value?.bind Json.string?

/-- `values` or `values.state` is absent or null. -/
def StateMissing (j : Json) : Prop := (j.follow ["values", "state"]).Missing

/-- What the answer of a node has to lead to. -/
structure StateLaw (j : Json) (result : Except Exn String) : Prop where
  told : ∀ state, stateField j = some state → result = .ok state
  unknown : StateMissing j → result = .ok stateUnknown
  contained : ∀ e, result = .error e → e.isJson = false

/-- How a call has to end for which no first message arrived. -/
structure TimeoutLaw {α : Type} (j : Json) (result : Except Exn α) : Prop where
  running : ∀ state, stateField j = some state → state ∈ runningStates →
    result = .error (.unexpectedReceiveTimeout initialTimeOut)
  stopped : ∀ state, stateField j = some state → state ∉ runningStates →
    result = .error (.dynamicsNotRunning state)
  unknown : StateMissing j → result = .error (.dynamicsNotRunning stateUnknown)

/-- A missing state is no string. -/
theorem stateField_of_missing {j : Json} (missing : StateMissing j) : stateField j = none := by
  unfold stateField
  cases found : (j.follow ["values", "state"]).value? with
  | none => rfl
  | some value =>
    rw [missing value found]
    rfl

variable (env : Env)

/-- The request for the state of a node. -/
def statusRequest (node : String) (iface : RemoteInterface) : Request :=
  request .get (.status node) none iface.timeoutCurl iface

/-- The handler of `getState` catches nothing. -/
theorem outcome_uncaught (result : Except Exn String) (s : Sys) :
    outcome ((tryCatch (lift result) fun e =>
      if e.isDomainError then return stateUnknown else throw e : Call String).run s) = result := by
  cases result <;> rfl

/-- The outcome of asking for a state: the string, or an exception of the JSON library. -/
theorem outcome_getState {node : String} {s : Sys} {j : Json}
    (answers : Answers env (statusRequest node s.iface) s j) :
    match stateField j with
    | some state => outcome ((getState env node).run s) = .ok state
    | none => ∃ e, e.isJson = true ∧ outcome ((getState env node).run s) = .error e := by
  obtain ⟨r, answered, success, parsed⟩ := answers
  let read := (["values", "state"].foldlM Json.index j >>= Json.getString)
  obtain ⟨events, t, _, ran⟩ := run_answered answered success fun response =>
    tryCatch
      (do
        let j ← parseJson env response.text
        lift (do (← (← j.index "values").index "state").getString))
      fun e => if e.isDomainError then return stateUnknown else throw e
  have ends : outcome ((getState env node).run s) = read := by
    unfold getState cprGetWithRetry
    rw [run_this_bind, bind_assoc, run_this_bind]
    refine (congrArg outcome ran).trans ?_
    simp only [parseJson_of_parse parsed, pure_bind, Json.index_pair]
    exact outcome_uncaught read t
  rw [ends]
  cases told : stateField j with
  | some state => exact Json.getString_converts.read_some told
  | none => exact Json.getString_converts.read_none told

/-- A state is told lawfully exactly when the document has it as a string. -/
theorem getState_lawful_iff {node : String} {s : Sys} {j : Json}
    (answers : Answers env (statusRequest node s.iface) s j) :
    StateLaw j (outcome ((getState env node).run s)) ↔ (stateField j).isSome := by
  have ends := outcome_getState env answers
  cases told : stateField j with
  | some state =>
    rw [told] at ends
    refine ⟨fun _ => rfl, fun _ => ⟨fun state' same => ?_, fun missing => ?_, fun e failed => ?_⟩⟩
    · rw [told] at same
      cases same
      exact ends
    · rw [stateField_of_missing missing] at told
      cases told
    · rw [ends] at failed
      cases failed
  | none =>
    rw [told] at ends
    obtain ⟨e, isJson, failed⟩ := ends
    refine ⟨fun law => ?_, fun told => nomatch told⟩
    rw [law.contained e failed] at isJson
    cases isJson

/-- The explanation of a timeout ends in an exception: the one for the state, or that of asking
for it. -/
theorem outcome_explainTimeout (s : Sys) :
    ∃ e t, (explainTimeout env).run s = .error e t ∧
      match outcome ((getState env "rc_dynamics").run s) with
      | .ok state => e = if state ∉ runningStates then .dynamicsNotRunning state
          else .unexpectedReceiveTimeout initialTimeOut
      | .error thrown => e = thrown := by
  unfold explainTimeout getDynamicsState
  cases asked : (getState env "rc_dynamics").run s with
  | ok state t =>
    rw [run_bind_of_ok asked]
    simp only [outcome_ok]
    split_ifs with running
    · exact ⟨_, t, rfl, rfl⟩
    · exact ⟨_, t, rfl, rfl⟩
  | error e t =>
    rw [run_bind_of_error asked]
    exact ⟨e, t, rfl, rfl⟩

/-- The statements from the request of the stream to the wait for its first message. -/
def awaitFirstMessage (receiver : TrackedDataReceiver) (stream destination : String) :
    Call (Option Message) := do
  addDestinationToStream env stream destination
  receiver.setTimeout env initialTimeOut
  let pbMsgType ← protobufOf stream
  receiver.receive env pbMsgType

/-- What follows the wait for the first message depends on whether there is one. -/
theorem establish_eq (receiver : TrackedDataReceiver) (stream destination : String) :
    establish env receiver stream destination = (do
      let msg ← awaitFirstMessage env receiver stream destination
      if msg.isNone then explainTimeout env else receiver.setTimeout env 100) := by
  unfold establish awaitFirstMessage
  simp only [bind_assoc]

/-- The destruction of a receiver of an available stream returns, whatever the device answers. -/
theorem run_destroy_returns {receiver : TrackedDataReceiver} {s : Sys}
    (available : Available s.iface receiver.stream) :
    ∃ t, (receiver.destroy env).run s = .ok () t := by
  have caught : ∃ t, (tryCatch
      (deleteDestinationFromStream env receiver.stream receiver.dest)
      fun e => if e.isException then return () else throw e).run s = .ok () t := by
    obtain ⟨events, u, ⟨_, ran⟩ | ⟨_, e, isException, ran⟩⟩ :=
      run_deleteDestinationFromStream env available receiver.dest
    · exact ⟨_, by rw [run_tryCatch, ran]⟩
    · exact ⟨u, by rw [run_tryCatch, ran]; simp only [isException]; rfl⟩
  obtain ⟨t, ran⟩ := caught
  unfold TrackedDataReceiver.destroy
  rw [run_bind_of_ok ran]
  exact ⟨_, rfl⟩

/-- Requesting a stream and waiting for its message leaves the stream available. -/
theorem establish_available {stream : String} {s : Sys} (available : Available s.iface stream)
    (receiver : TrackedDataReceiver) (destination : String) :
    Available (final ((establish env receiver stream destination).run s)).iface stream := by
  rcases run_establish env available receiver destination with
    ⟨harmless, _⟩ | ⟨_, events, t, extends', changed, after⟩
  · exact harmless.available available
  · exact (registered_of_harmless available extends' changed after).1

/-- An exception after the receiver has been opened is that of the call, and the receiver is
destroyed. -/
theorem run_createReceiverForStream_error {stream destInterface destination : String}
    {destPort : BitVec 32} {receiver : TrackedDataReceiver} {s t u : Sys} {e : Exn}
    (opened : (openReceiver env stream destInterface destPort).run s =
      .ok (receiver, destination) t)
    (failed : (establish env receiver stream destination).run t = .error e u) :
    ∃ v, (receiver.destroy env).run u = .ok () v ∧
      (createReceiverForStream env stream destInterface destPort).run s = .error e v := by
  obtain ⟨available, streamEq, _⟩ := openReceiver_ok env opened
  have still : Available u.iface receiver.stream := by
    have kept := establish_available env available receiver destination
    rwa [failed, final_error, ← streamEq] at kept
  obtain ⟨v, destroyed⟩ := run_destroy_returns env still
  have unwound : (unwinding (establish env receiver stream destination)
      (receiver.destroy env)).run t = .error e v := by
    rw [run_unwinding, failed]
    simp only [destroyed]
  refine ⟨v, destroyed, ?_⟩
  rw [createReceiverForStream_eq, run_bind_of_ok opened]
  exact run_bind_of_error unwound

/-- A call for which no first message arrives throws the explanation of the timeout. -/
theorem outcome_createReceiverForStream {stream destInterface destination : String}
    {destPort : BitVec 32} {receiver : TrackedDataReceiver} {s t u : Sys}
    (opened : (openReceiver env stream destInterface destPort).run s =
      .ok (receiver, destination) t)
    (unheard : (awaitFirstMessage env receiver stream destination).run t = .ok none u) :
    ∃ e, outcome ((createReceiverForStream env stream destInterface destPort).run s) = .error e ∧
      match outcome ((getState env "rc_dynamics").run u) with
      | .ok state => e = if state ∉ runningStates then .dynamicsNotRunning state
          else .unexpectedReceiveTimeout initialTimeOut
      | .error thrown => e = thrown := by
  obtain ⟨e, v, explained, classified⟩ := outcome_explainTimeout env u
  have failed : (establish env receiver stream destination).run t = .error e v := by
    rw [establish_eq, run_bind_of_ok unheard]
    exact explained
  obtain ⟨w, _, thrown⟩ := run_createReceiverForStream_error env opened failed
  exact ⟨e, congrArg outcome thrown, classified⟩

/-- A missing first message is classified lawfully exactly when the document has the state as a
string. -/
theorem timeout_lawful_iff {stream destInterface destination : String} {destPort : BitVec 32}
    {receiver : TrackedDataReceiver} {s t u : Sys} {j : Json}
    (opened : (openReceiver env stream destInterface destPort).run s =
      .ok (receiver, destination) t)
    (unheard : (awaitFirstMessage env receiver stream destination).run t = .ok none u)
    (answers : Answers env (statusRequest "rc_dynamics" u.iface) u j)
    (shaped : (stateField j).isSome ∨ StateMissing j) :
    TimeoutLaw j (outcome ((createReceiverForStream env stream destInterface destPort).run s)) ↔
      (stateField j).isSome := by
  obtain ⟨e, thrown, classified⟩ := outcome_createReceiverForStream env opened unheard
  have asked := outcome_getState env answers
  rw [thrown]
  cases told : stateField j with
  | some state =>
    rw [told] at asked
    simp only [asked] at classified
    refine ⟨fun _ => rfl, fun _ => ⟨fun state' same running => ?_, fun state' same stopped => ?_,
      fun missing => ?_⟩⟩
    · rw [told] at same
      cases same
      rw [classified, if_neg (not_not.mpr running)]
    · rw [told] at same
      cases same
      rw [classified, if_pos stopped]
    · rw [stateField_of_missing missing] at told
      cases told
  | none =>
    rw [told] at asked
    obtain ⟨cause, isJson, failed⟩ := asked
    simp only [failed] at classified
    subst classified
    refine ⟨fun law => ?_, fun told => nomatch told⟩
    have missing : StateMissing j := shaped.resolve_left fun is => by
      rw [told] at is
      cases is
    cases law.unknown missing
    cases isJson

/-- Asking for a state is lawful exactly when the answer has the state as a string, and so is the
classification of a missing first message for the documents that have a state or none. -/
theorem states_lawful_iff :
    (∀ node s j, Answers env (statusRequest node s.iface) s j →
      (StateLaw j (outcome ((getState env node).run s)) ↔ (stateField j).isSome)) ∧
    ∀ stream destInterface destPort receiver destination s t u j,
      (openReceiver env stream destInterface destPort).run s = .ok (receiver, destination) t →
      (awaitFirstMessage env receiver stream destination).run t = .ok none u →
      Answers env (statusRequest "rc_dynamics" u.iface) u j →
      (stateField j).isSome ∨ StateMissing j →
      (TimeoutLaw j
          (outcome ((createReceiverForStream env stream destInterface destPort).run s)) ↔
        (stateField j).isSome) := by
  constructor
  · intro node s j answers
    exact getState_lawful_iff env answers
  · intro stream destInterface destPort receiver destination s t u j opened unheard answers shaped
    exact timeout_lawful_iff env opened unheard answers shaped

/-- The state of a device that is running is told, and a receiver for which it sends no data ends
with the exception for that. -/
theorem states_lawful_running :
    outcome ((getState obligingDevice "rc_dynamics").run poseSession.sys) = .ok "RUNNING" ∧
      outcome ((createReceiverForStream obligingDevice "pose" "" 0).run poseSession.sys) =
        .error (.unexpectedReceiveTimeout 5000) := by
  let status : Json := .object [("values", .object [("state", .string "RUNNING")])]
  have told : stateField status = some "RUNNING" := by decide
  have answers (s : Sys) : Answers obligingDevice (statusRequest "rc_dynamics" s.iface) s status :=
    ⟨_, rfl, rfl, rfl⟩
  have law := states_lawful_iff obligingDevice
  constructor
  · have lawful := (law.1 "rc_dynamics" poseSession.sys status (answers _)).mpr (by rw [told]; rfl)
    exact lawful.told "RUNNING" told
  · have unheard : (outcome ((openReceiver obligingDevice "pose" "" 0 >>= fun opened =>
        awaitFirstMessage obligingDevice opened.1 "pose" opened.2).run
          poseSession.sys)).toOption.map Option.isNone = some true := by decide +kernel
    cases opened : (openReceiver obligingDevice "pose" "" 0).run poseSession.sys with
    | error e t =>
      rw [run_bind_of_error opened] at unheard
      cases unheard
    | ok result t =>
      rw [run_bind_of_ok opened] at unheard
      cases waited : (awaitFirstMessage obligingDevice result.1 "pose" result.2).run t with
      | error e u =>
        rw [waited] at unheard
        cases unheard
      | ok msg u =>
        rw [waited] at unheard
        cases msg with
        | some msg => cases unheard
        | none =>
          have lawful := (law.2 "pose" "" 0 result.1 result.2 poseSession.sys t u status opened
            waited (answers u) (Or.inl (by rw [told]; rfl))).mpr (by rw [told]; rfl)
          exact lawful.running "RUNNING" told (by decide)

/-- A node that answers without a state is not taken to be in the state `UNKNOWN`: the exception
of the JSON library leaves the call. -/
theorem getState_lawless :
    Answers (documentDevice (.object []))
        (statusRequest "rc_dynamics" (Session.begin "192.168.0.10" 5000).sys.iface)
        (Session.begin "192.168.0.10" 5000).sys (.object []) ∧
      ¬StateLaw (.object []) (outcome ((getState (documentDevice (.object [])) "rc_dynamics").run
        (Session.begin "192.168.0.10" 5000).sys)) := by
  have answers := documentDevice_answers (.object [])
    (statusRequest "rc_dynamics" (Session.begin "192.168.0.10" 5000).sys.iface)
    (Session.begin "192.168.0.10" 5000).sys
  refine ⟨answers, fun law => ?_⟩
  have told := (getState_lawful_iff _ answers).mp law
  cases told

end RemoteInterface

end RcDynamics
