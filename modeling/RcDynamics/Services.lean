import RcDynamics.Calls
import RcDynamics.Documents
import RcDynamics.Session

/-!
# Answers of the services that enter a state

What an answer of such a service means, for the interface of new firmware and for that of old
firmware, and when the library decodes it so. The exceptions of the JSON library derive from
`std::exception`, so the handlers for `std::logic_error` around the decoding never run: answers
in the form of old firmware are refused.
-/

namespace RcDynamics

open Effect

/-- The device answers a request with a document and the status 200, after the retries. -/
def Answers (env : Env) (request : Request) (s : Sys) (j : Json) : Prop :=
  ∃ r, (answer env request waitBeforeRetry s.world.tick).1 = some r ∧ r.statusCode = 200 ∧
    env.parse r.text = some j

/-- After an answer with the status 200 the rest of a call runs, on the same object. -/
theorem run_answered {env : Env} {request : Request} {s : Sys} {r : Response}
    (answered : (answer env request waitBeforeRetry s.world.tick).1 = some r)
    (success : r.statusCode = 200) {α : Type} (next : Response → Call α) :
    ∃ events t, Exchange request (some r) events s t ∧
      (do
        let response ← withRetry env request waitBeforeRetry
        handleCPRResponse response
        next response).run s = (next r).run t := by
  obtain ⟨events, t, exchange, _, ends⟩ := run_request env request s
  rw [answered] at exchange ends
  refine ⟨events, t, exchange, ?_⟩
  rw [run_bind_of_ok ends, run_bind_of_ok (run_handleCPRResponse_ok success t)]

/-- The outcome of lifting a result is the result. -/
@[simp] theorem outcome_lift {α : Type} (result : Except Exn α) (s : Sys) :
    outcome ((lift result).run s) = result := by
  cases result <;> rfl

/-- A text with a document is parsed. -/
theorem parseJson_of_parse {env : Env} {text : String} {j : Json}
    (parsed : env.parse text = some j) : parseJson env text = pure j := by
  unfold parseJson
  rw [parsed]

namespace RemoteInterface

/-- `response.current_state`, when it is a string. -/
def currentState (j : Json) : Option String :=
  (j.follow ["response", "current_state"]).value?.bind Json.string?

/-- `response.accepted`, when it is a boolean. -/
def acceptance (j : Json) : Option Bool :=
  (j.follow ["response", "accepted"]).value?.bind Json.boolean?

/-- The integer value of `response.enteredState`, when it is a number. -/
def enteredState (j : Json) : Option Int :=
  (j.follow ["response", "enteredState"]).value?.bind Json.integer?

/-- An answer in the form of new firmware: an unknown state, or a known one together with the
acceptance of the call. -/
def NewInterface (validStates : List String) (j : Json) : Prop :=
  ∃ state, currentState j = some state ∧ (state ∉ validStates ∨ (acceptance j).isSome)

/-- An answer in the form of old firmware, which tells the entered state as a number. -/
def OldInterface (validStates : List String) (j : Json) : Prop :=
  ¬ NewInterface validStates j ∧ (enteredState j).isSome

/-- What the answer of a service has to lead to. -/
structure ServiceLaw (validStates : List String) (serviceName : String) (j : Json)
    (result : Except Exn String) : Prop where
  invalid : ∀ state, currentState j = some state → state ∉ validStates →
    result = .error (.invalidState state)
  accepted : ∀ state, currentState j = some state → state ∈ validStates →
    acceptance j = some true → result = .ok state
  refused : ∀ state, currentState j = some state → state ∈ validStates →
    acceptance j = some false → result = .error (.notAccepted serviceName)
  numeric : ¬ NewInterface validStates j → ∀ code, enteredState j = some code →
    result = .ok (toString code)
  failed : ¬ NewInterface validStates j → enteredState j = none →
    ∃ e, e.isJson = true ∧ result = .error e

section Decoding

variable {validStates : List String} {serviceName state : String} {j : Json}

/-- The decoding of the state and the acceptance, with its reads along paths. -/
theorem decodeState_eq (validStates : List String) (j : Json) :
    decodeState validStates j = do
      let state ← ["response", "current_state"].foldlM Json.index j >>= Json.getString
      if state ∉ validStates then .error (.invalidState state)
      else
        let accepted ← ["response", "accepted"].foldlM Json.index j >>= Json.getBool
        return (state, accepted) := by
  unfold decodeState
  simp only [List.foldlM_cons, List.foldlM_nil, bind_pure, bind_assoc]

/-- A state that the library does not know ends the decoding. -/
theorem decodeState_invalid (told : currentState j = some state) (invalid : state ∉ validStates) :
    decodeState validStates j = .error (.invalidState state) := by
  rw [decodeState_eq, Json.getString_converts.read_some told]
  exact if_pos invalid

/-- A known state is decoded together with the acceptance. -/
theorem decodeState_known {accepted : Bool} (told : currentState j = some state)
    (known : state ∈ validStates) (decided : acceptance j = some accepted) :
    decodeState validStates j = .ok (state, accepted) := by
  rw [decodeState_eq, Json.getString_converts.read_some told,
    Json.getBool_converts.read_some decided]
  exact if_neg (not_not.mpr known)

/-- An answer that is not in the new form ends the decoding with an exception of the JSON
library. -/
theorem decodeState_old (old : ¬ NewInterface validStates j) :
    ∃ e, e.isJson = true ∧ decodeState validStates j = .error e := by
  rw [decodeState_eq]
  cases told : currentState j with
  | none =>
    obtain ⟨e, isJson, failed⟩ := Json.getString_converts.read_none told
    rw [failed]
    exact ⟨e, isJson, rfl⟩
  | some state =>
    have known : state ∈ validStates := by
      by_contra invalid
      exact old ⟨state, told, Or.inl invalid⟩
    have undecided : acceptance j = none := by
      by_contra decided
      exact old ⟨state, told, Or.inr (Option.isSome_iff_ne_none.mpr decided)⟩
    obtain ⟨e, isJson, failed⟩ := Json.getBool_converts.read_none undecided
    rw [Json.getString_converts.read_some told, failed]
    exact ⟨e, isJson, if_neg (not_not.mpr known)⟩

/-- An exception that is no `std::logic_error` leaves the decoding of a service. -/
theorem decodeService_error {e : Exn} (failed : decodeState validStates j = .error e)
    (uncaught : e.isLogicError = false) :
    decodeService validStates serviceName j = .error e := by
  unfold decodeService
  rw [failed]
  simp [uncaught]
  rfl

/-- A decoded answer decides the call. -/
theorem decodeService_ok {accepted : Bool}
    (decoded : decodeState validStates j = .ok (state, accepted)) :
    decodeService validStates serviceName j =
      if accepted then .ok state else .error (.notAccepted serviceName) := by
  unfold decodeService
  rw [decoded]
  cases accepted <;> rfl

/-- An exception of the JSON library is no `std::logic_error`. -/
theorem isLogicError_of_isJson {e : Exn} (isJson : e.isJson = true) : e.isLogicError = false := by
  cases e <;> first | rfl | cases isJson

/-- The law holds of the decoding exactly when the answer is not in the old form. -/
theorem decodeService_lawful_iff (validStates : List String) (serviceName : String) (j : Json) :
    ServiceLaw validStates serviceName j (decodeService validStates serviceName j) ↔
      ¬ OldInterface validStates j := by
  constructor
  · rintro law ⟨old, coded⟩
    obtain ⟨code, numeric⟩ := Option.isSome_iff_exists.mp coded
    obtain ⟨e, isJson, failed⟩ := decodeState_old old
    have required := law.numeric old code numeric
    rw [decodeService_error failed (isLogicError_of_isJson isJson)] at required
    cases required
  · intro notOld
    constructor
    · intro state told invalid
      exact decodeService_error (decodeState_invalid told invalid) rfl
    · intro state told known accepted
      exact decodeService_ok (decodeState_known told known accepted)
    · intro state told known refused
      exact decodeService_ok (decodeState_known told known refused)
    · intro old code numeric
      exact absurd ⟨old, by rw [numeric]; rfl⟩ notOld
    · intro old _
      obtain ⟨e, isJson, failed⟩ := decodeState_old old
      exact ⟨e, isJson, decodeService_error failed (isLogicError_of_isJson isJson)⟩

end Decoding

section Calls

variable (env : Env)

/-- The request of a service call without arguments. -/
def serviceRequest (node serviceName : String) (iface : RemoteInterface) : Request :=
  request .put (.service node serviceName) none iface.timeoutCurl iface

/-- The outcome of a service call is the decoding of its answer. -/
theorem outcome_callStateService {node serviceName : String} {s : Sys} {j : Json}
    (validStates : List String)
    (answers : Answers env (serviceRequest node serviceName s.iface) s j) :
    outcome ((callStateService env node serviceName validStates).run s) =
      decodeService validStates serviceName j := by
  obtain ⟨r, answered, success, parsed⟩ := answers
  obtain ⟨events, t, _, ran⟩ := run_answered answered success fun response => do
    let j ← parseJson env response.text
    lift (decodeService validStates serviceName j)
  unfold callStateService cprPutWithRetry
  rw [run_this_bind, bind_assoc, run_this_bind]
  refine (congrArg outcome ran).trans ?_
  simp only [parseJson_of_parse parsed, pure_bind, outcome_lift]

/-- Service calls obey the law of their answers exactly when the answer is not in the form of old
firmware. -/
theorem services_lawful_iff (s : Sys) (j : Json) :
    (∀ serviceName, Answers env (serviceRequest "rc_dynamics" serviceName s.iface) s j →
      (ServiceLaw dynamicsStates serviceName j
          (outcome ((callDynamicsService env serviceName).run s)) ↔
        ¬ OldInterface dynamicsStates j)) ∧
    (Answers env (serviceRequest "rc_slam" "reset" s.iface) s j →
      (ServiceLaw slamStates "reset" j (outcome ((resetSlam env).run s)) ↔
        ¬ OldInterface slamStates j)) := by
  constructor
  · intro serviceName answers
    unfold callDynamicsService
    rw [outcome_callStateService env dynamicsStates answers]
    exact decodeService_lawful_iff dynamicsStates serviceName j
  · intro answers
    unfold resetSlam
    rw [outcome_callStateService env slamStates answers]
    exact decodeService_lawful_iff slamStates "reset" j

end Calls

/-- A device that answers every request with the status 200 and the same document. -/
def documentDevice (j : Json) : Env := { obligingDevice with parse := fun _ => some j }

/-- It answers so at any time. -/
theorem documentDevice_answers (j : Json) (request : Request) (s : Sys) :
    Answers (documentDevice j) request s j := ⟨_, rfl, rfl, rfl⟩

/-- The answer of new firmware to a call that is accepted and leads to the state `IDLE`. -/
def acceptedAnswer : Json :=
  .object [("response", .object [("accepted", .boolean true), ("current_state", .string "IDLE")])]

/-- A call that new firmware accepts obeys the law. -/
theorem services_lawful_accepted :
    ServiceLaw dynamicsStates "stop" acceptedAnswer
        (outcome ((callDynamicsService (documentDevice acceptedAnswer) "stop").run
          (Session.begin "192.168.0.10" 5000).sys)) ∧
      ServiceLaw slamStates "reset" acceptedAnswer
        (outcome ((resetSlam (documentDevice acceptedAnswer)).run
          (Session.begin "192.168.0.10" 5000).sys)) := by
  have law := services_lawful_iff (documentDevice acceptedAnswer)
    (Session.begin "192.168.0.10" 5000).sys acceptedAnswer
  constructor
  · exact (law.1 "stop" (documentDevice_answers _ _ _)).mpr fun old =>
      old.1 ⟨"IDLE", by decide, Or.inr (by decide)⟩
  · exact (law.2 (documentDevice_answers _ _ _)).mpr fun old =>
      old.1 ⟨"IDLE", by decide, Or.inr (by decide)⟩

/-- The answer of old firmware to a call that enters the state with the number 1. -/
def enteredAnswer : Json := .object [("response", .object [("enteredState", .unsigned 1)])]

/-- A call that old firmware answers does not return the number of the state. -/
theorem start_lawless :
    Answers (documentDevice enteredAnswer)
        (serviceRequest "rc_dynamics" "start" (Session.begin "192.168.0.10" 5000).sys.iface)
        (Session.begin "192.168.0.10" 5000).sys enteredAnswer ∧
      ¬ServiceLaw dynamicsStates "start" enteredAnswer
        (outcome ((callDynamicsService (documentDevice enteredAnswer) "start").run
          (Session.begin "192.168.0.10" 5000).sys)) := by
  have answers := documentDevice_answers enteredAnswer
    (serviceRequest "rc_dynamics" "start" (Session.begin "192.168.0.10" 5000).sys.iface)
    (Session.begin "192.168.0.10" 5000).sys
  refine ⟨answers, fun law => ?_⟩
  unfold callDynamicsService at law
  rw [outcome_callStateService _ dynamicsStates answers, decodeService_lawful_iff] at law
  exact law ⟨fun ⟨_, told, _⟩ => (nomatch told), rfl⟩

end RemoteInterface

end RcDynamics
