import RcDynamics.Device
import RcDynamics.Retry
import RcDynamics.Session

/-!
# Waiting for a device that answers 429

The loop over the waiting times is a sequence of attempts with pauses: its events are those of
the attempts, and its outcome is their result. What is promised of it is that it waits only in
order to send the request again. It keeps the promise exactly when one of the attempts gets
another answer than 429; otherwise it announces and sleeps a last time and gives the request up.
-/

namespace RcDynamics

open Effect

/-- An answer that asks for patience. -/
abbrev Response.tooMany (r : Response) : Prop := r.statusCode = 429

/-- The event of an attempt of a request, or of a pause after one. -/
def attemptEvent (request : Request) : Retry.Entry Response Nat → Event
  | .answer r => .http request r
  | .pause ms => .wait ms

/-- The answers of the device to a request, by the number of the question. -/
def Env.responses (env : Env) (request : Request) (n : ℕ) : Response := env.http n request

/-- The attempts of a request that begins with a given question. -/
def Env.attempts (env : Env) (request : Request) (waits : List Nat) (n : ℕ) :
    List (Retry.Entry Response Nat) :=
  Retry.log Response.tooMany (env.responses request) waits n

/-- The waits among some events, in milliseconds. -/
def waitsOf (events : List Event) : List Nat :=
  events.filterMap fun
    | .wait ms => some ms
    | _ => none

/-- There is a request for each answer to an attempt. -/
theorem requests_attempts (request : Request) (entries : List (Retry.Entry Response Nat)) :
    requests (entries.map (attemptEvent request)) =
      (Retry.answersOf entries).map fun _ => request := by
  induction entries with
  | nil => rfl
  | cons entry entries ih =>
    cases entry with
    | answer r => exact congrArg (request :: ·) ih
    | pause ms => exact ih

/-- There is a wait for each pause. -/
theorem waitsOf_attempts (request : Request) (entries : List (Retry.Entry Response Nat)) :
    waitsOf (entries.map (attemptEvent request)) = Retry.pausesOf entries := by
  induction entries with
  | nil => rfl
  | cons entry entries ih =>
    cases entry with
    | answer r => exact ih
    | pause ms => exact congrArg (ms :: ·) ih

/-- A request with retries records its attempts, returns the answer that is no 429, and is given
up without one. -/
theorem run_withRetry_attempts (env : Env) (request : Request) (waits : List Nat) (s : Sys) :
    (withRetry env request waits).run s =
      let entries := env.attempts request waits s.world.tick
      let t := s.advance (s.world.tick + (Retry.answersOf entries).length)
        (entries.map (attemptEvent request))
      match Retry.result Response.tooMany (env.responses request) waits s.world.tick with
      | some r => .ok r t
      | none => .error (.tooManyRequests request.url) t := by
  induction waits generalizing s with
  | nil => simp [withRetry, Env.attempts, Retry.log, Retry.result, Retry.answersOf, Sys.advance]
  | cons wait waits ih =>
    by_cases rejected : (env.http s.world.tick request).statusCode = 429
    · have first : (env.responses request s.world.tick).tooMany := rejected
      rw [run_withRetry_rejected rejected, ih]
      simp only [Env.attempts, Retry.log, Retry.result, if_pos first, Sys.advance_advance,
        Retry.answersOf_answer, Retry.answersOf_pause, List.length_cons, List.map_cons]
      simp only [Sys.advance, Nat.add_assoc, Nat.add_comm 1]
      rfl
    · have first : ¬(env.responses request s.world.tick).tooMany := rejected
      rw [run_withRetry_answered rejected]
      simp only [Env.attempts, Retry.log, Retry.result, if_neg first]
      rfl

/-- What a request with retries returns or throws. -/
theorem outcome_withRetry (env : Env) (request : Request) (waits : List Nat) (s : Sys) :
    outcome ((withRetry env request waits).run s) =
      match Retry.result Response.tooMany (env.responses request) waits s.world.tick with
      | some r => .ok r
      | none => .error (.tooManyRequests request.url) := by
  rw [run_withRetry_attempts]
  cases Retry.result Response.tooMany (env.responses request) waits s.world.tick <;> rfl

/-- What a request with retries records. -/
theorem trace_withRetry (env : Env) (request : Request) (waits : List Nat) (s : Sys) :
    (final ((withRetry env request waits).run s)).world.trace =
      s.world.trace ++ (env.attempts request waits s.world.tick).map (attemptEvent request) := by
  rw [run_withRetry_attempts]
  cases Retry.result Response.tooMany (env.responses request) waits s.world.tick <;> rfl

/-- A request by any method, with retries after the given waits. -/
def sendWithRetry (env : Env) (waits : List Nat) (method : Method) (resource : Resource)
    (body : Option Json) (timeout : Int) : Call Response := do
  withRetry env (request method resource body timeout (← this)) waits

/-- `cprGetWithRetry` gets without a body, with the waits of the library. -/
theorem cprGetWithRetry_eq (env : Env) (resource : Resource) (timeout : Int) :
    cprGetWithRetry env resource timeout =
      sendWithRetry env waitBeforeRetry .get resource none timeout := rfl

/-- `cprPutWithRetry` puts, with the waits of the library. -/
theorem cprPutWithRetry_eq (env : Env) (resource : Resource) (timeout : Int)
    (body : Option Json) :
    cprPutWithRetry env resource timeout body =
      sendWithRetry env waitBeforeRetry .put resource body timeout := rfl

/-- `cprDeleteWithRetry` deletes, with the waits of the library. -/
theorem cprDeleteWithRetry_eq (env : Env) (resource : Resource) (timeout : Int)
    (body : Option Json) :
    cprDeleteWithRetry env resource timeout body =
      sendWithRetry env waitBeforeRetry .delete resource body timeout := rfl

/-- What is promised of a request that may be answered a number of times: the first answer other
than 429 is returned and ends the attempts, without one the request is given up, and every wait
is followed by another attempt. -/
structure RetryLaw (responses : ℕ → Response) (attempts : ℕ) (sent : Request)
    (events : List Event) (result : Except Exn Response) : Prop where
  returned : ∀ k < attempts, (responses k).statusCode ≠ 429 →
    (∀ j < k, (responses j).statusCode = 429) → result = .ok (responses k)
  thrown : result = .error (.tooManyRequests sent.url) ↔
    ∀ k < attempts, (responses k).statusCode = 429
  ended : ∀ request response later, .http request response :: later <:+ events →
    response.statusCode ≠ 429 → requests later = []
  retried : ∀ ms later, .wait ms :: later <:+ events → requests later ≠ []
  counted : (waitsOf events).length + 1 = (requests events).length

/-- A call that sends a request with retries from a state does what is promised. -/
def Call.KeepsRetryLaw (call : Call Response) (env : Env) (attempts : ℕ) (sent : Request)
    (s : Sys) : Prop :=
  ∃ events, (final (call.run s)).world.trace = s.world.trace ++ events ∧
    RetryLaw (fun k => env.http (s.world.tick + k) sent) attempts sent events
      (outcome (call.run s))

section Law

variable {env : Env} {request : Request} {waits : List Nat} {s : Sys}

/-- The first answer other than 429 is returned. -/
theorem outcome_withRetry_of_first {k : ℕ} (within : k < waits.length)
    (answered : (env.http (s.world.tick + k) request).statusCode ≠ 429)
    (earlier : ∀ j < k, (env.http (s.world.tick + j) request).statusCode = 429) :
    outcome ((withRetry env request waits).run s) = .ok (env.http (s.world.tick + k) request) := by
  have returned : Retry.result Response.tooMany (env.responses request) waits s.world.tick =
      some (env.responses request (s.world.tick + k)) :=
    Retry.result_eq_some_of_first within answered earlier
  rw [outcome_withRetry, returned]
  rfl

/-- A request is given up exactly when each of its attempts is answered 429. -/
theorem outcome_withRetry_eq_error_iff :
    outcome ((withRetry env request waits).run s) = .error (.tooManyRequests request.url) ↔
      ∀ k < waits.length, (env.http (s.world.tick + k) request).statusCode = 429 := by
  have exhausted :=
    Retry.result_eq_none_iff Response.tooMany (env.responses request) waits s.world.tick
  rw [outcome_withRetry]
  refine Iff.trans ?_ exhausted
  cases Retry.result Response.tooMany (env.responses request) waits s.world.tick <;> simp

/-- No request follows an answer other than 429. -/
theorem requests_eq_nil_of_answered {n : ℕ} {sent : Request} {response : Response}
    {later : List Event}
    (recorded : .http sent response :: later <:+
      (env.attempts request waits n).map (attemptEvent request))
    (answered : response.statusCode ≠ 429) : requests later = [] := by
  have accepted : ¬response.tooMany := answered
  obtain ⟨entries, suffix, mapped⟩ := List.suffix_map_iff.mp recorded
  cases entries with
  | nil => cases mapped
  | cons entry entries =>
    cases entry with
    | answer r =>
      cases mapped
      rw [Retry.eq_nil_of_accepted accepted suffix]
      rfl
    | pause ms => cases mapped

/-- When an attempt gets another answer than 429, every wait is followed by a request. -/
theorem requests_ne_nil_of_wait {n ms : ℕ} {later : List Event}
    (some : (Retry.result Response.tooMany (env.responses request) waits n).isSome)
    (recorded : .wait ms :: later <:+
      (env.attempts request waits n).map (attemptEvent request)) : requests later ≠ [] := by
  obtain ⟨entries, suffix, mapped⟩ := List.suffix_map_iff.mp recorded
  cases entries with
  | nil => cases mapped
  | cons entry entries =>
    cases entry with
    | answer r => cases mapped
    | pause wait =>
      cases mapped
      have answered := Retry.answersOf_ne_nil_of_pause some suffix
      rw [requests_attempts]
      exact fun none => answered (List.map_eq_nil_iff.mp none)

/-- The waits and the requests are as many as the pauses and the answers. -/
theorem length_requests_attempts (env : Env) (request : Request) (waits : List Nat) (n : ℕ) :
    (requests ((env.attempts request waits n).map (attemptEvent request))).length =
      (waitsOf ((env.attempts request waits n).map (attemptEvent request))).length +
        if (Retry.result Response.tooMany (env.responses request) waits n).isSome then 1
        else 0 := by
  rw [requests_attempts, waitsOf_attempts, List.length_map]
  exact Retry.length_answersOf_log Response.tooMany (env.responses request) waits n

/-- When an attempt gets another answer than 429, the promise is kept. -/
theorem keepsRetryLaw_of_answered
    (answered : ∃ k < waits.length, (env.http (s.world.tick + k) request).statusCode ≠ 429) :
    (withRetry env request waits).KeepsRetryLaw env waits.length request s := by
  have some : (Retry.result Response.tooMany (env.responses request) waits s.world.tick).isSome :=
    by
    rw [Option.isSome_iff_ne_none]
    intro none
    obtain ⟨k, within, other⟩ := answered
    have exhausted :=
      (Retry.result_eq_none_iff Response.tooMany (env.responses request) waits s.world.tick).mp
        none
    exact other (exhausted k within)
  refine ⟨_, trace_withRetry env request waits s, ?_, ?_, ?_, ?_, ?_⟩
  · exact fun k within other earlier => outcome_withRetry_of_first within other earlier
  · exact outcome_withRetry_eq_error_iff
  · exact fun sent response later recorded other => requests_eq_nil_of_answered recorded other
  · exact fun ms later recorded => requests_ne_nil_of_wait some recorded
  · rw [length_requests_attempts, if_pos some]

/-- When every attempt is answered 429, there are as many waits as requests. -/
theorem not_keepsRetryLaw_of_rejected
    (rejected : ∀ k < waits.length, (env.http (s.world.tick + k) request).statusCode = 429) :
    ¬(withRetry env request waits).KeepsRetryLaw env waits.length request s := by
  have none :=
    (Retry.result_eq_none_iff Response.tooMany (env.responses request) waits s.world.tick).mpr
      rejected
  rintro ⟨events, trace, law⟩
  have same := List.append_cancel_left
    (trace.symm.trans (trace_withRetry env request waits s))
  have counted := law.counted
  have vain := length_requests_attempts env request waits s.world.tick
  rw [none] at vain
  rw [same, vain] at counted
  simp at counted

end Law

/-- The wrappers of all methods wait only in order to send the request again exactly when one of
the attempts for which there is a wait gets another answer than 429. -/
theorem sendWithRetry_keepsRetryLaw_iff (env : Env) (waits : List Nat) (method : Method)
    (resource : Resource) (body : Option Json) (timeout : Int) (s : Sys) :
    (sendWithRetry env waits method resource body timeout).KeepsRetryLaw env waits.length
        (request method resource body timeout s.iface) s ↔
      ∃ k < waits.length, (env.http (s.world.tick + k)
        (request method resource body timeout s.iface)).statusCode ≠ 429 := by
  constructor
  · intro kept
    by_contra none
    push Not at none
    exact not_keepsRetryLaw_of_rejected none kept
  · exact fun answered => keepsRetryLaw_of_answered answered

/-- A device that answers every request with 429. -/
def throttlingDevice : Env :=
  { obligingDevice with http := fun _ request => ⟨429, request.url, "", "Too Many Requests"⟩ }

/-- Against that device the last wait is in vain. -/
theorem throttlingDevice_waits_in_vain (waits : List Nat) (method : Method) (resource : Resource)
    (body : Option Json) (timeout : Int) (s : Sys) :
    ¬(sendWithRetry throttlingDevice waits method resource body timeout).KeepsRetryLaw
      throttlingDevice waits.length (request method resource body timeout s.iface) s := by
  have rejected (n : ℕ) (sent : Request) : (throttlingDevice.http n sent).statusCode = 429 := rfl
  exact not_keepsRetryLaw_of_rejected fun k _ => rejected (s.world.tick + k) _

/-- The wrappers of a new object wait in vain, whatever the method. -/
theorem cprWithRetry_waits_in_vain :
    let s : Sys := (Session.begin "192.168.0.10" 5000).sys
    ¬(cprGetWithRetry throttlingDevice .system 5000).KeepsRetryLaw throttlingDevice
        waitBeforeRetry.length (request .get .system none 5000 s.iface) s ∧
      ¬(cprPutWithRetry throttlingDevice (.datastream "pose") 5000 none).KeepsRetryLaw
        throttlingDevice waitBeforeRetry.length
        (request .put (.datastream "pose") none 5000 s.iface) s ∧
      ¬(cprDeleteWithRetry throttlingDevice (.datastream "pose") 5000 none).KeepsRetryLaw
        throttlingDevice waitBeforeRetry.length
        (request .delete (.datastream "pose") none 5000 s.iface) s := by
  intro s
  rw [cprGetWithRetry_eq, cprPutWithRetry_eq, cprDeleteWithRetry_eq]
  refine ⟨?_, ?_, ?_⟩
  · exact throttlingDevice_waits_in_vain _ _ _ _ _ s
  · exact throttlingDevice_waits_in_vain _ _ _ _ _ s
  · exact throttlingDevice_waits_in_vain _ _ _ _ _ s

end RcDynamics
