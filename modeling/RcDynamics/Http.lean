import RcDynamics.System

/-!
# Requests with retries

A request is sent again after a pause while the device answers 429, as often as there are
pauses; then the last answer is returned or the request is given up. One description of a
request with retries, `run_withRetry`, is all that the operations need: the object is untouched,
every attempt but the last was rejected, and the answer returned is the one that `answer` names.
-/

namespace RcDynamics

/-- The state after further questions and events. -/
def Sys.advance (s : Sys) (tick : Nat) (events : List Event) : Sys :=
  { s with world := { s.world with tick := tick, trace := s.world.trace ++ events } }

/-- Events are appended to the trace. -/
@[simp] theorem Sys.advance_trace (s : Sys) (tick : Nat) (events : List Event) :
    (s.advance tick events).world.trace = s.world.trace ++ events := rfl

/-- Advancing twice records both parts. -/
theorem Sys.advance_advance (s : Sys) (tick later : Nat) (events more : List Event) :
    (s.advance tick events).advance later more = s.advance later (events ++ more) := by
  simp [Sys.advance]

/-- `toString(cpr::Response)`. -/
def Response.toString (r : Response) : String :=
  "status code: " ++ ToString.toString r.statusCode ++ "\nurl: " ++ r.url ++ "\ntext: " ++ r.text ++
    "\nerror: " ++ r.error

/-- The exception for an answer that is not a success, if it is one. -/
def Response.failure (r : Response) : Option Exn :=
  if r.statusCode = 200 then none
  else if r.statusCode = 429 then some (.tooManyRequests r.url)
  else if r.statusCode = 404 then some (.notAvailable r.url)
  else some (.runtimeError r.toString)

/-- `handleCPRResponse`. -/
def handleCPRResponse (r : Response) : Call Unit :=
  match r.failure with
  | none => pure ()
  | some e => throw e

/-- Exactly the status 200 passes. -/
theorem Response.failure_eq_none (r : Response) : r.failure = none ↔ r.statusCode = 200 := by
  unfold Response.failure
  split_ifs <;> simp_all

/-- A success passes. -/
theorem run_handleCPRResponse_ok {r : Response} (ok : r.statusCode = 200) (s : Sys) :
    (handleCPRResponse r).run s = .ok () s := by
  rw [handleCPRResponse, r.failure_eq_none.mpr ok]
  rfl

/-- Everything else throws and changes nothing. -/
theorem run_handleCPRResponse_error {r : Response} (failed : r.statusCode ≠ 200) (s : Sys) :
    ∃ e, e.isException = true ∧ (handleCPRResponse r).run s = .error e s := by
  unfold handleCPRResponse Response.failure
  rw [if_neg failed]
  split_ifs <;> exact ⟨_, rfl, rfl⟩

/-- `wait_before_retry`, in milliseconds. -/
def waitBeforeRetry : List Nat := [50, 200, 500, 1000, 2000]

/-- Send one request. -/
def send (env : Env) (request : Request) : Call Response := do
  let n ← tick
  let response := env.http n request
  emit (.http request response)
  return response

/-- One request asks one question and is recorded with its answer. -/
@[simp] theorem run_send (env : Env) (request : Request) (s : Sys) :
    (send env request).run s = .ok (env.http s.world.tick request)
      (s.advance (s.world.tick + 1) [.http request (env.http s.world.tick request)]) := rfl

/-- The loop over the pauses: each rejected attempt is followed by its pause. -/
def withRetry (env : Env) (request : Request) : List Nat → Call Response
  | [] => throw (.tooManyRequests request.url)
  | wait :: waits => do
    let response ← send env request
    if response.statusCode = 429 then
      emit (.wait wait)
      withRetry env request waits
    else return response

/-- A request to a resource of the device, with the timeout in milliseconds. -/
def request (method : Method) (resource : Resource) (body : Option Json) (timeout : Int)
    (iface : RemoteInterface) : Request where
  method := method
  resource := resource
  url := iface.baseUrl ++ resource.path
  body := body
  timeout := timeout

/-- `cprGetWithRetry`. -/
def cprGetWithRetry (env : Env) (resource : Resource) (timeout : Int) : Call Response := do
  withRetry env (request .get resource none timeout (← this)) waitBeforeRetry

/-- `cprPutWithRetry`. -/
def cprPutWithRetry (env : Env) (resource : Resource) (timeout : Int) (body : Option Json) :
    Call Response := do
  withRetry env (request .put resource body timeout (← this)) waitBeforeRetry

/-- `cprDeleteWithRetry`. -/
def cprDeleteWithRetry (env : Env) (resource : Resource) (timeout : Int) (body : Option Json) :
    Call Response := do
  withRetry env (request .delete resource body timeout (← this)) waitBeforeRetry

/-- `json::parse` of an answer. -/
def parseJson (env : Env) (text : String) : Call Json :=
  match env.parse text with
  | some j => pure j
  | none => throw Json.parseError

/-- An event of a rejected attempt of a request: the answer 429, or the pause after it. -/
def Rejection (request : Request) : Event → Prop
  | .http sent response => sent = request ∧ response.statusCode = 429
  | .wait _ => True
  | .receive _ => False

/-- The answer that ends a request with retries, if one does, and the number of the next
question. -/
def answer (env : Env) (request : Request) : List Nat → Nat → Option Response × Nat
  | [], n => (none, n)
  | _ :: waits, n =>
    if (env.http n request).statusCode = 429 then answer env request waits (n + 1)
    else (some (env.http n request), n + 1)

/-- A request is answered by a success. -/
def isSuccess : Option Response → Bool
  | some r => decide (r.statusCode = 200)
  | none => false

/-- Asking does not go back in time. -/
theorem answer_le (env : Env) (request : Request) (waits : List Nat) (n : Nat) :
    n ≤ (answer env request waits n).2 := by
  induction waits generalizing n with
  | nil => exact Nat.le_refl n
  | cons wait waits ih =>
    rw [answer]
    split_ifs
    · exact Nat.le_trans (Nat.le_succ n) (ih (n + 1))
    · exact Nat.le_succ n

/-- A rejected attempt is followed by its pause and the attempts after it. -/
theorem run_withRetry_rejected {env : Env} {request : Request} {s : Sys}
    (rejected : (env.http s.world.tick request).statusCode = 429) (wait : Nat) (waits : List Nat) :
    (withRetry env request (wait :: waits)).run s =
      (withRetry env request waits).run (s.advance (s.world.tick + 1)
        [.http request (env.http s.world.tick request), .wait wait]) := by
  simp [withRetry, rejected, Sys.advance]

/-- An attempt that is not rejected is the last one. -/
theorem run_withRetry_answered {env : Env} {request : Request} {s : Sys}
    (answered : (env.http s.world.tick request).statusCode ≠ 429) (wait : Nat)
    (waits : List Nat) :
    (withRetry env request (wait :: waits)).run s = .ok (env.http s.world.tick request)
      (s.advance (s.world.tick + 1) [.http request (env.http s.world.tick request)]) := by
  simp [withRetry, answered]

/-- How a request with retries ends: after rejected attempts the answer is returned, or the
request is given up. -/
theorem run_withRetry (env : Env) (request : Request) (waits : List Nat) (s : Sys) :
    ∃ rejected, (∀ e ∈ rejected, Rejection request e) ∧
      ((answer env request waits s.world.tick).1 = none → waits ≠ [] →
        ∃ r, .http request r ∈ rejected) ∧
      (withRetry env request waits).run s =
        match answer env request waits s.world.tick with
        | (some r, n) => .ok r (s.advance n (rejected ++ [.http request r]))
        | (none, n) => .error (.tooManyRequests request.url) (s.advance n rejected) := by
  induction waits generalizing s with
  | nil => exact ⟨[], by simp, by simp, by simp [withRetry, answer, Sys.advance]⟩
  | cons wait waits ih =>
    by_cases rejected : (env.http s.world.tick request).statusCode = 429
    · let attempt := [.http request (env.http s.world.tick request), Event.wait wait]
      obtain ⟨more, moreRejected, _, ends⟩ := ih (s.advance (s.world.tick + 1) attempt)
      refine ⟨attempt ++ more, fun e member => ?_, fun _ _ => ⟨_, List.mem_cons_self⟩, ?_⟩
      · rcases List.mem_append.mp member with first | later
        · simp only [attempt, List.mem_cons, List.not_mem_nil, or_false] at first
          rcases first with rfl | rfl
          · exact ⟨rfl, rejected⟩
          · trivial
        · exact moreRejected e later
      · rw [run_withRetry_rejected rejected, ends, answer, if_pos rejected]
        simp only [Sys.advance_advance, List.append_assoc]
        rfl
    · refine ⟨[], by simp, by simp [answer, rejected], ?_⟩
      rw [run_withRetry_answered rejected, answer, if_neg rejected]
      rfl

end RcDynamics
