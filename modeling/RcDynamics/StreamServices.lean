import RcDynamics.Footprints
import RcDynamics.StreamTool
import RcDynamics.Words

/-!
# The services that `rcdynamics_stream` calls

The services that a run of the program calls, as words of a language. A run that receives a stream
and is to start the module calls the start with SLAM first, the start without it only after that,
and the stop at its end, whatever happens in between; no other run calls a service that starts or
stops anything.
-/

namespace RcDynamics

open Effect

/-- A service of a node. -/
abbrev Service := String × String

/-- The service that a request calls. -/
def Request.service (request : Request) : Option Service :=
  match request.target with
  | (.put, .service node name) => some (node, name)
  | _ => none

/-- The services called by some events, attempts included. -/
def services (events : List Event) : List Service := (requests events).filterMap Request.service

/-- The services called so far. -/
def Sys.services (s : Sys) : List Service := RcDynamics.services s.world.trace

/-- The services called so far by a process. -/
def Process.services (p : Process) : List Service := p.sys.services

/-- The services of a trace that is continued. -/
theorem Sys.services_append {s t : Sys} {events : List Event}
    (trace : t.world.trace = s.world.trace ++ events) :
    t.services = s.services ++ RcDynamics.services events := by
  unfold Sys.services RcDynamics.services
  rw [trace, requests_append, List.filterMap_append]

/-- No service is called. -/
abbrev Unserved : Sys → Sys → Prop := Writes Sys.services 1

/-- Targets that are no services. -/
def Plain (targets : List Target) : Prop :=
  ∀ request : Request, request.target ∈ targets → request.service = none

/-- Nothing is no service. -/
theorem plain_nil : Plain [] := fun _ member => absurd member List.not_mem_nil

/-- Targets of which none is a service. -/
theorem plain_cons {target : Target} {targets : List Target}
    (first : ∀ request : Request, request.target = target → request.service = none)
    (rest : Plain targets) : Plain (target :: targets) := by
  intro request member
  rcases List.mem_cons.mp member with same | later
  · exact first request same
  · exact rest request later

/-- Reading a resource is no service. -/
theorem get_plain {resource : Resource} {targets : List Target} (rest : Plain targets) :
    Plain ((.get, resource) :: targets) :=
  plain_cons (fun request same => by rw [Request.service, same]) rest

/-- Nor is adding a destination to a stream. -/
theorem put_plain {stream : String} {targets : List Target} (rest : Plain targets) :
    Plain ((.put, .datastream stream) :: targets) :=
  plain_cons (fun request same => by rw [Request.service, same]) rest

/-- Nor is removing one. -/
theorem delete_plain {stream : String} {targets : List Target} (rest : Plain targets) :
    Plain ((.delete, .datastream stream) :: targets) :=
  plain_cons (fun request same => by rw [Request.service, same]) rest

/-- No service is called by requests with other targets. -/
theorem Sends.unserved {targets : List Target} {s t : Sys} (sends : Sends targets s t)
    (plain : Plain targets) : Unserved s t := by
  obtain ⟨events, trace, named⟩ := sends
  apply Writes.of_eq
  have none : services events = [] :=
    List.filterMap_eq_nil_iff.mpr fun request member => plain request (named request member)
  rw [Sys.services_append trace, none, List.append_nil]

/-- Requests of an operation's own that are no services. -/
theorem AsksFor.unserved {lazy : Bool} {own : List Target} {s t : Sys}
    (asks : AsksFor lazy own s t) (plain : Plain own) : Unserved s t := by
  apply asks.sends.unserved
  intro request member
  rcases List.mem_append.mp member with mine | learned
  · exact plain request mine
  · unfold toLearn at learned
    split_ifs at learned
    · exact get_plain (get_plain plain_nil) request learned
    · exact absurd learned List.not_mem_nil

/-- The attempts of one service of the dynamics module: one to five. -/
def attempts (name : String) : Language Service :=
  {word | ∃ k, 1 ≤ k ∧ k ≤ 5 ∧ word = List.replicate k ("rc_dynamics", name)}

section Calls

variable (env : Env)

/-- A request is tried one to five times, always the same. -/
theorem withRetry_attempts (request : Request) (s : Sys) :
    Within (fun s t => ∃ events k, t.world.trace = s.world.trace ++ events ∧ 1 ≤ k ∧ k ≤ 5 ∧
      requests events = List.replicate k request) (withRetry env request waitBeforeRetry) s := by
  obtain ⟨events, t, told, _, ends⟩ := run_request env request s
  have logged : (final ((withRetry env request waitBeforeRetry).run s)).world.trace =
      s.world.trace ++ exchange env request s.world.tick := by
    rw [run_withRetry_attempts]
    dsimp only
    split <;> rfl
  have recorded : (final ((withRetry env request waitBeforeRetry).run s)).world.trace =
      s.world.trace ++ events := by
    rw [ends]
    split <;> exact told.trace
  have same : exchange env request s.world.tick = events :=
    List.append_cancel_left (logged.symm.trans recorded)
  have few := (exchange_bounded env request s.world.tick).1
  rw [same] at few
  have all : requests events = List.replicate (requests events).length request :=
    List.eq_replicate_iff.mpr ⟨rfl, told.single⟩
  have some : 1 ≤ (requests events).length := List.length_pos_of_mem told.attempted
  exact ⟨events, _, recorded, some, few, all⟩

/-- A service of the dynamics module is called one to five times. -/
theorem cprPutWithRetry_writes (name : String) (timeout : Int) (body : Option Json) (s : Sys) :
    Within (Writes Sys.services (attempts name))
      (cprPutWithRetry env (.service "rc_dynamics" name) timeout body) s := by
  have tried := withRetry_attempts env
    (request .put (.service "rc_dynamics" name) body timeout s.iface) s
  obtain ⟨events, k, trace, some, few, all⟩ := tried
  refine ⟨services events, ⟨k, some, few, ?_⟩, Sys.services_append trace⟩
  rw [services, all]
  exact List.filterMap_replicate_of_some rfl

/-- What follows the answer of a service calls none. -/
theorem service_writes {α : Type} (name : String) (timeout : Int) (body : Option Json)
    (decode : Json → Except Exn α) (s : Sys) :
    Within (Writes Sys.services (attempts name)) (do
      let r ← cprPutWithRetry env (.service "rc_dynamics" name) timeout body
      handleCPRResponse r
      let j ← parseJson env r.text
      lift (decode j)) s := by
  have called := cprPutWithRetry_writes env name timeout body s
  unfold Within at called ⊢
  rw [EStateM.run_bind]
  cases ran : (cprPutWithRetry env (.service "rc_dynamics" name) timeout body).run s with
  | error e t =>
    rw [ran] at called
    exact called
  | ok r t =>
    rw [ran] at called
    have rest : Within Unserved (do
        handleCPRResponse r
        let j ← parseJson env r.text
        lift (decode j)) t := by
      apply (handleCPRResponse_within r t).bind
      intro _ t _
      apply (parseJson_within env _ t).bind
      intro j t _
      exact lift_within _ t
    have both := called.mul rest
    rwa [mul_one] at both

/-- A service of the dynamics module that enters a state. -/
theorem callDynamicsService_writes (name : String) (s : Sys) :
    Within (Writes Sys.services (attempts name))
      (RemoteInterface.callDynamicsService env name) s :=
  service_writes env name _ none _ s

/-- The service that measures the transformation of the camera. -/
theorem getCam2ImuTransform_writes (timeoutMs : BitVec 32) (s : Sys) :
    Within (Writes Sys.services (attempts "get_cam2imu_transform"))
      (RemoteInterface.getCam2ImuTransform env timeoutMs) s :=
  service_writes env _ _ none _ s

end Calls

namespace RcdynamicsStream

open Program RemoteInterface

section Parts

variable (host : Host) (o : Options)

/-- A call that asks for other things than services. -/
theorem library_unserved {α : Type} {lazy : Bool} {own : List Target} {call : Call α} {p : Process}
    (plain : Plain own) (asks : Within (AsksFor lazy own) call p.sys) :
    Within (OnSys Unserved) (library call) p :=
  library_within (asks.mono fun _ asks => asks.unserved plain)

/-- Connecting calls no service. -/
theorem connect_unserved (passes : Nat) (p : Process) :
    Within (OnSys Unserved) (connect host passes) p := by
  apply connect_within
  intro s
  exact (checkSystemReady_sends s).mono fun _ sends =>
    Sends.unserved sends (get_plain (get_plain plain_nil))

/-- Nor does receiving a stream. -/
theorem stream_unserved (passes : Nat) (p : Process) :
    Within (OnSys Unserved) (stream host o passes) p := by
  have unserved {α : Type} (lazy : Bool) {own : List Target} {call : Call α} {s : Sys}
      (plain : Plain own) (asks : Within (AsksFor lazy own) call s) : Within Unserved call s :=
    asks.mono fun _ asks => asks.unserved plain
  apply stream_within
  · intro s
    apply unserved true (put_plain (get_plain (delete_plain plain_nil)))
    apply createReceiverForStream_asksFor
    · exact List.mem_cons_self
    · exact List.mem_cons_of_mem _ List.mem_cons_self
    · exact List.mem_cons_of_mem _ (List.mem_cons_of_mem _ List.mem_cons_self)
  · intro receiver ms s
    have still := receiver.setTimeout_still host.env ms s
    exact unserved true plain_nil (still.mono fun _ still => still.asksFor)
  · exact fun s => unserved true plain_nil (getPbMsgTypeOfStream_asksFor o.streamName s)
  · intro receiver pbMsgType s
    exact unserved true plain_nil (receiver.receive_asksFor pbMsgType s)
  · intro receiver s
    exact unserved true (delete_plain plain_nil)
      (destroyReceiver_asksFor receiver s List.mem_cons_self)

/-- A part in which no service is called. -/
theorem spells_of_unserved {α : Type} {m : Program α}
    (unserved : ∀ p, Within (OnSys Unserved) m p) : Spells Process.services (fun _ => 1) m :=
  Spells.of_within unserved

/-- A call that calls services. -/
theorem spells_library {α : Type} {language : Language Service} {call : Call α}
    (writes : ∀ s, Within (Writes Sys.services language) call s) :
    Spells Process.services (fun _ => language) (library call) :=
  Spells.of_within fun p => library_onSys (writes p.sys)

/-- Printing before something calls nothing more. -/
theorem spells_print {α : Type} {language : α → Language Service} {line : String}
    {rest : Program α} (spells : Spells Process.services language rest) :
    Spells Process.services language (do
      print line
      rest) := by
  apply (spells_of_unserved fun p => print_within line p).bind fun _ => spells
  intro _ a
  rw [one_mul]

/-- A handler of exceptions calls services after those of its body. -/
theorem spells_catching {α : Type} (returned : α → Language Service) (thrown : Language Service)
    (handled : α → Language Service) {both : α → Language Service} {body : Program α}
    {handle : Exn → Program α} (spells : Spells Process.services returned body)
    (stopped : ∀ p, Within (Writes Process.services thrown) body p)
    (after : ∀ e, Spells Process.services handled (handle e))
    (included : ∀ a, returned a + thrown * handled a ≤ both a) :
    Spells Process.services both (catching body handle) := by
  apply Spells.tryCatch spells stopped ?_ included
  intro halt
  split
  · split_ifs
    · exact after _
    · exact Spells.throw _
  · exact Spells.throw _

/-- A call whose value is not looked at, and a value. -/
theorem writes_call {α β : Type} {language : Language Service} {call : Call α} (b : β)
    (writes : ∀ s, Within (Writes Sys.services language) call s) (p : Process) :
    Within (Writes Process.services language) (do
      let _ ← library call
      return b : Program β) p := by
  have called : Within (OnSys (Writes Sys.services language)) (library call) p :=
    library_onSys (writes p.sys)
  unfold Within at called ⊢
  rw [EStateM.run_bind]
  cases ran : (library call).run p <;> rwa [ran] at called

/-- Printing before something writes nothing more. -/
theorem writes_print {α : Type} {language : Language Service} {line : String} {rest : Program α}
    (writes : ∀ p, Within (Writes Process.services language) rest p) (p : Process) :
    Within (Writes Process.services language) (do
      print line
      rest) p :=
  writes { p with console := p.console ++ [line] }

/-- What a call that decides on a value calls before it returns with that value. -/
def onlyFor (value : Bool) (language : Language Service) (returned : Bool) : Language Service :=
  if returned = value then language else 0

/-- A call whose value is not looked at, and a truth value. -/
theorem spells_call {α : Type} {language : Language Service} {call : Call α} (value : Bool)
    (writes : ∀ s, Within (Writes Sys.services language) call s) :
    Spells Process.services (onlyFor value language) (do
      let _ ← library call
      return value : Program Bool) := by
  intro p returned q ran
  have within := (writes_call value writes p).of_ok ran
  obtain ⟨_, r, _, ended⟩ := run_bind_eq_ok.mp ran
  cases ended
  rwa [onlyFor, if_pos rfl]

/-- Starting the module calls the start with SLAM, and the other one when that throws. -/
theorem autostart_spells :
    Spells Process.services (fun started =>
      if started then attempts "start_slam" * (1 + attempts "start")
      else attempts "start_slam" * attempts "start") (autostart host) := by
  have slam (s : Sys) : Within (Writes Sys.services (attempts "start_slam"))
      (RemoteInterface.startSlam host.env) s := callDynamicsService_writes host.env "start_slam" s
  have start (s : Sys) : Within (Writes Sys.services (attempts "start"))
      (RemoteInterface.start host.env) s := callDynamicsService_writes host.env "start" s
  have failed (e : Exn) : Spells Process.services (onlyFor false 1) (do
      print ("ERROR! Could not start rc_dynamics module on rc_visard: " ++ e.what)
      return false) :=
    spells_print (Spells.pure (le_of_eq (if_pos rfl).symm))
  have second (e : Exn) : Spells Process.services (fun _ => attempts "start")
      (catching
        (do
          print "SLAM not available!"
          print "starting stereo INS on rc_visard..."
          let _ ← library (RemoteInterface.start host.env)
          return true)
        fun e => do
          print ("ERROR! Could not start rc_dynamics module on rc_visard: " ++ e.what)
          return false) := by
    apply spells_catching (onlyFor true (attempts "start")) (attempts "start") (onlyFor false 1)
    · exact spells_print (spells_print (spells_call true start))
    · exact writes_print (writes_print (writes_call true start))
    · exact failed
    · intro started
      cases started <;> simp [onlyFor]
  apply spells_catching (onlyFor true (attempts "start_slam")) (attempts "start_slam")
    (fun _ => attempts "start")
  · exact spells_print (spells_call true slam)
  · exact writes_print (writes_call true slam)
  · exact second
  · intro started
    cases started with
    | true =>
      rw [onlyFor, if_pos rfl, if_pos rfl, mul_add, mul_one]
    | false => simp [onlyFor]

/-- Stopping the module calls the stop. -/
theorem stopModule_spells :
    Spells Process.services (fun _ => attempts "stop") (stopModule host) := by
  have stop (s : Sys) : Within (Writes Sys.services (attempts "stop"))
      (RemoteInterface.stop host.env) s := callDynamicsService_writes host.env "stop" s
  apply spells_catching (fun _ => attempts "stop") (attempts "stop") (fun _ => 1)
  · exact Spells.of_within (writes_print (writes_call () stop))
  · exact writes_print (writes_call () stop)
  · exact fun e => spells_of_unserved fun p => print_within _ p
  · intro _
    rw [mul_one]
    exact le_of_eq (add_idem _)

/-- Listing the transformation calls the service that measures it. -/
theorem listTransform_spells :
    Spells Process.services (fun _ => attempts "get_cam2imu_transform") (listTransform host) := by
  have measure (s : Sys) : Within (Writes Sys.services (attempts "get_cam2imu_transform"))
      (getCam2ImuTransform host.env 0) s := getCam2ImuTransform_writes host.env 0 s
  have printed (line : String) : Spells Process.services (fun _ => 1) (print line) :=
    spells_of_unserved fun p => print_within line p
  unfold listTransform
  split
  · exact Spells.throw _
  apply spells_catching (fun _ => attempts "get_cam2imu_transform")
    (attempts "get_cam2imu_transform") (fun _ => 1)
  · apply (spells_library measure).bind fun _ => printed _
    exact fun _ _ => le_of_eq (mul_one _)
  · intro p
    have measured : Within (OnSys (Writes Sys.services (attempts "get_cam2imu_transform")))
        (library (getCam2ImuTransform host.env 0)) p := library_onSys (measure p.sys)
    unfold Within at measured ⊢
    rw [EStateM.run_bind]
    cases ran : (library (getCam2ImuTransform host.env 0)).run p <;> rwa [ran] at measured
  · intro e
    split
    · exact printed _
    · exact printed _
  · intro _
    rw [mul_one]
    exact le_of_eq (add_idem _)

/-- The list of streams ends with the transformation. -/
theorem listStreams_spells :
    Spells Process.services (fun _ => attempts "get_cam2imu_transform") (listStreams host) := by
  have state (node : String) : Spells Process.services (fun _ => 1)
      (library (getState host.env node)) := by
    have asks (s : Sys) : Within (AsksFor false [(.get, .status node)])
        (getState host.env node) s := getState_asksFor s List.mem_cons_self
    exact spells_of_unserved fun p => library_unserved (get_plain plain_nil) (asks p.sys)
  have quiet {α β : Type} {m : Program α} {rest : α → Program β} {language : Language Service}
      (first : Spells Process.services (fun _ => 1) m)
      (second : ∀ a, Spells Process.services (fun _ => language) (rest a)) :
      Spells Process.services (fun _ => language) (m >>= rest) :=
    first.bind second fun _ _ => le_of_eq (one_mul _)
  have printed (line : String) : Spells Process.services (fun _ => 1) (print line) :=
    spells_of_unserved fun p => print_within line p
  unfold listStreams
  apply quiet
  · exact spells_of_unserved fun p => library_unserved plain_nil (getAvailableStreams_asksFor p.sys)
  intro streams
  apply quiet (printed _)
  intro _
  apply quiet
  · apply spells_of_unserved
    intro p
    apply Within.forM
    intro s _ p
    apply (library_unserved plain_nil (getPbMsgTypeOfStream_asksFor s p.sys)).bind
    intro pbMsgType p _
    exact print_within _ p
  intro _
  apply quiet (state _)
  intro dynamicsState
  apply quiet (printed _)
  intro _
  apply quiet (state _)
  intro slamState
  apply quiet (printed _)
  intro _
  apply quiet (state _)
  intro stereoInsState
  apply quiet (printed _)
  intro _
  apply (listTransform_spells host).bind fun _ => printed ""
  exact fun _ _ => le_of_eq (mul_one _)

/-- What a run calls before it receives. -/
def Options.opening (o : Options) : Language Service :=
  if o.starts then attempts "start_slam" * (1 + attempts "start") else 1

/-- What a run calls when the module cannot be started. -/
def Options.failing (o : Options) : Language Service :=
  if o.starts then attempts "start_slam" * attempts "start" else 0

/-- What a run calls after it has received. -/
def Options.closing (o : Options) : Language Service :=
  if o.starts then attempts "stop" else 1

/-- What a run that was to receive has called. -/
def Options.received (o : Options) (status : Int) : Language Service :=
  if status = exitSuccess then o.opening * o.closing else o.failing

/-- What a run that exits has called. -/
def Options.language (o : Options) (status : Int) : Language Service :=
  if o.onlyListStreams then
    if status = exitSuccess then attempts "get_cam2imu_transform" else 1
  else if status = exitSuccess then o.opening * o.closing
  else 1 + o.failing

/-- Starting the module when that is asked for. -/
theorem startAsked_spells :
    Spells Process.services (fun started => if started then o.opening else o.failing)
      (startAsked host o) := by
  unfold startAsked Options.opening Options.failing
  split_ifs
  · exact autostart_spells host
  · exact Spells.pure (le_of_eq (if_pos rfl).symm)

/-- Stopping it when it was to be started. -/
theorem stopStarted_spells :
    Spells Process.services (fun _ => o.closing) (stopStarted host o) := by
  unfold stopStarted Options.closing
  split_ifs
  · exact stopModule_spells host
  · exact Spells.pure (le_refl 1)

/-- What is called before a status that is always the same. -/
def whenStatus (value : Int) (language : Language Service) (status : Int) : Language Service :=
  if status = value then language else 0

/-- What is called before a call for one status is called for that status too. -/
theorem mul_whenStatus (first second : Language Service) (value status : Int) :
    first * whenStatus value second status = whenStatus value (first * second) status := by
  unfold whenStatus
  rw [mul_ite, mul_zero]

/-- A language for one status is within one for all when it is there. -/
theorem whenStatus_le {language : Language Service} {all : Int → Language Service}
    {value : Int} (here : language ≤ all value) (status : Int) :
    whenStatus value language status ≤ all status := by
  unfold whenStatus
  split_ifs with same
  · rw [same]
    exact here
  · exact zero_le

/-- Returning a status. -/
theorem spells_status (value : Int) :
    Spells Process.services (whenStatus value 1) (pure value : Program Int) :=
  Spells.pure (le_of_eq (if_pos rfl).symm)

/-- Receiving a stream. -/
theorem receive_spells (passes : Nat) :
    Spells Process.services o.received (receive host o passes) := by
  have streamed := spells_of_unserved (stream_unserved host o passes)
  have after := (spells_of_unserved (report_within o)).seq fun _ => spells_status exitSuccess
  have received := streamed.seq fun _ => (stopStarted_spells host o).seq fun _ => after
  have late (started : Bool) : Spells Process.services
      (if started then whenStatus exitSuccess o.closing else whenStatus exitFailure 1)
      (if started then do
          stream host o passes
          stopStarted host o
          report o
          return exitSuccess
        else return exitFailure) := by
    cases started with
    | false => exact spells_status exitFailure
    | true =>
      apply received.mono
      intro status
      rw [one_mul, one_mul, mul_whenStatus, mul_one]
      exact le_refl _
  apply (startAsked_spells host o).bind late
  intro started status
  cases started with
  | true =>
    rw [if_pos rfl, if_pos rfl, mul_whenStatus]
    have here : o.opening * o.closing ≤ o.received exitSuccess := le_of_eq (if_pos rfl).symm
    exact whenStatus_le here status
  | false =>
    have other : exitFailure ≠ exitSuccess := by decide
    rw [if_neg Bool.false_ne_true, if_neg Bool.false_ne_true, mul_whenStatus, mul_one]
    have here : o.failing ≤ o.received exitFailure := le_of_eq (if_neg other).symm
    exact whenStatus_le here status

/-- What the rest of `main` calls. -/
theorem run_spells (passes : Nat) :
    Spells Process.services o.language (run host o passes) := by
  have other : exitFailure ≠ exitSuccess := by decide
  have connected := spells_of_unserved (connect_unserved host passes)
  have late (connected : Bool) : Spells Process.services o.language
      (if connected then
        if o.onlyListStreams then do
          listStreams host
          return exitSuccess
        else receive host o passes
      else return exitFailure) := by
    cases connected with
    | false =>
      apply (spells_status exitFailure).mono
      apply whenStatus_le
      rw [Options.language, if_neg other, if_neg other]
      split_ifs
      · exact le_refl 1
      · exact le_self_add
    | true =>
      rw [if_pos rfl]
      split_ifs with lists
      · have listed := (listStreams_spells host).seq fun _ => spells_status exitSuccess
        apply listed.mono
        intro status
        rw [mul_whenStatus, mul_one]
        apply whenStatus_le
        rw [Options.language, if_pos lists, if_pos rfl]
      · apply (receive_spells host o passes).mono
        intro status
        rw [Options.language, if_neg lists, Options.received]
        split_ifs
        · exact le_refl _
        · exact le_add_self
  apply (connected.seq late).mono
  intro status
  rw [one_mul]

end Parts

/-- **Stopped after it was started.** A run of the program that exits has called services of the
device only as its options say. If it was to receive a stream and to start the module, it has called
the start with SLAM, after that the start without it or not, and in the end the stop, when it
exits with success; both starts and no stop, or nothing, when it exits with failure. -/
theorem start_services (host : Host) (o : Options) (passes : Nat) :
    (start host o passes).Exits fun status process => process.services ∈ o.language status := by
  unfold start
  split
  · exact trivial
  split
  · exact trivial
  apply Program.finish_exits
  intro status p report q ran destroyed
  have swept : Within Unserved (destroy host.env .aliased) p.sys := by
    have keys : Plain (p.sys.iface.reqStreams.keys.map fun stream =>
        (Method.delete, Resource.datastream stream)) := by
      intro request member
      obtain ⟨stream, _, same⟩ := List.mem_map.mp member
      rw [Request.service, ← same]
    have asks : Within (AsksFor true (p.sys.iface.reqStreams.keys.map fun stream =>
        (Method.delete, Resource.datastream stream))) (destroy host.env .aliased) p.sys :=
      destroy_asksFor .aliased p.sys fun stream member => List.mem_map_of_mem member
    exact asks.mono fun _ asks => asks.unserved keys
  have called := run_spells host o passes _ status p ran
  have quiet : Unserved p.sys q.sys := swept.of_ok (library_ok destroyed).1
  have both := called.mul quiet
  rw [mul_one] at both
  obtain ⟨word, member, added⟩ := both
  have none : Process.services (Process.begin (initial o.visardIp requestsTimeout)
      ["connecting to rc_visard " ++ o.visardIp ++ "..."]) = [] := rfl
  rw [none, List.nil_append] at added
  change q.services ∈ o.language status
  rw [added]
  exact member

/-- A device that starts its module is asked to stop it, and one that gives no answer to the starts
is not. -/
theorem start_services_pose :
    (∃ p, start obligingHost poseOptions 4 = .exited exitSuccess p ∧
      p.services = [("rc_dynamics", "start_slam"), ("rc_dynamics", "stop")] ∧
      p.services ∈ poseOptions.language exitSuccess) ∧
    ∃ p, start { obligingHost with env := obligingDevice } poseOptions 4 =
        .exited exitFailure p ∧
      p.services = [("rc_dynamics", "start_slam"), ("rc_dynamics", "start")] ∧
      p.services ∈ poseOptions.language exitFailure := by
  have exits (host : Host) (value : Int) (word : List Service)
      (seen : (start host poseOptions 4).exit.any (fun (status, p) =>
        decide (status = value ∧ p.services = word)) = true) :
      ∃ p, start host poseOptions 4 = .exited value p ∧ p.services = word ∧
        p.services ∈ poseOptions.language value := by
    obtain ⟨status, p, ended, found⟩ := Ending.exited_of_any seen
    obtain ⟨rfl, called⟩ := of_decide_eq_true found
    have spelled := start_services host poseOptions 4
    rw [ended] at spelled
    exact ⟨p, ended, called, spelled⟩
  exact ⟨exits _ _ _ (by decide +kernel), exits _ _ _ (by decide +kernel)⟩

end RcdynamicsStream

end RcDynamics
