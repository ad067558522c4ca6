import RcDynamics.Frames
import RcDynamics.Scripts

/-!
# Footprints

Which resources an operation touches. Each operation has requests of its own, and those that read
the streams also the two requests that initialise an object, as long as it is not initialised.
Nothing else is ever requested, whatever the device answers and wherever an exception cuts the
operation short.
-/

namespace RcDynamics

open Effect

/-- A method with the resource it is applied to. -/
abbrev Target := Method × Resource

/-- What a request is about. -/
def Request.target (request : Request) : Target := (request.method, request.resource)

/-- The requests that initialise an object. -/
def learning : List Target := [(.get, .system), (.get, .datastreams)]

/-- The requests from one state to the next have certain targets. -/
abbrev Sends (targets : List Target) : Sys → Sys → Prop :=
  Asks fun request => request.target ∈ targets

/-- More targets are allowed. -/
theorem Sends.widen {targets more : List Target} {s t : Sys} (sends : Sends targets s t)
    (wider : targets ⊆ more) : Sends more s t := by
  obtain ⟨events, trace, named⟩ := sends
  exact ⟨events, trace, fun request member => wider (named request member)⟩

section Parts

variable {env : Env} {targets : List Target}

/-- All attempts of a request have its target. -/
theorem withRetry_sends {request : Request} (among : request.target ∈ targets) (s : Sys) :
    Within (Sends targets) (withRetry env request waitBeforeRetry) s :=
  withRetry_allowed (Asks.allows _).converses env among waitBeforeRetry s

/-- A request leaves the object. -/
theorem withRetry_iface (env : Env) (request : Request) (s : Sys) :
    Within (fun s t => t.iface = s.iface) (withRetry env request waitBeforeRetry) s := by
  obtain ⟨events, t, exchange, _, ends⟩ := run_request env request s
  apply Within.of_run ends
  cases (answer env request waitBeforeRetry s.world.tick).1 <;> exact exchange.iface

end Parts

/-- The requests that initialise an object, as long as it needs them. -/
def toLearn (lazy : Bool) (iface : RemoteInterface) : List Target :=
  if lazy && !iface.initialized then learning else []

/-- The requests have certain targets, or are those that initialise an object that is not; one that
is stays so. -/
structure AsksFor (lazy : Bool) (own : List Target) (s t : Sys) : Prop where
  kept : s.iface.initialized = true → t.iface.initialized = true
  sends : Sends (own ++ toLearn lazy s.iface) s t

/-- What still has to be learned shrinks. -/
theorem toLearn_subset (lazy : Bool) {s t : Sys}
    (kept : s.iface.initialized = true → t.iface.initialized = true) :
    toLearn lazy t.iface ⊆ toLearn lazy s.iface := by
  unfold toLearn
  cases known : s.iface.initialized with
  | true => simp [kept known]
  | false =>
    cases lazy with
    | true =>
      split
      · exact fun _ member => member
      · exact fun _ member => absurd member List.not_mem_nil
    | false => exact fun _ member => member

/-- Nothing is asked from a state to itself. -/
instance AsksFor.refl {lazy : Bool} {own : List Target} : Std.Refl (AsksFor lazy own) :=
  ⟨fun s => ⟨id, refl_of _ s⟩⟩

/-- What two parts ask for is what both do. -/
instance AsksFor.trans {lazy : Bool} {own : List Target} : IsTrans Sys (AsksFor lazy own) where
  trans _ _ _ first second := by
    have shrinks := toLearn_subset lazy first.kept
    have wider := List.append_subset.mpr ⟨List.subset_append_left own _,
      List.subset_append_of_subset_right own shrinks⟩
    exact ⟨second.kept ∘ first.kept, trans_of _ first.sends (second.sends.widen wider)⟩

/-- Where nothing changes nothing is asked. -/
theorem Still.asksFor {lazy : Bool} {own : List Target} {s t : Sys} (still : Still s t) :
    AsksFor lazy own s t where
  kept known := by rwa [still.iface]
  sends := asks_of_trace still.trace

section Parts

variable {env : Env} {lazy : Bool} {own : List Target}

/-- A change of the object that leaves it initialised asks for nothing. -/
theorem setIface_asksFor {f : RemoteInterface → RemoteInterface} (s : Sys)
    (kept : s.iface.initialized = true → (f s.iface).initialized = true) :
    Within (AsksFor lazy own) (setIface f) s :=
  Within.of_run rfl ⟨kept, asks_of_trace rfl⟩

/-- A request of the operation's own. -/
theorem withRetry_asksFor {request : Request} (among : request.target ∈ own) (s : Sys) :
    Within (AsksFor lazy own) (withRetry env request waitBeforeRetry) s := by
  have same := withRetry_iface env request s
  refine ⟨fun known => ?_, withRetry_sends (List.mem_append_left _ among) s⟩
  rwa [same]

/-- A GET request of the operation's own. -/
theorem cprGetWithRetry_asksFor {resource : Resource} {timeout : Int} (s : Sys)
    (among : (.get, resource) ∈ own) :
    Within (AsksFor lazy own) (cprGetWithRetry env resource timeout) s :=
  (this_within s).bind fun _ t _ => withRetry_asksFor among t

/-- A PUT request of the operation's own. -/
theorem cprPutWithRetry_asksFor {resource : Resource} {timeout : Int} {body : Option Json} (s : Sys)
    (among : (.put, resource) ∈ own) :
    Within (AsksFor lazy own) (cprPutWithRetry env resource timeout body) s :=
  (this_within s).bind fun _ t _ => withRetry_asksFor among t

/-- A DELETE request of the operation's own. -/
theorem cprDeleteWithRetry_asksFor {resource : Resource} {timeout : Int} {body : Option Json}
    (s : Sys) (among : (.delete, resource) ∈ own) :
    Within (AsksFor lazy own) (cprDeleteWithRetry env resource timeout body) s :=
  (this_within s).bind fun _ t _ => withRetry_asksFor among t

/-- Listening to a receiver asks the device for nothing. -/
theorem DataReceiver.receive_asksFor (receiver : DataReceiver) (pbMsgType : String) (s : Sys) :
    Within (AsksFor lazy own) (receiver.receive env pbMsgType) s := by
  have heard : AsksFor lazy own s (s.advance s.world.tick [.receive pbMsgType]) :=
    ⟨id, [.receive pbMsgType], rfl, fun _ member => absurd member List.not_mem_nil⟩
  have recorded : Within (AsksFor lazy own) (emit (.receive pbMsgType)) s := Within.of_run rfl heard
  apply recorded.bind
  intro _ t _
  split
  · exact (receiveAs_still env pbMsgType t).mono fun _ still => still.asksFor
  · exact Within.throw _ t

end Parts

namespace RemoteInterface

section Initialising

variable {env : Env} {lazy : Bool} {own : List Target}

/-- An initialisation sends its two requests. -/
theorem checkSystemReady_sends (s : Sys) : Within (Sends learning) (checkSystemReady env) s := by
  have gets {resource : Resource} (learned : (.get, resource) ∈ learning) :
      Gets (fun request => request.target ∈ learning) resource := by
    intro request get same
    rw [Request.target, get, same]
    exact learned
  exact checkSystemReady_allowed (Asks.allows _).converses env (gets (by decide))
    (gets (by decide)) s

/-- A lazy initialisation asks only for an object that is not initialised. -/
theorem ensureInitialized_asksFor (s : Sys) :
    Within (AsksFor true own) (ensureInitialized env) s := by
  cases known : s.iface.initialized with
  | true => exact Within.of_run (run_ensureInitialized env known) (refl_of _ s)
  | false =>
    have sends : Within (Sends (own ++ toLearn true s.iface)) (ensureInitialized env) s := by
      unfold ensureInitialized
      apply (this_within s).bind
      intro _ t ran
      cases ran
      split
      · exact Within.pure () s
      have learned : learning ⊆ own ++ toLearn true s.iface := by
        rw [toLearn, known]
        exact List.subset_append_right own learning
      apply ((checkSystemReady_sends s).mono fun _ sends => Sends.widen sends learned).bind
      intro ready t _
      split
      · exact Within.pure () t
      · exact Within.throw _ t
    exact ⟨fun set => absurd (set.symm.trans known) (by decide), sends⟩

/-- So does the check of a stream. -/
theorem checkStreamTypeAvailable_asksFor (stream : String) (s : Sys) :
    Within (AsksFor true own) (checkStreamTypeAvailable env stream) s := by
  apply (ensureInitialized_asksFor s).bind
  intro _ t _
  apply (this_within t).bind
  intro _ t _
  split
  · exact Within.pure () t
  · exact Within.throw _ t

end Initialising

section Operations

variable {env : Env} {lazy : Bool} {own : List Target}

/-- Asking for a state is one request. -/
theorem getState_asksFor {node : String} (s : Sys) (among : (.get, .status node) ∈ own) :
    Within (AsksFor lazy own) (getState env node) s := by
  unfold getState
  apply (this_within s).bind
  intro _ t _
  apply (cprGetWithRetry_asksFor t among).bind
  intro r t _
  apply (handleCPRResponse_within r t).bind
  intro _ t _
  apply Within.tryCatch
  · apply (parseJson_within env _ t).bind
    intro j t _
    exact lift_within _ t
  · intro e t _
    split
    · exact Within.pure _ t
    · exact Within.throw e t

/-- A service is one request. -/
theorem service_asksFor {α : Type} {node serviceName : String} {timeout : Int} {body : Option Json}
    {decode : Json → Except Exn α} (s : Sys) (among : (.put, .service node serviceName) ∈ own) :
    Within (AsksFor lazy own) (do
      let r ← cprPutWithRetry env (.service node serviceName) timeout body
      handleCPRResponse r
      let j ← parseJson env r.text
      lift (decode j)) s := by
  apply (cprPutWithRetry_asksFor s among).bind
  intro r t _
  apply (handleCPRResponse_within r t).bind
  intro _ t _
  apply (parseJson_within env _ t).bind
  intro j t _
  exact lift_within _ t

/-- So is one that enters a state. -/
theorem callStateService_asksFor {node serviceName : String} (validStates : List String) (s : Sys)
    (among : (.put, .service node serviceName) ∈ own) :
    Within (AsksFor lazy own) (callStateService env node serviceName validStates) s :=
  (this_within s).bind fun _ t _ => service_asksFor t among

/-- Getting the streams asks for what initialises the object. -/
theorem getAvailableStreams_asksFor (s : Sys) :
    Within (AsksFor true own) (getAvailableStreams env) s := by
  apply (ensureInitialized_asksFor s).bind
  intro _ t _
  apply (this_within t).bind
  intro _ t _
  exact Within.pure _ t

/-- Looking up a type asks for nothing. -/
theorem protobufOf_asksFor (stream : String) (s : Sys) :
    Within (AsksFor lazy own) (protobufOf stream) s := by
  apply (setIface_asksFor s fun known => known).bind
  intro _ t _
  apply (this_within t).bind
  intro _ t _
  exact Within.pure _ t

/-- Getting the type of a stream asks for what initialises the object. -/
theorem getPbMsgTypeOfStream_asksFor (stream : String) (s : Sys) :
    Within (AsksFor true own) (getPbMsgTypeOfStream env stream) s :=
  (checkStreamTypeAvailable_asksFor stream s).bind fun _ t _ => protobufOf_asksFor stream t

/-- Getting the destinations of a stream reads that stream. -/
theorem getDestinationsOfStream_asksFor {stream : String} (s : Sys)
    (among : (.get, .datastream stream) ∈ own) :
    Within (AsksFor true own) (getDestinationsOfStream env stream) s := by
  apply (checkStreamTypeAvailable_asksFor stream s).bind
  intro _ t _
  apply (this_within t).bind
  intro _ t _
  apply (cprGetWithRetry_asksFor t among).bind
  intro r t _
  apply (handleCPRResponse_within r t).bind
  intro _ t _
  apply (parseJson_within env _ t).bind
  intro j t _
  exact lift_within _ t

/-- Replacing a list of destinations asks for nothing. -/
theorem track_asksFor (stream : String) (destinations : RemoteInterface → List String) (s : Sys) :
    Within (AsksFor lazy own) (setIface fun iface => iface.track stream (destinations iface)) s :=
  setIface_asksFor s fun known => known

/-- Adding a destination writes the stream. -/
theorem addDestinationToStream_asksFor {stream : String} (destination : String) (s : Sys)
    (among : (.put, .datastream stream) ∈ own) :
    Within (AsksFor true own) (addDestinationToStream env stream destination) s := by
  apply (checkStreamTypeAvailable_asksFor stream s).bind
  intro _ t _
  apply (dumpArgs_within env _ t).bind
  intro body t _
  apply (this_within t).bind
  intro _ t _
  apply (cprPutWithRetry_asksFor t among).bind
  intro put t _
  split
  · exact tooManyDestinations_within env put t
  · apply (handleCPRResponse_within put t).bind
    intro _ t _
    exact track_asksFor stream (fun iface => iface.tracked stream ++ [destination]) t

/-- A removal deletes from the stream. -/
theorem deleteRequest_asksFor {stream : String} (destinations : List String) (s : Sys)
    (among : (.delete, .datastream stream) ∈ own) :
    Within (AsksFor lazy own) (deleteRequest env stream destinations) s := by
  apply (dumpArgs_within env _ s).bind
  intro body t _
  apply (this_within t).bind
  intro _ t _
  apply (cprDeleteWithRetry_asksFor t among).bind
  intro del t _
  exact handleCPRResponse_within del t

/-- Removing a destination deletes from the stream. -/
theorem deleteDestinationFromStream_asksFor {stream : String} (destination : String) (s : Sys)
    (among : (.delete, .datastream stream) ∈ own) :
    Within (AsksFor true own) (deleteDestinationFromStream env stream destination) s := by
  apply (checkStreamTypeAvailable_asksFor stream s).bind
  intro _ t _
  apply (deleteRequest_asksFor [destination] t among).bind
  intro _ t _
  exact track_asksFor stream (fun iface =>
    ((CellList.ofList (iface.tracked stream)).eraseFirst destination).values) t

/-- So does removing several. -/
theorem deleteDestinationsFromStream_asksFor {stream : String} (destinations : Destinations)
    (s : Sys) (among : (.delete, .datastream stream) ∈ own) :
    Within (AsksFor true own) (deleteDestinationsFromStream env stream destinations) s := by
  apply (checkStreamTypeAvailable_asksFor stream s).bind
  intro _ t _
  apply (read_within stream destinations t).bind
  intro values t _
  have removed : Within (AsksFor true own) (deleteRequests env stream values) t := by
    apply (this_within t).bind
    intro _ t _
    split
    · exact deleteRequest_asksFor values t among
    · exact Within.forM values fun destination _ t => deleteRequest_asksFor [destination] t among
  apply removed.bind
  intro _ t _
  cases destinations with
  | list values =>
    exact track_asksFor stream (fun iface =>
      ((CellList.ofList (iface.tracked stream)).eraseEach values).values) t
  | tracked epoch =>
    apply (this_within t).bind
    intro _ t _
    split
    · rename_i list _
      exact track_asksFor stream (fun _ => list.values) t
    · exact Within.throw _ t
    · exact Within.throw _ t

/-- Destroying a receiver deletes from its stream. -/
theorem destroyReceiver_asksFor (receiver : TrackedDataReceiver) (s : Sys)
    (among : (.delete, .datastream receiver.stream) ∈ own) :
    Within (AsksFor true own) (receiver.destroy env) s := by
  have handled : Within (AsksFor true own)
      (tryCatch (deleteDestinationFromStream env receiver.stream receiver.dest)
        fun e => if e.isException then return () else throw e) s := by
    apply (deleteDestinationFromStream_asksFor receiver.dest s among).tryCatch
    intro e t _
    split
    · exact Within.pure () t
    · exact Within.throw e t
  apply handled.bind
  intro _ t _
  exact (closeSocket_still receiver.sockfd t).mono fun _ still => still.asksFor

/-- The destructor deletes from streams and initialises nothing that is initialised. -/
theorem destroy_asksFor (traversal : Traversal) (s : Sys)
    (among : ∀ stream ∈ s.iface.reqStreams.keys, (.delete, .datastream stream) ∈ own) :
    Within (AsksFor true own) (destroy env traversal) s := by
  have swept : Within (AsksFor true own) (cleanUpRequestedStreams env traversal) s := by
    unfold cleanUpRequestedStreams
    apply (this_within s).bind
    intro iface t ran
    cases ran
    apply Within.forM
    intro stream member u
    apply (this_within u).bind
    intro _ u _
    dsimp only
    split
    · exact Within.pure () u
    · apply (deleteDestinationsFromStream_asksFor _ u (among stream member)).bind
      intro _ u _
      exact requireEpoch_within _ u
  unfold destroy
  apply Within.bind
  · apply Within.tryCatch
    · exact swept.bind fun _ t _ => Within.pure [] t
    · intro e t _
      split
      · exact Within.pure _ t
      · exact Within.throw e t
  intro report t _
  apply (this_within t).bind
  intro iface t _
  exact Within.pure _ t

/-- Explaining a timeout asks for the state. -/
theorem explainTimeout_asksFor (s : Sys) (among : (.get, .status "rc_dynamics") ∈ own) :
    Within (AsksFor lazy own) (explainTimeout env) s := by
  apply (getState_asksFor s among).bind
  intro currentState t _
  split
  · exact Within.throw _ t
  · exact Within.throw _ t

/-- Creating a receiver writes the stream, explains a timeout and removes what it has written. -/
theorem createReceiverForStream_asksFor {stream : String} (destInterface : String)
    (destPort : BitVec 32) (s : Sys) (add : (.put, .datastream stream) ∈ own)
    (explain : (.get, .status "rc_dynamics") ∈ own)
    (remove : (.delete, .datastream stream) ∈ own) :
    Within (AsksFor true own) (createReceiverForStream env stream destInterface destPort) s := by
  have quiet {α : Type} {call : Call α} {t : Sys} (still : Within Still call t) :
      Within (AsksFor true own) call t := still.mono fun _ still => still.asksFor
  apply (checkStreamTypeAvailable_asksFor stream s).bind
  intro _ t _
  apply (quiet (tick_still t)).bind
  intro n t _
  apply (this_within t).bind
  intro iface t _
  split
  · exact Within.throw _ t
  · rename_i destAddress _
    apply (quiet (TrackedDataReceiver.construct_still env destAddress destPort stream t)).bind
    rintro ⟨receiver, port⟩ t ran
    have named : receiver.stream = stream := (TrackedDataReceiver.construct_ok ran).2.2
    have established : Within (AsksFor true own)
        (establish env receiver stream (destAddress ++ ":" ++ toString port.toNat)) t := by
      apply (addDestinationToStream_asksFor _ t add).bind
      intro _ t _
      apply (quiet (receiver.setTimeout_still env initialTimeOut t)).bind
      intro _ t _
      apply (protobufOf_asksFor stream t).bind
      intro pbMsgType t _
      apply (receiver.receive_asksFor pbMsgType t).bind
      intro msg t _
      split
      · exact explainTimeout_asksFor t explain
      · exact quiet (receiver.setTimeout_still env 100 t)
    apply Within.bind
    · apply established.unwinding
      intro e u _
      exact destroyReceiver_asksFor receiver u (named.symm ▸ remove)
    · intro _ u _
      exact Within.pure receiver u

end Operations

end RemoteInterface

/-- A service of the dynamics module. -/
def dynamicsService (name : String) : Target := (.put, .service "rc_dynamics" name)

/-- A service of the SLAM module. -/
def slamService (name : String) : Target := (.put, .service "rc_slam" name)

/-- An operation that reads the streams, and initialises the object for it. -/
def Operation.readsStreams : Operation → Bool
  | getAvailableStreams | getPbMsgTypeOfStream _ | getDestinationsOfStream _
  | addDestinationToStream _ _ | deleteDestinationFromStream _ _ | deleteDestinationsFromStream _ _
  | createReceiverForStream _ _ _ | destroyReceiver _ => true
  | _ => false

/-- The requests of an operation's own, with the receivers that are alive. -/
def Operation.own (receivers : List TrackedDataReceiver) : Operation → List Target
  | checkSystemReady => learning
  | getDynamicsState => [(.get, .status "rc_dynamics")]
  | getSlamState => [(.get, .status "rc_slam")]
  | getStereoInsState => [(.get, .status "rc_stereo_ins")]
  | restart => [dynamicsService "restart"]
  | restartSlam => [dynamicsService "restart_slam"]
  | start => [dynamicsService "start"]
  | startSlam => [dynamicsService "start_slam"]
  | stop => [dynamicsService "stop"]
  | stopSlam => [dynamicsService "stop_slam"]
  | resetSlam => [slamService "reset"]
  | saveSlamMap _ => [slamService "save_map"]
  | loadSlamMap _ => [slamService "load_map"]
  | removeSlamMap _ => [slamService "remove_map"]
  | getSlamTrajectory _ _ _ => [slamService "get_trajectory"]
  | getCam2ImuTransform _ => [dynamicsService "get_cam2imu_transform"]
  | getAvailableStreams | getPbMsgTypeOfStream _ => []
  | getDestinationsOfStream stream => [(.get, .datastream stream)]
  | addDestinationToStream stream _ => [(.put, .datastream stream)]
  | deleteDestinationFromStream stream _ | deleteDestinationsFromStream stream _ =>
    [(.delete, .datastream stream)]
  | createReceiverForStream stream _ _ =>
    [(.put, .datastream stream), (.get, .status "rc_dynamics"), (.delete, .datastream stream)]
  | destroyReceiver index =>
    match receivers[index]? with
    | none => []
    | some receiver => [(.delete, .datastream receiver.stream)]

/-- No operation but the initialisation has its requests for its own. -/
theorem Operation.own_not_learning {receivers : List TrackedDataReceiver} {operation : Operation}
    (implicit : operation ≠ .checkSystemReady) :
    ∀ target ∈ operation.own receivers, target ∉ learning := by
  intro target member
  cases operation with
  | checkSystemReady => exact absurd rfl implicit
  | destroyReceiver index =>
    rw [own] at member
    split at member
    · exact absurd member List.not_mem_nil
    · rw [List.mem_singleton.mp member]
      simp [learning]
  | createReceiverForStream stream destInterface destPort =>
    simp only [own, List.mem_cons, List.not_mem_nil, or_false] at member
    rcases member with rfl | rfl | rfl <;> simp [learning]
  | getAvailableStreams | getPbMsgTypeOfStream _ => exact absurd member List.not_mem_nil
  | _ =>
    rw [List.mem_singleton.mp member]
    simp [learning, dynamicsService, slamService]

/-- Everything that an operation may request. -/
def Operation.footprint (s : Session) (operation : Operation) : List Target :=
  operation.own s.receivers ++ toLearn operation.readsStreams s.sys.iface

section Runs

variable {env : Env}

/-- Discarding a value asks for nothing. -/
theorem asksFor_discard {α : Type} {lazy : Bool} {own : List Target}
    {receivers : List TrackedDataReceiver} {call : Call α} {s : Sys}
    (asks : Within (AsksFor lazy own) call s) :
    Within (AsksFor lazy own) (discard receivers call) s := by
  unfold Within at asks ⊢
  rwa [final_discard]

open RemoteInterface in
/-- Every operation except an explicit initialisation asks for its own. -/
theorem Operation.perform_asksFor (env : Env) (receivers : List TrackedDataReceiver)
    {operation : Operation} (implicit : operation ≠ .checkSystemReady) (s : Sys) :
    Within (AsksFor operation.readsStreams (operation.own receivers))
      (operation.perform env receivers) s := by
  have mine {target : Target} : target ∈ [target] := List.mem_cons_self
  cases operation with
  | checkSystemReady => exact absurd rfl implicit
  | getDynamicsState | getSlamState | getStereoInsState =>
    exact asksFor_discard (getState_asksFor s mine)
  | restart | restartSlam | start | startSlam | stop | stopSlam | resetSlam =>
    exact asksFor_discard (callStateService_asksFor _ s mine)
  | saveSlamMap _ | loadSlamMap _ | removeSlamMap _ | getSlamTrajectory _ _ _
  | getCam2ImuTransform _ => exact asksFor_discard (service_asksFor s mine)
  | getAvailableStreams => exact asksFor_discard (getAvailableStreams_asksFor s)
  | getPbMsgTypeOfStream stream => exact asksFor_discard (getPbMsgTypeOfStream_asksFor stream s)
  | getDestinationsOfStream stream => exact asksFor_discard (getDestinationsOfStream_asksFor s mine)
  | addDestinationToStream stream destination =>
    exact asksFor_discard (addDestinationToStream_asksFor destination s mine)
  | deleteDestinationFromStream stream destination =>
    exact asksFor_discard (deleteDestinationFromStream_asksFor destination s mine)
  | deleteDestinationsFromStream stream destinations =>
    exact asksFor_discard (deleteDestinationsFromStream_asksFor (.list destinations) s mine)
  | createReceiverForStream stream destInterface destPort =>
    apply (createReceiverForStream_asksFor destInterface destPort s (by simp [own]) (by simp [own])
      (by simp [own])).bind
    intro receiver t _
    exact Within.pure (receivers ++ [receiver]) t
  | destroyReceiver index =>
    rw [Operation.perform, own]
    cases receivers[index]? with
    | none => exact Within.pure receivers s
    | some receiver =>
      apply (destroyReceiver_asksFor receiver s mine).bind
      intro _ t _
      exact Within.pure _ t

namespace Session

/-- **Nothing but its own.** Whatever the device answers, an operation requests only what is in its
footprint. -/
theorem exec_footprint (env : Env) (s : Session) (operation : Operation) :
    Sends (operation.footprint s) s.sys (s.exec env operation).sys := by
  by_cases explicit : operation = .checkSystemReady
  · have sends : Within (Sends learning) (Operation.perform env s.receivers operation) s.sys := by
      subst explicit
      have checked : Within (Sends learning) (RemoteInterface.checkSystemReady env) s.sys :=
        RemoteInterface.checkSystemReady_sends s.sys
      unfold Within at checked ⊢
      rwa [Operation.perform, final_discard]
    apply (exec_within sends).widen
    subst explicit
    exact List.subset_append_left _ _
  · have asks := Operation.perform_asksFor env s.receivers explicit s.sys
    exact (exec_within asks).sends

/-- An operation of an initialised object that is not asked to initialise leaves it initialised. -/
theorem exec_keeps_initialized (env : Env) {s : Session} (known : s.sys.iface.initialized = true)
    {operation : Operation} (implicit : operation ≠ .checkSystemReady) :
    (s.exec env operation).sys.iface.initialized = true :=
  (exec_within (Operation.perform_asksFor env s.receivers implicit s.sys)).kept known

/-- What the operations of a run ask for of their own, each with the receivers then alive. -/
def runFootprint (env : Env) (s : Session) : List Operation → List Target
  | [] => []
  | operation :: operations =>
    operation.own s.receivers ++ runFootprint env (s.exec env operation) operations

/-- **Learned once.** After an initialisation a run that does not ask for another requests only
what its operations ask for of their own: never the system or the list of streams again. -/
theorem run_learns_nothing (env : Env) {s : Session} (known : s.sys.iface.initialized = true)
    {operations : List Operation} (implicit : .checkSystemReady ∉ operations) :
    Sends (s.runFootprint env operations) s.sys (s.run env operations).sys ∧
      ∀ target ∈ s.runFootprint env operations, target ∉ learning := by
  induction operations generalizing s with
  | nil => exact ⟨refl_of _ s.sys, fun _ member => absurd member List.not_mem_nil⟩
  | cons operation operations later =>
    have first : operation ≠ .checkSystemReady := fun same =>
      implicit (same ▸ List.mem_cons_self)
    obtain ⟨rest, others⟩ := later (exec_keeps_initialized env known first)
      fun inside => implicit (List.mem_cons_of_mem _ inside)
    have step : Sends (operation.own s.receivers) s.sys (s.exec env operation).sys := by
      have sends := exec_footprint env s operation
      rw [Operation.footprint, toLearn, known] at sends
      simpa using sends
    refine ⟨?_, fun target member => ?_⟩
    · exact trans_of _ (step.widen (List.subset_append_left _ _))
        (rest.widen (List.subset_append_right _ _))
    · rcases List.mem_append.mp member with mine | theirs
      · exact Operation.own_not_learning first target mine
      · exact others target theirs

/-- A session with a registered destination goes on without learning anything again. -/
theorem run_learns_nothing_pose :
    Sends (poseSession.runFootprint obligingDevice
        [.getAvailableStreams, .deleteDestinationFromStream "pose" "192.168.0.5:40000"])
      poseSession.sys (poseSession.run obligingDevice
        [.getAvailableStreams, .deleteDestinationFromStream "pose" "192.168.0.5:40000"]).sys ∧
      ∀ target ∈ poseSession.runFootprint obligingDevice
        [.getAvailableStreams, .deleteDestinationFromStream "pose" "192.168.0.5:40000"],
        target ∉ learning :=
  run_learns_nothing obligingDevice (by decide +kernel) (by decide)

end Session

end Runs

end RcDynamics
