import RcDynamics.Transcripts

/-!
# Runs as scripts

What a whole run tells the device, and the destructor after it: exchanges and nothing else, none
about a stream that the device has not listed before. The number of exchanges is bounded for each
operation, and with it the requests sent and the time spent in pauses.
-/

namespace RcDynamics

open Effect

/-- The exchanges that an operation needs at most. -/
def Operation.exchanges : Operation → ℕ
  | checkSystemReady | getAvailableStreams | getPbMsgTypeOfStream _ => 3
  | getDestinationsOfStream _ | addDestinationToStream _ _ | deleteDestinationFromStream _ _
  | destroyReceiver _ => 4
  | createReceiverForStream _ _ _ => 6
  | deleteDestinationsFromStream _ destinations => 3 + max 1 destinations.length
  | _ => 1

section Runs

variable {env : Env}

/-- Discarding a value says nothing. -/
theorem speaks_discard {α : Type} {n : ℕ} {receivers : List TrackedDataReceiver} {call : Call α}
    {s : Sys} (speaks : Within (Speaks env n) call s) :
    Within (Speaks env n) (discard receivers call) s := by
  unfold Within at speaks ⊢
  rwa [final_discard]

open RemoteInterface in
/-- Every operation speaks within its budget. -/
theorem Operation.perform_speaks (receivers : List TrackedDataReceiver) (operation : Operation)
    (s : Sys) :
    Within (Speaks env operation.exchanges) (operation.perform env receivers) s := by
  have budget := speaks_budgeted env
  cases operation with
  | checkSystemReady => exact speaks_discard (checkSystemReady_speaks s)
  | getDynamicsState => exact speaks_discard (getState_speaks (by decide) s)
  | getSlamState => exact speaks_discard (getState_speaks (by decide) s)
  | getStereoInsState => exact speaks_discard (getState_speaks (by decide) s)
  | restart => exact speaks_discard (callStateService_speaks _ (by decide) s)
  | restartSlam => exact speaks_discard (callStateService_speaks _ (by decide) s)
  | start => exact speaks_discard (callStateService_speaks _ (by decide) s)
  | startSlam => exact speaks_discard (callStateService_speaks _ (by decide) s)
  | stop => exact speaks_discard (callStateService_speaks _ (by decide) s)
  | stopSlam => exact speaks_discard (callStateService_speaks _ (by decide) s)
  | resetSlam => exact speaks_discard (callStateService_speaks _ (by decide) s)
  | saveSlamMap timeoutMs =>
    exact speaks_discard (service_speaks s fun _ => .service (by decide))
  | loadSlamMap timeoutMs =>
    exact speaks_discard (service_speaks s fun _ => .service (by decide))
  | removeSlamMap timeoutMs =>
    exact speaks_discard (service_speaks s fun _ => .service (by decide))
  | getSlamTrajectory startTime endTime timeoutMs =>
    exact speaks_discard (service_speaks s fun _ => .trajectory startTime endTime)
  | getCam2ImuTransform timeoutMs =>
    exact speaks_discard (service_speaks s fun _ => .service (by decide))
  | getAvailableStreams => exact speaks_discard (getAvailableStreams_speaks s)
  | getPbMsgTypeOfStream stream => exact speaks_discard (getPbMsgTypeOfStream_speaks stream s)
  | getDestinationsOfStream stream =>
    exact speaks_discard (getDestinationsOfStream_speaks stream s)
  | addDestinationToStream stream destination =>
    exact speaks_discard (addDestinationToStream_speaks stream destination s)
  | deleteDestinationFromStream stream destination =>
    exact speaks_discard (deleteDestinationFromStream_speaks stream destination s)
  | deleteDestinationsFromStream stream destinations =>
    exact speaks_discard (deleteDestinationsFromStream_speaks stream destinations s)
  | createReceiverForStream stream destInterface destPort =>
    apply budget.bind (m := 6) (n := 0)
      (createReceiverForStream_speaks stream destInterface destPort s)
    intro receiver t _
    exact Within.pure (receivers ++ [receiver]) t
  | destroyReceiver index =>
    rw [Operation.perform]
    cases receivers[index]? with
    | none => exact budget.pure receivers s
    | some receiver =>
      apply budget.bind (m := 4) (n := 0) (destroyReceiver_speaks receiver s)
      intro _ t _
      exact Within.pure _ t

namespace Session

/-- A step of a session speaks within the budget of its operation. -/
theorem exec_speaks (s : Session) (operation : Operation) :
    Speaks env operation.exchanges s.sys (s.exec env operation).sys :=
  exec_within (operation.perform_speaks s.receivers s.sys)

/-- A run of a session speaks within the budgets of its operations. -/
theorem run_speaks (s : Session) (operations : List Operation) :
    Speaks env (operations.map Operation.exchanges).sum s.sys (s.run env operations).sys := by
  induction operations generalizing s with
  | nil => exact (speaks_budgeted env).stay s.sys
  | cons operation operations later =>
    rw [List.map_cons, List.sum_cons]
    exact (speaks_budgeted env).add (exec_speaks s operation) (later (s.exec env operation))

end Session

/-- From one state to another there are finitely many exchanges. -/
def SpeaksSome (env : Env) (s t : Sys) : Prop := ∃ n, Speaks env n s t

/-- A computation within a budget. -/
theorem Speaks.some {n : ℕ} {s t : Sys} (speaks : Speaks env n s t) : SpeaksSome env s t :=
  ⟨n, speaks⟩

/-- Nothing is said from a state to itself. -/
instance SpeaksSome.refl : Std.Refl (SpeaksSome env) := ⟨fun s => ⟨0, refl_of _ s⟩⟩

/-- Exchanges may follow one another. -/
instance SpeaksSome.trans : IsTrans Sys (SpeaksSome env) where
  trans _ _ _ first second := by
    obtain ⟨m, first⟩ := first
    obtain ⟨n, second⟩ := second
    exact ⟨m + n, (speaks_budgeted env).add first second⟩

namespace RemoteInterface

/-- Removing destinations, from whatever list they are read. -/
theorem deleteDestinationsFromStream_speaksSome (stream : String) (destinations : Destinations)
    (s : Sys) :
    Within (SpeaksSome env) (deleteDestinationsFromStream env stream destinations) s := by
  have checked : Within (Speaks env 3) (checkStreamTypeAvailable env stream) s :=
    checkStreamTypeAvailable_speaks stream s
  apply (checked.mono fun _ => Speaks.some).bind
  intro _ t ran
  have listed := (checkStreamTypeAvailable_ok env ran).listed
  have read : Within Still (destinations.read stream) t := read_within stream destinations t
  apply (read.mono fun _ still => still.speaks.some).bind
  intro values u ran
  have same := (read.of_ok ran).iface
  have removed : Within (Speaks env _) (deleteRequests env stream values) u :=
    deleteRequests_speaks values (same ▸ listed)
  apply (removed.mono fun _ => Speaks.some).bind
  intro _ v _
  exact (eraseRequested_speaks stream destinations v).mono fun _ => Speaks.some

/-- The clean-up, however it reads the lists. -/
theorem cleanUpRequestedStreams_speaksSome (traversal : Traversal) (s : Sys) :
    Within (SpeaksSome env) (cleanUpRequestedStreams env traversal) s := by
  apply (this_within s).bind
  intro iface t _
  apply Within.forM
  intro stream _ u
  apply (this_within u).bind
  intro known u _
  dsimp only
  split
  · exact Within.pure () u
  · apply (deleteDestinationsFromStream_speaksSome stream _ u).bind
    intro _ u _
    exact requireEpoch_within iface.reqEpoch u

/-- The destructor. -/
theorem destroy_speaksSome (traversal : Traversal) (s : Sys) :
    Within (SpeaksSome env) (destroy env traversal) s := by
  have cleaned : Within (SpeaksSome env) (cleanUpRequestedStreams env traversal) s :=
    cleanUpRequestedStreams_speaksSome traversal s
  unfold Within at cleaned ⊢
  rwa [final_destroy]

end RemoteInterface

/-- The attempts of an exchange, and the pauses in milliseconds, are bounded. -/
theorem exchange_bounded (env : Env) (request : Request) (n : ℕ) :
    (requests (exchange env request n)).length ≤ 5 ∧
      (waitsOf (exchange env request n)).sum ≤ 3750 := by
  have bounded : ∀ (waits : List ℕ) (n : ℕ),
      (requests ((env.attempts request waits n).map (attemptEvent request))).length ≤
          waits.length ∧
        (waitsOf ((env.attempts request waits n).map (attemptEvent request))).sum ≤ waits.sum := by
    intro waits
    induction waits with
    | nil => exact fun _ => ⟨Nat.le_refl 0, Nat.le_refl 0⟩
    | cons wait waits later =>
      intro n
      have counted := later (n + 1)
      rw [requests_attempts, waitsOf_attempts, List.length_map] at counted ⊢
      unfold Env.attempts at counted ⊢
      rw [Retry.log]
      split
      · simp only [Retry.answersOf_answer, Retry.answersOf_pause, Retry.pausesOf_answer,
          Retry.pausesOf_pause, List.length_cons, List.sum_cons]
        omega
      · constructor
        · exact Nat.succ_le_succ (Nat.zero_le _)
        · exact Nat.zero_le _
  exact bounded waitBeforeRetry n

/-- A script of so many exchanges takes five times as many attempts at most, and pauses 3.75
seconds for each at most. -/
theorem Script.bounded {address : String} {before events : List Event} {n : ℕ}
    (script : Script env address before n events) :
    (requests events).length ≤ 5 * n ∧ (waitsOf events).sum ≤ 3750 * n := by
  induction script with
  | silent => exact ⟨Nat.zero_le _, Nat.zero_le _⟩
  | heard others ih => exact ih
  | asked allowed others ih =>
    rename_i k method resource body timeout
    have first := exchange_bounded env (requestTo address method resource body timeout) k
    have both (first second : List Event) :
        waitsOf (first ++ second) = waitsOf first ++ waitsOf second := List.filterMap_append
    rw [requests_append, both, List.length_append, List.sum_append]
    omega

namespace Session

/-- A new object is informed: it knows no streams. -/
theorem begin_informed (rcVisardIp : String) (requestsTimeout : Int) :
    Informed env (begin rcVisardIp requestsTimeout).sys :=
  fun _ member => absurd member List.not_mem_nil

/-- A run is a script that leaves the object informed. -/
theorem script_of_after (env : Env) (rcVisardIp : String) (requestsTimeout : Int)
    (operations : List Operation) :
    Informed env (after env rcVisardIp requestsTimeout operations).sys ∧
      Script env rcVisardIp [] (operations.map Operation.exchanges).sum
        (after env rcVisardIp requestsTimeout operations).sys.world.trace := by
  have ran : Speaks env _ _ (after env rcVisardIp requestsTimeout operations).sys :=
    run_speaks (begin rcVisardIp requestsTimeout) operations
  obtain ⟨informed, events, trace, script⟩ := ran.speaks (begin_informed _ _)
  have told : (after env rcVisardIp requestsTimeout operations).sys.world.trace = events := trace
  rw [told]
  exact ⟨informed, script⟩

/-- The destructor goes on with the script. -/
theorem script_of_destroy (env : Env) (rcVisardIp : String) (requestsTimeout : Int)
    (operations : List Operation) (traversal : RemoteInterface.Traversal) :
    ∃ n, Script env rcVisardIp [] n (final ((RemoteInterface.destroy env traversal).run
      (after env rcVisardIp requestsTimeout operations).sys)).world.trace := by
  obtain ⟨informed, script⟩ := script_of_after env rcVisardIp requestsTimeout operations
  have ran : Speaks env _ _ (after env rcVisardIp requestsTimeout operations).sys :=
    run_speaks (begin rcVisardIp requestsTimeout) operations
  have destroyed : Within (SpeaksSome env) (RemoteInterface.destroy env traversal)
      (after env rcVisardIp requestsTimeout operations).sys :=
    RemoteInterface.destroy_speaksSome traversal _
  obtain ⟨n, speaks⟩ := destroyed
  obtain ⟨_, more, trace, script'⟩ := speaks.speaks informed
  rw [ran.address] at script'
  rw [trace]
  exact ⟨_, script.append script'⟩

/-- **What a run tells the device.** The events of every run of every object, whatever is answered,
are a script: exchanges about known resources, each with the pauses and attempts of a request with
retries, and no request that names a stream before the device has listed it. So are they with
those of the destructor, however it reads its lists. -/
theorem after_script (env : Env) (rcVisardIp : String) (requestsTimeout : Int)
    (operations : List Operation) (traversal : RemoteInterface.Traversal) :
    Script env rcVisardIp [] (operations.map Operation.exchanges).sum
        (after env rcVisardIp requestsTimeout operations).sys.world.trace ∧
      ∃ n, Script env rcVisardIp [] n (final ((RemoteInterface.destroy env traversal).run
        (after env rcVisardIp requestsTimeout operations).sys)).world.trace :=
  ⟨(script_of_after env rcVisardIp requestsTimeout operations).2,
    script_of_destroy env rcVisardIp requestsTimeout operations traversal⟩

/-- **How long an operation keeps the device busy.** In every run, an operation sends at most five
times as many requests as it needs exchanges, and sleeps at most 3.75 seconds for each exchange. -/
theorem exec_bounded (env : Env) (rcVisardIp : String) (requestsTimeout : Int)
    (operations : List Operation) (operation : Operation) :
    ∃ events,
      ((after env rcVisardIp requestsTimeout operations).exec env operation).sys.world.trace =
        (after env rcVisardIp requestsTimeout operations).sys.world.trace ++ events ∧
      (requests events).length ≤ 5 * operation.exchanges ∧
      (waitsOf events).sum ≤ 3750 * operation.exchanges := by
  have informed := (script_of_after env rcVisardIp requestsTimeout operations).1
  have step : Speaks env operation.exchanges _ _ :=
    exec_speaks (after env rcVisardIp requestsTimeout operations) operation
  obtain ⟨_, events, trace, script⟩ := step.speaks informed
  exact ⟨events, trace, script.bounded⟩

end Session

end Runs

end RcDynamics
