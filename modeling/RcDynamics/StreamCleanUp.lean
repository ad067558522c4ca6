import RcDynamics.Listening
import RcDynamics.Receivers
import RcDynamics.StreamTool

/-!
# What `rcdynamics_stream` leaves behind

The program registers one destination, that of its receiver, and the end of the receiver removes
it. When the removal succeeds the destructor of the object has nothing to do and nothing is left at
the device. Whatever fails, a program that exits reports every stream of which it has left a
destination at the device.
-/

namespace RcDynamics

open Effect

namespace RemoteInterface

variable {env : Env}

/-- Cleaning a stream by a reference to its own list leaves the object, and loses the removals that
are acknowledged: it throws before it enters them. -/
theorem cleanUpStream_aliased {s : Sys} (sound : Sound env s.iface) (stream : String) :
    Within (fun s t => t.iface = s.iface ∧ Moves env s t)
      (cleanUpStream env .aliased s.iface.reqEpoch stream) s := by
  by_cases tracked : s.iface.tracked stream = []
  · exact Within.of_run (run_cleanUpStream_nil env .aliased _ tracked) ⟨rfl, .refl⟩
  have available := sound.available stream tracked
  obtain ⟨events, t, removals, ends⟩ :=
    run_deleteGroups env stream (s.iface.deletionGroups (s.iface.tracked stream)) s
  rw [← run_deleteRequests] at ends
  have lost : t.iface = s.iface ∧ Moves env s t :=
    ⟨removals.iface, .single (.lose removals.toExtends removals.changed removals.silent)⟩
  have read : (Destinations.read stream (.tracked s.iface.reqEpoch)).run s =
      .ok (s.iface.tracked stream) s := by
    rw [Destinations.read, run_bind_of_ok (run_requireEpoch rfl)]
    rfl
  have listed : (CellList.ofList (t.iface.tracked stream)).values ≠ [] := by
    rw [CellList.values_ofList, removals.iface]
    exact tracked
  have stopped : ∃ e, (deleteDestinationsFromStream env stream (.tracked s.iface.reqEpoch)).run s =
      .error e t := by
    unfold deleteDestinationsFromStream
    rw [run_bind_of_ok (run_checkStreamTypeAvailable env available), run_bind_of_ok read]
    rcases ends with ⟨_, ran⟩ | ⟨_, e, _, ran⟩
    · rw [run_bind_of_ok ran, eraseRequested, run_this_bind, CellList.rangeFor_eraseFirst listed]
      exact ⟨_, rfl⟩
    · exact ⟨e, run_bind_of_error ran⟩
  obtain ⟨e, stopped⟩ := stopped
  have cleaned : (cleanUpStream env .aliased s.iface.reqEpoch stream).run s = .error e t := by
    unfold cleanUpStream
    rw [run_this_bind, if_neg (by simpa using tracked)]
    exact run_bind_of_error stopped
  exact Within.of_run cleaned lost

/-- So does the clean-up. -/
theorem cleanUpRequestedStreams_aliased {s : Sys} (sound : Sound env s.iface) :
    Within (fun s t => t.iface = s.iface ∧ Moves env s t)
      (cleanUpRequestedStreams env .aliased) s := by
  have swept : ∀ (streams : List String) (t : Sys), t.iface = s.iface →
      Within (fun s t => t.iface = s.iface ∧ Moves env s t)
        (forM streams (cleanUpStream env .aliased s.iface.reqEpoch)) t := by
    intro streams
    induction streams with
    | nil => exact fun t _ => ⟨rfl, .refl⟩
    | cons stream streams ih =>
      intro t same
      have first := cleanUpStream_aliased (same ▸ sound : Sound env t.iface) stream
      rw [same] at first
      rw [List.forM_cons]
      unfold Within at first ⊢
      rw [EStateM.run_bind]
      cases ran : (cleanUpStream env .aliased s.iface.reqEpoch stream).run t with
      | error e u =>
        rw [ran] at first
        exact first
      | ok _ u =>
        rw [ran] at first
        have rest := ih u (first.1.trans same)
        exact ⟨rest.1.trans first.1, first.2.trans rest.2⟩
  exact swept s.iface.reqStreams.keys s rfl

/-- The destructor reports every stream of which something is still tracked. -/
theorem destroy_reports {traversal : Traversal} {s t : Sys} {report : List String}
    (ran : (destroy env traversal).run s = .ok report t) {stream : String}
    (tracked : t.iface.tracked stream ≠ []) : t.iface.leftOver stream ∈ report := by
  unfold destroy at ran
  obtain ⟨early, u, _, rest⟩ := run_bind_eq_ok.mp ran
  rw [run_this_bind] at rest
  cases rest
  apply List.mem_append_right
  apply List.mem_map_of_mem
  apply List.mem_filter.mpr
  refine ⟨mem_keys_of_tracked tracked, ?_⟩
  exact decide_eq_true (List.length_pos_of_ne_nil tracked)

end RemoteInterface

namespace RcdynamicsStream

open Program RemoteInterface

section Reports

variable (host : Host) (o : Options)

/-- The device has acknowledged nothing, and nothing is tracked. -/
structure Blank (s : Sys) : Prop where
  changes : changes s.world.trace = []
  tracked : ∀ stream, s.iface.tracked stream = []

/-- Connecting registers nothing. -/
theorem connect_blank (passes : Nat) (p : Process) :
    Within (OnSys (Keeps Blank)) (connect host passes) p := by
  apply connect_within
  intro s
  apply (checkSystemReady_initialised host.env s).mono
  intro t initialised blank
  obtain ⟨events, trace, unchanged⟩ := initialised.trace
  refine ⟨?_, tracked_of_cleared initialised.reqStreams⟩
  rw [trace, changes_append, blank.changes, unchanged]
  rfl

/-- A service of the dynamics module moves quietly. -/
theorem service_moves (name : String) (s : Sys) :
    Within (Moves host.env) (callDynamicsService host.env name) s :=
  within_moves (callStateService_quiet host.env _ _ _ s)

/-- Receiving a stream moves. -/
theorem stream_moves (passes : Nat) (p : Process) :
    Within (OnSys (Moves host.env)) (stream host o passes) p := by
  apply stream_within
  · exact fun s => createReceiverForStream_moves host.env o.streamName o.networkIface 0 s
  · exact fun receiver ms s => within_moves (receiver.setTimeout_quiet host.env ms s)
  · exact fun s => getPbMsgTypeOfStream_moves host.env o.streamName s
  · intro receiver pbMsgType s
    exact .head (.listen pbMsgType) (.single (.quiet (receiver.run_receive host.env pbMsgType s)))
  · exact fun receiver s => destroyReceiver_moves host.env receiver s

/-- The list of streams moves. -/
theorem listStreams_moves (p : Process) :
    Within (OnSys (Moves host.env)) (listStreams host) p := by
  apply listStreams_within
  · exact getAvailableStreams_moves host.env
  · exact getPbMsgTypeOfStream_moves host.env
  · exact fun node s => within_moves (getState_quiet host.env node s)
  · intro s
    have measured : Within Quiet (getCam2ImuTransform host.env 0) s :=
      service_quiet host.env _ _ _ none _ s
    exact within_moves measured

/-- The part that receives moves. -/
theorem receive_moves (passes : Nat) (p : Process) :
    Within (OnSys (Moves host.env)) (receive host o passes) p := by
  have called := service_moves host
  apply (startAsked_within host o called p).bind
  intro started p _
  split
  · apply (stream_moves host o passes p).bind
    intro _ p _
    apply (stopStarted_within host o called p).bind
    intro _ p _
    exact (report_within o p).bind fun _ p _ => Within.pure exitSuccess p
  · exact Within.pure exitFailure p

/-- Everything that the object has registered and that is on the device is tracked, whatever was on
the device before. -/
structure Booked (env : Env) (s : Sys) : Prop where
  sound : Sound env s.iface
  covers : ∀ device : Device, Ledger.Covers device s.ledger

/-- Before anything is registered everything is tracked. -/
theorem Blank.booked {env : Env} {s : Sys} (blank : Blank s) : Booked env s where
  sound := .of_untracked blank.tracked
  covers device stream d left := by
    have registered : 0 < Ledger.registrations (RcDynamics.changes s.world.trace) stream d := left.1
    rw [blank.changes] at registered
    exact absurd registered (Nat.lt_irrefl 0)

/-- Moves keep it so. -/
theorem Booked.moves {env : Env} {s t : Sys} (booked : Booked env s) (moves : Moves env s t) :
    Booked env t where
  sound := (moves.steps booked.sound).1
  covers device := (moves.steps booked.sound).2.covers (booked.covers device)

/-- The process at the beginning of `main`, after the object has been made. -/
def beginning : Process :=
  Process.begin (RemoteInterface.initial o.visardIp requestsTimeout)
    ["connecting to rc_visard " ++ o.visardIp ++ "..."]

/-- Nothing is registered then. -/
theorem beginning_blank : Blank (beginning o).sys where
  changes := rfl
  tracked := tracked_of_cleared rfl

/-- When `main` returns everything is tracked. -/
theorem run_booked {passes : Nat} {status : Int} {p : Process}
    (ran : (run host o passes).run (beginning o) = .ok status p) : Booked host.env p.sys := by
  obtain ⟨connected, q, first, rest⟩ := run_bind_eq_ok.mp ran
  have blank : Blank q.sys := (connect_blank host passes _).of_ok first (beginning_blank o)
  have moves : Within (OnSys (Moves host.env))
      (if connected then
        if o.onlyListStreams then do
          listStreams host
          return exitSuccess
        else receive host o passes
      else return exitFailure) q := by
    split
    · split
      · exact (listStreams_moves host q).bind fun _ q _ => Within.pure exitSuccess q
      · exact receive_moves host o passes q
    · exact Within.pure exitFailure q
  exact blank.booked.moves (moves.of_ok rest)

end Reports

/-- **What is left is reported.** Whatever is answered and whatever fails, when the program exits,
a destination that it has registered and that is still at the device belongs to a stream that the
destructor has reported with its destinations. -/
theorem start_reports (host : Host) (o : Options) (passes : Nat) (device : Device) :
    (start host o passes).Exits fun _ process => ∀ stream d,
      Ledger.Left device (changes process.sys.world.trace) stream d →
        d ∈ process.sys.iface.tracked stream ∧
          process.sys.iface.leftOver stream ∈ process.console := by
  unfold start
  split
  · exact trivial
  split
  · exact trivial
  apply Program.finish_exits
  intro status p report q ran destroyed stream d left
  have booked := run_booked host o ran
  have ended := (library_ok destroyed).1
  have swept := cleanUpRequestedStreams_aliased booked.sound
  unfold Within at swept
  rw [← final_destroy host.env .aliased p.sys, ended] at swept
  have tracked : d ∈ q.sys.iface.tracked stream :=
    (booked.moves swept.2).covers device stream d left
  refine ⟨tracked, List.mem_append_right _ ?_⟩
  exact destroy_reports ended (List.ne_nil_of_mem tracked)

/-- A host with that device when it refuses every removal. -/
def refusingHost : Host :=
  { obligingHost with
    env := { startingDevice with
      http := fun n request =>
        if request.method = .delete then ⟨500, request.url, "", "Internal Server Error"⟩
        else startingDevice.http n request } }

/-- The removal that the receiver asks for is refused, and the destructor reports its
destination. -/
theorem start_reports_pose :
    ∃ p, start refusingHost poseOptions 4 = .exited exitSuccess p ∧
      changes p.sys.world.trace = [.put "pose" ["192.168.0.5:49152"]] ∧
      "192.168.0.5:49152" ∈ p.sys.iface.tracked "pose" ∧
      p.sys.iface.leftOver "pose" ∈ p.console := by
  have exits (host : Host) (seen : (start host poseOptions 4).exit.any (fun (status, p) =>
      decide (status = exitSuccess ∧
        changes p.sys.world.trace = [.put "pose" ["192.168.0.5:49152"]])) = true) :
      ∃ p, start host poseOptions 4 = .exited exitSuccess p ∧
        changes p.sys.world.trace = [.put "pose" ["192.168.0.5:49152"]] ∧
        "192.168.0.5:49152" ∈ p.sys.iface.tracked "pose" ∧
        p.sys.iface.leftOver "pose" ∈ p.console := by
    obtain ⟨status, p, ended, found⟩ := Ending.exited_of_any seen
    obtain ⟨rfl, changed⟩ := of_decide_eq_true found
    have reported := start_reports host poseOptions 4 (fun _ => ∅)
    rw [ended] at reported
    refine ⟨p, ended, changed, reported "pose" "192.168.0.5:49152" ?_⟩
    rw [changed]
    refine ⟨by decide, ?_⟩
    have named : "192.168.0.5:49152" ∈ ["192.168.0.5:49152"] := List.mem_singleton_self _
    have added := (Ledger.Server.mem_apply_put (fun _ => ∅) "pose" "pose" ["192.168.0.5:49152"]
      "192.168.0.5:49152").mpr (Or.inr ⟨rfl, named⟩)
    exact added
  exact exits refusingHost (by decide +kernel)

section CleanExits

variable {env : Env}

/-- Nothing is tracked, and all removals from now on succeed. -/
structure Tidy (env : Env) (s : Sys) : Prop where
  untracked : ∀ stream, s.iface.tracked stream = []
  succeed : DeletesSucceed env s

/-- What is harmless for the registry keeps it tidy. -/
theorem Tidy.harmless {s t : Sys} (tidy : Tidy env s) (harmless : Harmless registry s t) :
    Tidy env t where
  untracked stream := (harmless.tracked stream).trans (tidy.untracked stream)
  succeed := tidy.succeed.later harmless.tick

/-- What is quiet keeps it tidy. -/
theorem tidy_of_quiet {α : Type} {call : Call α} {s : Sys} (quiet : Within Quiet call s) :
    Within (Keeps (Tidy env)) call s := fun tidy => tidy.harmless (registry_of_quiet quiet)

/-- So does an initialisation. -/
theorem checkSystemReady_tidy (s : Sys) : Within (Keeps (Tidy env)) (checkSystemReady env) s := by
  intro tidy
  have initialised := checkSystemReady_initialised env s
  exact ⟨tracked_of_cleared initialised.reqStreams, tidy.succeed.later initialised.tick⟩

/-- So does a lazy one. -/
theorem ensureInitialized_tidy (s : Sys) :
    Within (Keeps (Tidy env)) (ensureInitialized env) s := by
  unfold ensureInitialized
  apply (this_within s).bind
  intro _ t _
  split
  · exact Within.pure () t
  apply (checkSystemReady_tidy t).bind
  intro ready t _
  split
  · exact Within.pure () t
  · exact Within.throw _ t

/-- So does a check of a stream. -/
theorem checkStreamTypeAvailable_tidy (stream : String) (s : Sys) :
    Within (Keeps (Tidy env)) (checkStreamTypeAvailable env stream) s := by
  apply (ensureInitialized_tidy s).bind
  intro _ t _
  apply (this_within t).bind
  intro _ t _
  split
  · exact Within.pure () t
  · exact Within.throw _ t

/-- While a stream is available, what happens is harmless for the registry. -/
def Calm (stream : String) (s t : Sys) : Prop :=
  Available s.iface stream → Harmless registry s t

instance {stream : String} : Std.Refl (Calm stream) := ⟨fun s _ => refl_of (Harmless registry) s⟩

instance {stream : String} : IsTrans Sys (Calm stream) where
  trans _ _ _ first second available :=
    trans_of (Harmless registry) (first available) (second ((first available).available available))

/-- Getting the type of an available stream is calm. -/
theorem getPbMsgTypeOfStream_calm (stream : String) (s : Sys) :
    Within (Calm stream) (getPbMsgTypeOfStream env stream) s := by
  intro available
  have looked : Within (Harmless registry) (protobufOf stream) s := protobufOf_harmless stream s
  unfold getPbMsgTypeOfStream
  rw [run_bind_of_ok (run_checkStreamTypeAvailable env available)]
  exact looked

/-- A receiver is made for the stream that is asked for. -/
theorem createReceiverForStream_stream {s t : Sys} {stream destInterface : String}
    {destPort : BitVec 32} {receiver : TrackedDataReceiver}
    (ran : (createReceiverForStream env stream destInterface destPort).run s = .ok receiver t) :
    receiver.stream = stream := by
  unfold createReceiverForStream at ran
  obtain ⟨_, s₁, _, ran⟩ := run_bind_eq_ok.mp ran
  obtain ⟨n, s₂, _, ran⟩ := run_bind_eq_ok.mp ran
  obtain ⟨iface, s₃, _, ran⟩ := run_bind_eq_ok.mp ran
  split at ran
  · cases ran
  · obtain ⟨⟨made, port⟩, s₄, built, ran⟩ := run_bind_eq_ok.mp ran
    obtain ⟨_, s₅, _, ran⟩ := run_bind_eq_ok.mp ran
    cases ran
    exact (TrackedDataReceiver.construct_ok built).2.2

/-- Where the check of its stream passes, making a receiver goes on from there. -/
theorem run_createReceiverForStream {s t : Sys} {stream : String} (destInterface : String)
    (destPort : BitVec 32) (checked : (checkStreamTypeAvailable env stream).run s = .ok () t) :
    (createReceiverForStream env stream destInterface destPort).run s =
      (createReceiverForStream env stream destInterface destPort).run t := by
  have available := checkStreamTypeAvailable_ok env checked
  unfold createReceiverForStream
  rw [run_bind_of_ok checked, run_bind_of_ok (run_checkStreamTypeAvailable env available)]

/-- One destination of one stream is tracked, and all removals from now on succeed. -/
structure Holds (env : Env) (receiver : TrackedDataReceiver) (s : Sys) : Prop where
  available : Available s.iface receiver.stream
  valid : env.utf8 receiver.dest = true
  tracked : ∀ k, s.iface.tracked k = if k = receiver.stream then [receiver.dest] else []
  succeed : DeletesSucceed env s

/-- A receiver that has been made is the only one. -/
theorem createReceiverForStream_holds {s t : Sys} {stream destInterface : String}
    {destPort : BitVec 32} {receiver : TrackedDataReceiver} (tidy : Tidy env s)
    (ran : (createReceiverForStream env stream destInterface destPort).run s = .ok receiver t) :
    Holds env receiver t := by
  have named := createReceiverForStream_stream ran
  have sound : Sound env s.iface := .of_untracked tidy.untracked
  have moves := (createReceiverForStream_moves env stream destInterface destPort s).of_ok ran
  have later := (createReceiverForStream_hears env stream destInterface destPort s).of_ok ran
  have kept : Sound env t.iface := (moves.steps sound).1
  obtain ⟨_, u, checked, _⟩ := run_bind_eq_ok.mp ran
  have ready := (checkStreamTypeAvailable_tidy stream s).of_ok checked tidy
  have available := checkStreamTypeAvailable_ok env checked
  have again := (run_createReceiverForStream destInterface destPort checked).symm.trans ran
  have tracked : ∀ k, t.iface.tracked k = if k = receiver.stream then [receiver.dest] else [] := by
    intro k
    rw [createReceiverForStream_ok env available again k, ready.untracked, ready.untracked, named]
    rfl
  have own : t.iface.tracked receiver.stream = [receiver.dest] := by
    rw [tracked, if_pos rfl]
  constructor
  · exact kept.available receiver.stream (by rw [own]; exact List.cons_ne_nil _ _)
  · exact kept.valid receiver.stream receiver.dest (by rw [own]; exact List.mem_cons_self)
  · exact tracked
  · exact tidy.succeed.later later.tick

/-- A receiver that could not be made leaves nothing behind. -/
theorem createReceiverForStream_tidy {s t : Sys} {stream destInterface : String}
    {destPort : BitVec 32} {e : Exn} (tidy : Tidy env s)
    (ran : (createReceiverForStream env stream destInterface destPort).run s = .error e t) :
    Tidy env t := by
  have later := (createReceiverForStream_hears env stream destInterface destPort s).of_error ran
  refine ⟨?_, tidy.succeed.later later.tick⟩
  cases checked : (checkStreamTypeAvailable env stream).run s with
  | error e' u =>
    have stopped : (createReceiverForStream env stream destInterface destPort).run s =
        .error e' u := run_bind_of_error checked
    rw [stopped] at ran
    cases ran
    exact ((checkStreamTypeAvailable_tidy stream s).of_error checked tidy).untracked
  | ok _ u =>
    have ready := (checkStreamTypeAvailable_tidy stream s).of_ok checked tidy
    have available := checkStreamTypeAvailable_ok env checked
    have again := (run_createReceiverForStream destInterface destPort checked).symm.trans ran
    intro k
    rcases createReceiverForStream_error env available ready.succeed again with
      ⟨_, same, _⟩ | ⟨receiver, _, _, puts, entered, _, registered, _, tracked⟩
    · rw [same]
      exact ready.untracked k
    · rw [tracked, ready.untracked, ready.untracked]
      split
      · rcases registered with ⟨_, rfl⟩ | ⟨_, rfl⟩
        · rfl
        · exact List.erase_cons_head receiver.dest []
      · rfl

/-- Harmless things keep a receiver the only one. -/
theorem Holds.harmless {receiver : TrackedDataReceiver} {s t : Sys} (holds : Holds env receiver s)
    (harmless : Harmless registry s t) : Holds env receiver t where
  available := harmless.available holds.available
  valid := holds.valid
  tracked k := (harmless.tracked k).trans (holds.tracked k)
  succeed := holds.succeed.later harmless.tick

/-- Its destruction leaves nothing behind. -/
theorem destroyReceiver_tidy {receiver : TrackedDataReceiver} {s : Sys}
    (holds : Holds env receiver s) : Tidy env (final ((receiver.destroy env).run s)) := by
  obtain ⟨_, erased⟩ := run_destroyReceiver env holds.available holds.valid holds.succeed rfl
  have later : Deaf s _ := destroyReceiver_deaf env receiver s
  refine ⟨?_, holds.succeed.later later.tick⟩
  intro k
  rw [erased]
  split
  · rw [holds.tracked, if_pos rfl]
    exact List.erase_cons_head receiver.dest []
  · rename_i other
    rw [holds.tracked, if_neg other]

variable {host : Host} {o : Options}

/-- Receiving a stream leaves nothing behind, unless the program stops there. -/
theorem receiveStream_tidy (passes : Nat) {p : Process} (tidy : Tidy host.env p.sys) :
    Tidy host.env (final ((receiveStream host o passes).run p)).sys ∨
      ∃ halt q, halt.isException = false ∧
        (receiveStream host o passes).run p = .error halt q := by
  let q : Process :=
    { p with console := p.console ++ ["Initializing " ++ o.streamName ++ " data stream..."] }
  have printed : (print ("Initializing " ++ o.streamName ++ " data stream...")).run p =
      .ok () q := rfl
  unfold receiveStream
  rw [run_bind_of_ok printed]
  cases created : (library
      (createReceiverForStream host.env o.streamName o.networkIface 0)).run q with
  | error halt r =>
    obtain ⟨e, _, thrown, _⟩ := library_error created
    left
    rw [run_bind_of_error created]
    exact createReceiverForStream_tidy tidy thrown
  | ok receiver r =>
    obtain ⟨made, _⟩ := library_ok created
    have holds := createReceiverForStream_holds tidy made
    have named := createReceiverForStream_stream made
    rw [run_bind_of_ok created]
    have body : Within (OnSys (Calm o.streamName)) (do
        library (receiver.setTimeout host.env 100)
        print ("Listening for " ++ o.streamName ++ " messages...")
        receiveLoop host o receiver passes 0) r := by
      have set : Within (Calm o.streamName) (receiver.setTimeout host.env 100) r.sys :=
        fun _ => registry_of_quiet (receiver.setTimeout_quiet host.env 100 r.sys)
      apply (library_within set).bind
      intro _ r _
      apply (print_within _ r).bind
      intro _ r _
      apply receiveLoop_within
      · exact getPbMsgTypeOfStream_calm o.streamName
      · exact fun pbMsgType s _ => receive_harmless host.env receiver.toDataReceiver pbMsgType s
    have ended := holds.harmless (body (named ▸ holds.available))
    rcases block_final (do
        library (receiver.setTimeout host.env 100)
        print ("Listening for " ++ o.streamName ++ " messages...")
        receiveLoop host o receiver passes 0) (library (receiver.destroy host.env)) r with
      destroyed | stopped
    · left
      rw [destroyed, final_library]
      exact destroyReceiver_tidy ended
    · exact .inr stopped

/-- When receiving a stream returns nothing is left behind. -/
theorem stream_tidy {passes : Nat} {p q : Process} (tidy : Tidy host.env p.sys)
    (ran : (stream host o passes).run p = .ok () q) : Tidy host.env q.sys := by
  have received := receiveStream_tidy (o := o) passes tidy
  rcases catching_ok ran with returned | ⟨e, r, caught, thrown, handled⟩
  · rw [returned] at received
    rcases received with tidy | ⟨halt, r, _, stopped⟩
    · exact tidy
    · cases stopped
  · rw [thrown] at received
    cases handled
    rcases received with tidy | ⟨halt, u, other, stopped⟩
    · exact tidy
    · cases stopped
      exact absurd (caught.symm.trans other) (by decide)

/-- A service of the dynamics module is tidy. -/
theorem service_tidy (name : String) (s : Sys) :
    Within (Keeps (Tidy env)) (callDynamicsService env name) s :=
  tidy_of_quiet (callStateService_quiet env _ _ _ s)

/-- The list of streams is tidy. -/
theorem listStreams_tidy (p : Process) :
    Within (OnSys (Keeps (Tidy host.env))) (listStreams host) p := by
  apply listStreams_within
  · intro s
    apply (ensureInitialized_tidy s).bind
    intro _ t _
    apply (this_within t).bind
    intro _ t _
    exact Within.pure _ t
  · intro stream s
    apply (checkStreamTypeAvailable_tidy stream s).bind
    intro _ t _ tidy
    exact tidy.harmless (protobufOf_harmless stream t)
  · exact fun node s => tidy_of_quiet (getState_quiet host.env node s)
  · intro s
    have measured : Within Quiet (getCam2ImuTransform host.env 0) s :=
      service_quiet host.env _ _ _ none _ s
    exact tidy_of_quiet measured

/-- When `main` returns nothing is left behind. -/
theorem run_tidy {passes : Nat} {status : Int} {p q : Process} (tidy : Tidy host.env p.sys)
    (ran : (run host o passes).run p = .ok status q) : Tidy host.env q.sys := by
  have connecting : Within (OnSys (Keeps (Tidy host.env))) (connect host passes) p :=
    connect_within host checkSystemReady_tidy passes p
  obtain ⟨connected, r, first, ran⟩ := run_bind_eq_ok.mp ran
  have joined := connecting.of_ok first tidy
  split at ran
  · split at ran
    · obtain ⟨_, u, listed, ended⟩ := run_bind_eq_ok.mp ran
      cases ended
      exact (listStreams_tidy r).of_ok listed joined
    · obtain ⟨started, u, asked, ran⟩ := run_bind_eq_ok.mp ran
      have starting : Within (OnSys (Keeps (Tidy host.env))) (startAsked host o) r :=
        startAsked_within host o service_tidy r
      have begun := starting.of_ok asked joined
      split at ran
      · obtain ⟨_, v, streamed, ran⟩ := run_bind_eq_ok.mp ran
        obtain ⟨_, w, stopped, ran⟩ := run_bind_eq_ok.mp ran
        obtain ⟨_, x, reported, ended⟩ := run_bind_eq_ok.mp ran
        cases ended
        have stopping : Within (OnSys (Keeps (Tidy host.env))) (stopStarted host o) v :=
          stopStarted_within host o service_tidy v
        have reporting : Within (OnSys (Keeps (Tidy host.env))) (report o) w := report_within o w
        exact reporting.of_ok reported (stopping.of_ok stopped (stream_tidy begun streamed))
      · cases ran
        exact begun
  · cases ran
    exact joined

/-- The destructor of an object that tracks nothing does nothing. -/
theorem run_destroy_untracked {traversal : Traversal} {s : Sys}
    (untracked : ∀ stream, s.iface.tracked stream = []) :
    (destroy env traversal).run s = .ok [] s := by
  have cleaned : (cleanUpRequestedStreams env traversal).run s = .ok () s :=
    run_cleanUp_nil env traversal s.iface.reqEpoch fun stream _ => untracked stream
  have silent : (s.iface.reqStreams.keys.filter fun stream =>
      decide (0 < (s.iface.tracked stream).length)) = [] := by
    apply List.filter_eq_nil_iff.mpr
    intro stream _
    rw [untracked]
    decide
  have tried (handle : Exn → Call (List String)) :
      (tryCatch (do cleanUpRequestedStreams env traversal; return []) handle).run s =
        .ok [] s := by
    rw [run_tryCatch, run_bind_of_ok cleaned]
    rfl
  unfold destroy
  rw [run_bind_of_ok (tried _), run_this_bind, silent]
  rfl

/-- **A clean exit.** When the device acknowledges every removal, the destructor of the object has
nothing to do: a program whose `main` returns exits with its status, and nothing that it has
registered is tracked or left at the device, whatever has failed before. -/
theorem start_cleans (host : Host) (o : Options) (passes : Nat)
    (succeed : DeletesSucceed host.env (beginning o).sys) :
    (∀ status p, (run host o passes).run (beginning o) = .ok status p →
      (run host o passes).finish host (beginning o) = .exited status p) ∧
    (start host o passes).Exits fun status p =>
      (run host o passes).run (beginning o) = .ok status p ∧
        (∀ stream, p.sys.iface.tracked stream = []) ∧
        ∀ device stream d, ¬Ledger.Left device (changes p.sys.world.trace) stream d := by
  have tidy {status : Int} {p : Process}
      (ran : (run host o passes).run (beginning o) = .ok status p) : Tidy host.env p.sys :=
    run_tidy ⟨(beginning_blank o).tracked, succeed⟩ ran
  have destroyed {status : Int} {p : Process}
      (ran : (run host o passes).run (beginning o) = .ok status p) :
      (library (destroy host.env .aliased)).run p = .ok [] p :=
    run_library_ok (run_destroy_untracked (tidy ran).untracked)
  have silent (p : Process) : { p with console := p.console ++ [] } = p := by
    rw [List.append_nil]
  constructor
  · intro status p ran
    unfold Program.finish
    simp only [ran, destroyed ran]
    rw [silent]
  · unfold start
    split
    · exact trivial
    split
    · exact trivial
    apply Program.finish_exits
    intro status p report q ran ended
    rw [destroyed ran] at ended
    cases ended
    rw [silent]
    refine ⟨ran, (tidy ran).untracked, ?_⟩
    intro device stream d left
    have tracked := (run_booked host o ran).covers device stream d left
    have none : p.sys.ledger.tracked stream = [] := (tidy ran).untracked stream
    rw [none] at tracked
    exact absurd tracked List.not_mem_nil

/-- A device that acknowledges everything is left as it was found: the destination registered for
the receiver is removed when the receiver is destroyed. -/
theorem start_cleans_pose :
    ∃ p, start obligingHost poseOptions 4 = .exited exitSuccess p ∧
      changes p.sys.world.trace =
        [.put "pose" ["192.168.0.5:49152"], .delete "pose" ["192.168.0.5:49152"]] ∧
      (∀ stream, p.sys.iface.tracked stream = []) ∧
      ∀ device stream d, ¬Ledger.Left device (changes p.sys.world.trace) stream d := by
  have exits (host : Host) (succeed : DeletesSucceed host.env (beginning poseOptions).sys)
      (seen : (start host poseOptions 4).exit.any (fun (status, p) =>
        decide (status = exitSuccess ∧ changes p.sys.world.trace =
          [.put "pose" ["192.168.0.5:49152"], .delete "pose" ["192.168.0.5:49152"]])) = true) :
      ∃ p, start host poseOptions 4 = .exited exitSuccess p ∧
        changes p.sys.world.trace =
          [.put "pose" ["192.168.0.5:49152"], .delete "pose" ["192.168.0.5:49152"]] ∧
        (∀ stream, p.sys.iface.tracked stream = []) ∧
        ∀ device stream d, ¬Ledger.Left device (changes p.sys.world.trace) stream d := by
    obtain ⟨status, p, ended, found⟩ := Ending.exited_of_any seen
    obtain ⟨rfl, changed⟩ := of_decide_eq_true found
    have cleaned := (start_cleans host poseOptions 4 succeed).2
    rw [ended] at cleaned
    exact ⟨p, ended, changed, cleaned.2⟩
  exact exits obligingHost (fun _ _ _ _ _ _ => rfl) (by decide +kernel)

end CleanExits

end RcdynamicsStream

end RcDynamics
