import RcDynamics.Destinations
import RcDynamics.Session

/-!
# Moves

What the operations of a session can do, said once. A move touches nothing, or initialises an
object that was not initialised, or looks up a message type, or asks a receiver for a message, or
enters acknowledged requests about the destinations of an available stream, or loses track of
acknowledged removals. Every operation except an explicit `checkSystemReady` is a path of moves
from every state, whether it returns or throws, so an invariant of moves is an invariant of all of
them.
-/

namespace RcDynamics

open Effect

/-- One move of an operation. -/
inductive Move (env : Env) (s : Sys) : Sys → Prop where
  | quiet {t : Sys} (quiet : Quiet s t) : Move env s t
  | initialise {t : Sys} (unset : s.iface.initialized = false)
      (initialised : RemoteInterface.Initialised env s t) : Move env s t
  | touch {stream : String} (available : Available s.iface stream) :
      Move env s { s with iface := s.iface.touchProtobuf stream }
  | listen (pbMsgType : String) :
      Move env s (s.advance s.world.tick [.receive pbMsgType])
  | register {stream destination : String} {events : List Event} {t : Sys}
      (available : Available s.iface stream) (valid : env.utf8 destination = true)
      (extends' : Sys.Extends events s t) (changed : changes events = [.put stream [destination]])
      (silent : Silent events) :
      Move env s (t.track stream (t.iface.tracked stream ++ [destination]))
  | release {stream : String} {groups : List (List String)} {events : List Event} {t : Sys}
      (available : Available s.iface stream) (extends' : Sys.Extends events s t)
      (changed : changes events = groups.map (.delete stream)) (silent : Silent events) :
      Move env s (t.track stream (groups.flatten.foldl List.erase (t.iface.tracked stream)))
  | lose {stream : String} {groups : List (List String)} {events : List Event} {t : Sys}
      (extends' : Sys.Extends events s t)
      (changed : changes events = groups.map (.delete stream)) (silent : Silent events) :
      Move env s t

/-- Any number of moves. -/
abbrev Moves (env : Env) : Sys → Sys → Prop := Relation.ReflTransGen (Move env)

/-- A quiet computation moves quietly. -/
theorem within_moves {env : Env} {α : Type} {m : Call α} {s : Sys} (quiet : Within Quiet m s) :
    Within (Moves env) m s := quiet.mono fun _ moved => .single (.quiet moved)

/-- An available stream stays available: only an object that is not initialised forgets streams. -/
theorem Move.available {env : Env} {s t : Sys} {stream : String} (move : Move env s t)
    (available : Available s.iface stream) : Available t.iface stream := by
  cases move with
  | quiet quiet => rwa [quiet.iface]
  | initialise unset _ => exact absurd (available.initialized.symm.trans unset) (by decide)
  | touch _ => exact available.touch _
  | listen _ => exact available
  | register _ _ extends' _ _ =>
    have kept := extends'.iface ▸ available
    exact kept.track _ _
  | release _ extends' _ _ =>
    have kept := extends'.iface ▸ available
    exact kept.track _ _
  | lose extends' _ _ => exact extends'.iface ▸ available

/-- An available stream stays available along moves. -/
theorem Moves.available {env : Env} {s t : Sys} {stream : String} (moves : Moves env s t)
    (available : Available s.iface stream) : Available t.iface stream := by
  induction moves with
  | refl => exact available
  | tail _ move ih => exact move.available ih

namespace RemoteInterface

variable (env : Env)

/-- A lazy initialisation is a move. -/
theorem ensureInitialized_moves (s : Sys) : Within (Moves env) (ensureInitialized env) s := by
  by_cases ready : s.iface.initialized = true
  · exact Within.of_run (run_ensureInitialized env ready) .refl
  · unfold ensureInitialized
    refine (within_moves (this_within s)).bind fun _ _ ran => ?_
    cases ran
    rw [if_neg ready]
    have initialised := checkSystemReady_initialised env s
    refine Within.bind (initialised.mono fun t done => .single ?_) fun done t _ => ?_
    · exact .initialise (Bool.eq_false_iff.mpr ready) done
    · cases done with
      | true => exact Within.pure () t
      | false => exact Within.throw _ t

/-- The check of a stream moves at most by an initialisation. -/
theorem checkStreamTypeAvailable_moves (stream : String) (s : Sys) :
    Within (Moves env) (checkStreamTypeAvailable env stream) s := by
  refine (ensureInitialized_moves env s).bind fun _ t _ => ?_
  refine (within_moves (this_within t)).bind fun iface t _ => ?_
  split
  · exact Within.pure () t
  · exact Within.throw _ t

/-- An operation that begins with the check of a stream moves when it moves from every state in
which the stream is available. -/
theorem moves_of_available {α : Type} {stream : String} {next : Unit → Call α} (s : Sys)
    (moves : ∀ t, Available t.iface stream →
      Within (Moves env) (checkStreamTypeAvailable env stream >>= next) t) :
    Within (Moves env) (checkStreamTypeAvailable env stream >>= next) s := by
  refine (checkStreamTypeAvailable_moves env stream s).bind fun _ t ran => ?_
  have available := checkStreamTypeAvailable_ok env ran
  have checked := moves t available
  unfold Within at checked
  rwa [run_bind_of_ok (run_checkStreamTypeAvailable env available)] at checked

/-- Adding a destination moves. -/
theorem addDestinationToStream_moves (stream destination : String) (s : Sys) :
    Within (Moves env) (addDestinationToStream env stream destination) s := by
  refine moves_of_available env s fun t available => ?_
  obtain ⟨events, u, extends', silent, ⟨valid, changed, ran⟩ | ⟨changed, e, ran⟩⟩ :=
    run_addDestinationToStream env available destination
  · exact Within.of_run ran (.single (.register available valid extends' changed silent))
  · exact Within.of_run ran (.single (.quiet
      ⟨extends'.iface, extends'.tick, events, extends'.trace, changed, silent⟩))

/-- Removing a destination moves. -/
theorem deleteDestinationFromStream_moves (stream destination : String) (s : Sys) :
    Within (Moves env) (deleteDestinationFromStream env stream destination) s := by
  refine moves_of_available env s fun t available => ?_
  obtain ⟨events, u, ⟨removal, ran⟩ | ⟨removal, e, _, ran⟩⟩ :=
    run_deleteDestinationFromStream env available destination
  · have changed : changes events = [[destination]].map (.delete stream) := removal.changed
    have released : Move env t _ := .release available removal.toExtends changed removal.silent
    exact Within.of_run ran (.single released)
  · exact Within.of_run ran (.single (.quiet
      ⟨removal.iface, removal.tick, events, removal.trace, removal.changed, removal.silent⟩))

/-- Removing a list of the caller's moves. -/
theorem deleteDestinationsFromStream_moves (stream : String) (destinations : List String)
    (s : Sys) :
    Within (Moves env) (deleteDestinationsFromStream env stream (.list destinations)) s := by
  refine moves_of_available env s fun t available => ?_
  obtain ⟨events, u, removals, ⟨all, ran⟩ | ⟨stopped, e, _, ran⟩⟩ :=
    run_deleteDestinationsFromStream env available destinations
  · have changed := removals.changed
    rw [all] at changed
    have released : Move env t _ := .release available removals.toExtends changed removals.silent
    rw [flatten_deletionGroups] at released
    exact Within.of_run ran (.single released)
  · exact Within.of_run ran (.single (.lose removals.toExtends removals.changed removals.silent))

/-- Getting the streams moves at most by an initialisation. -/
theorem getAvailableStreams_moves (s : Sys) : Within (Moves env) (getAvailableStreams env) s := by
  refine (ensureInitialized_moves env s).bind fun _ t _ => ?_
  exact (within_moves (this_within t)).bind fun _ t _ => Within.pure _ t

/-- Looking up the type of an available stream moves. -/
theorem protobufOf_moves {s : Sys} {stream : String} (available : Available s.iface stream) :
    Within (Moves env) (protobufOf stream) s := by
  have touched : Move env s { s with iface := s.iface.touchProtobuf stream } := .touch available
  exact .single touched

/-- Getting the type of a stream moves. -/
theorem getPbMsgTypeOfStream_moves (stream : String) (s : Sys) :
    Within (Moves env) (getPbMsgTypeOfStream env stream) s :=
  (checkStreamTypeAvailable_moves env stream s).bind fun _ _ ran =>
    protobufOf_moves env (checkStreamTypeAvailable_ok env ran)

/-- Getting the destinations of a stream moves at most by an initialisation. -/
theorem getDestinationsOfStream_moves (stream : String) (s : Sys) :
    Within (Moves env) (getDestinationsOfStream env stream) s := by
  refine (checkStreamTypeAvailable_moves env stream s).bind fun _ t _ => within_moves ?_
  refine (this_within t).bind fun _ t _ => ?_
  refine (cprGetWithRetry_aside env (by simp) _ t).bind fun r t _ => ?_
  refine (handleCPRResponse_within r t).bind fun _ t _ => ?_
  refine (parseJson_within env _ t).bind fun j t _ => ?_
  exact lift_within _ t

/-- A receiver is destroyed with moves. -/
theorem destroyReceiver_moves (receiver : TrackedDataReceiver) (s : Sys) :
    Within (Moves env) (receiver.destroy env) s := by
  refine Within.bind (Within.tryCatch
    (deleteDestinationFromStream_moves env receiver.stream receiver.dest s) ?_) ?_
  · intro e t _
    split
    · exact Within.pure () t
    · exact Within.throw e t
  · exact fun _ t _ => within_moves (closeSocket_quiet receiver.sockfd t)

/-- Requesting a stream and waiting for its first message moves. -/
theorem establish_moves (receiver : TrackedDataReceiver) {stream : String} (destination : String)
    {s : Sys} (available : Available s.iface stream) :
    Within (Moves env) (establish env receiver stream destination) s := by
  have added := addDestinationToStream_moves env stream destination s
  refine added.bind fun _ t ran => ?_
  have kept := Moves.available (added.of_ok ran) available
  have set := receiver.setTimeout_quiet env initialTimeOut t
  refine (within_moves set).bind fun _ u ran => ?_
  have known : Available u.iface stream := (set.of_ok ran).iface ▸ kept
  refine (protobufOf_moves env known).bind fun pbMsgType u _ => ?_
  have heard : Within (Moves env) (receiver.receive env pbMsgType) u :=
    .head (.listen pbMsgType) (.single (.quiet (receiver.run_receive env pbMsgType u)))
  refine heard.bind fun msg u _ => within_moves ?_
  split
  · exact explainTimeout_quiet env u
  · exact receiver.setTimeout_quiet env 100 u

/-- Creating a receiver moves. -/
theorem createReceiverForStream_moves (stream destInterface : String) (destPort : BitVec 32)
    (s : Sys) :
    Within (Moves env) (createReceiverForStream env stream destInterface destPort) s := by
  refine (checkStreamTypeAvailable_moves env stream s).bind fun _ t ran => ?_
  have available := checkStreamTypeAvailable_ok env ran
  have asked : Within Quiet tick t := tick_aside t
  refine (within_moves asked).bind fun n u ran => ?_
  have known : Available u.iface stream := (asked.of_ok ran).iface ▸ available
  have seen : Within Quiet this u := this_within u
  refine (within_moves seen).bind fun iface v ran => ?_
  have still : Available v.iface stream := (seen.of_ok ran).iface ▸ known
  cases getThisHostsIP (env.getifaddrs n) iface.visardAddrs destInterface with
  | none => exact Within.throw _ v
  | some destAddress =>
    have built := TrackedDataReceiver.construct_quiet env destAddress destPort stream v
    refine (within_moves built).bind fun (receiver, port) w ran => ?_
    have kept : Available w.iface stream := (built.of_ok ran).iface ▸ still
    refine Within.bind (Within.unwinding (establish_moves env receiver _ kept) ?_) ?_
    · exact fun _ x _ => destroyReceiver_moves env receiver x
    · exact fun _ x _ => Within.pure receiver x

end RemoteInterface

/-- Discarding a value does not change what the operation does. -/
theorem within_discard {R : Sys → Sys → Prop} [Std.Refl R] [IsTrans Sys R] {α : Type}
    {receivers : List TrackedDataReceiver} {call : Call α} {s : Sys} (within : Within R call s) :
    Within R (discard receivers call) s := within.bind fun _ t _ => Within.pure receivers t

open RemoteInterface in
/-- Every operation but an explicit `checkSystemReady` moves. -/
theorem Operation.perform_moves (env : Env) (receivers : List TrackedDataReceiver)
    {operation : Operation} (implicit : operation ≠ .checkSystemReady) (s : Sys) :
    Within (Moves env) (operation.perform env receivers) s := by
  cases operation with
  | checkSystemReady => exact absurd rfl implicit
  | getDynamicsState => exact within_discard (within_moves (getState_quiet env _ s))
  | getSlamState => exact within_discard (within_moves (getState_quiet env _ s))
  | getStereoInsState => exact within_discard (within_moves (getState_quiet env _ s))
  | restart => exact within_discard (within_moves (callStateService_quiet env _ _ _ s))
  | restartSlam => exact within_discard (within_moves (callStateService_quiet env _ _ _ s))
  | start => exact within_discard (within_moves (callStateService_quiet env _ _ _ s))
  | startSlam => exact within_discard (within_moves (callStateService_quiet env _ _ _ s))
  | stop => exact within_discard (within_moves (callStateService_quiet env _ _ _ s))
  | stopSlam => exact within_discard (within_moves (callStateService_quiet env _ _ _ s))
  | resetSlam => exact within_discard (within_moves (callStateService_quiet env _ _ _ s))
  | saveSlamMap timeoutMs =>
    exact within_discard (within_moves (service_quiet env _ _ _ _ _ s))
  | loadSlamMap timeoutMs =>
    exact within_discard (within_moves (service_quiet env _ _ _ _ _ s))
  | removeSlamMap timeoutMs =>
    exact within_discard (within_moves (service_quiet env _ _ _ _ _ s))
  | getSlamTrajectory startTime endTime timeoutMs =>
    exact within_discard (within_moves (service_quiet env _ _ _ _ _ s))
  | getCam2ImuTransform timeoutMs =>
    exact within_discard (within_moves (service_quiet env _ _ _ _ _ s))
  | getAvailableStreams => exact within_discard (getAvailableStreams_moves env s)
  | getPbMsgTypeOfStream stream =>
    exact within_discard (getPbMsgTypeOfStream_moves env stream s)
  | getDestinationsOfStream stream =>
    exact within_discard (getDestinationsOfStream_moves env stream s)
  | addDestinationToStream stream destination =>
    exact within_discard (addDestinationToStream_moves env stream destination s)
  | deleteDestinationFromStream stream destination =>
    exact within_discard (deleteDestinationFromStream_moves env stream destination s)
  | deleteDestinationsFromStream stream destinations =>
    exact within_discard (deleteDestinationsFromStream_moves env stream destinations s)
  | createReceiverForStream stream destInterface destPort =>
    exact (createReceiverForStream_moves env stream destInterface destPort s).bind
      fun receiver t _ => Within.pure (receivers ++ [receiver]) t
  | destroyReceiver index =>
    rw [Operation.perform]
    cases receivers[index]? with
    | none => exact Within.pure receivers s
    | some receiver =>
      exact (destroyReceiver_moves env receiver s).bind fun _ t _ => Within.pure _ t

end RcDynamics
