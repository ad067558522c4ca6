import RcDynamics.Receivers

/-!
# Description of the device's streams

An object that calls itself initialised describes the last answer to `/datastreams`, in every
reachable state. Between the check of a stream and the use of its message type nothing re-reads
the streams, so the type in use is the one that this answer gives the stream.
-/

namespace RcDynamics

open Effect

/-- A later state with the same streams and types, to which no streams have been told since,
describes the last answer as well. -/
theorem described_later {env : Env} {s t : Sys} {events : List Event} (described : Described env s)
    (trace : t.world.trace = s.world.trace ++ events) (untold : streamAnswers events = [])
    (streams : t.iface.availStreams = s.iface.availStreams)
    (types : ∀ name : String, t.iface.protobufMap[name]? = s.iface.protobufMap[name]?) :
    Described env t := by
  obtain ⟨r, entries, last, announced, describes⟩ := described
  refine ⟨r, entries, ?_, announced, streams.trans describes.streams, fun name => ?_⟩
  · rw [trace, streamAnswers_append, untold, List.append_nil]
    exact last
  · rw [types, describes.types]

/-- A described object has a message type for exactly the streams it lists. -/
theorem Describes.mem_protobufMap {iface : RemoteInterface} {entries : List (String × String)}
    (describes : Describes iface entries) (name : String) :
    name ∈ iface.protobufMap ↔ name ∈ iface.availStreams := by
  rw [describes.streams, ← lastType_isSome, ← describes.types,
    Std.TreeMap.mem_iff_isSome_getElem?]

/-- The type of a stream that is listed is there, so looking it up inserts nothing. -/
theorem getElem?_touchProtobuf {iface : RemoteInterface} {stream : String}
    (present : stream ∈ iface.protobufMap) (name : String) :
    (iface.touchProtobuf stream).protobufMap[name]? = iface.protobufMap[name]? := by
  unfold RemoteInterface.touchProtobuf
  rw [Std.TreeMap.getElem?_insertIfNew, if_neg fun missing => missing.2 present]

/-- Silent events leave an object described. -/
theorem Sys.Extends.described {env : Env} {events : List Event} {s t : Sys}
    (extends' : Sys.Extends events s t) (silent : Silent events) (described : Described env s) :
    Described env t :=
  described_later described extends'.trace silent.streamAnswers
    (congrArg RemoteInterface.availStreams extends'.iface) fun name => by rw [extends'.iface]

/-- Entering destinations leaves an object described. -/
theorem described_track {env : Env} {s : Sys} (described : Described env s) (stream : String)
    (destinations : List String) : Described env (s.track stream destinations) :=
  described_later described (List.append_nil _).symm rfl rfl fun _ => rfl

/-- Moves keep an object described. -/
theorem Move.described {env : Env} {s t : Sys} (move : Move env s t)
    (described : s.iface.initialized = true → Described env s) :
    t.iface.initialized = true → Described env t := by
  intro ready
  cases move with
  | quiet quiet =>
    obtain ⟨events, trace, _, silent⟩ := quiet.trace
    have before : s.iface.initialized = true := quiet.iface ▸ ready
    exact Sys.Extends.described ⟨quiet.iface, quiet.tick, trace⟩ silent (described before)
  | initialise _ initialised => exact initialised.described ready
  | @touch stream available =>
    obtain ⟨r, entries, last, announced, describes⟩ := described available.initialized
    have present := (describes.mem_protobufMap stream).mpr available.listed
    exact described_later (described available.initialized) (List.append_nil _).symm rfl rfl
      (getElem?_touchProtobuf present)
  | listen pbMsgType => exact described_later (described ready) rfl rfl rfl fun _ => rfl
  | register available _ extends' _ silent =>
    exact described_track (extends'.described silent (described available.initialized)) _ _
  | release available extends' _ silent =>
    exact described_track (extends'.described silent (described available.initialized)) _ _
  | lose extends' _ silent =>
    exact extends'.described silent (described (extends'.iface ▸ ready))

/-- Moves keep an object described, however many they are. -/
theorem Moves.described {env : Env} {s t : Sys} (moves : Moves env s t)
    (described : s.iface.initialized = true → Described env s) :
    t.iface.initialized = true → Described env t := by
  induction moves with
  | refl => exact described
  | tail _ move ih => exact move.described ih

/-- The object knows a stream, with this message type. -/
structure Knows (stream pbMsgType : String) (iface : RemoteInterface) : Prop where
  available : Available iface stream
  typed : iface.protobufMap[stream]? = some pbMsgType

/-- A stream that is known stays known with its type, no streams are told, and receivers are
asked for messages of that type only. -/
def Typed (stream pbMsgType : String) (s t : Sys) : Prop :=
  Knows stream pbMsgType s.iface → Knows stream pbMsgType t.iface ∧
    ∃ events, t.world.trace = s.world.trace ++ events ∧ streamAnswers events = [] ∧
      ∀ asked ∈ receives events, asked = pbMsgType

/-- Standing still asks for nothing. -/
instance Typed.refl (stream pbMsgType : String) : Std.Refl (Typed stream pbMsgType) :=
  ⟨fun _ knows => ⟨knows, [], (List.append_nil _).symm, rfl, fun _ none => by cases none⟩⟩

/-- What asks for the type, followed by what asks for it, asks for it. -/
instance Typed.trans (stream pbMsgType : String) : IsTrans Sys (Typed stream pbMsgType) where
  trans s t u first second knows := by
    obtain ⟨still, early, earlyTrace, earlyUntold, earlyAsked⟩ := first knows
    obtain ⟨after, late, lateTrace, lateUntold, lateAsked⟩ := second still
    refine ⟨after, early ++ late, ?_, ?_, fun asked member => ?_⟩
    · rw [lateTrace, earlyTrace, List.append_assoc]
    · rw [streamAnswers_append, earlyUntold, lateUntold, List.append_nil]
    · rw [receives_append] at member
      exact (List.mem_append.mp member).elim (earlyAsked asked) (lateAsked asked)

/-- Silent events that leave what is known ask for nothing. -/
theorem Typed.of_silent {stream pbMsgType : String} {s t : Sys} {events : List Event}
    (trace : t.world.trace = s.world.trace ++ events) (silent : Silent events)
    (keeps : Knows stream pbMsgType s.iface → Knows stream pbMsgType t.iface) :
    Typed stream pbMsgType s t := fun knows =>
  ⟨keeps knows, events, trace, silent.streamAnswers, fun asked member => by
    rw [silent.receives] at member
    cases member⟩

/-- Being quiet asks for nothing. -/
theorem Typed.of_quiet {stream pbMsgType : String} {s t : Sys} (quiet : Quiet s t) :
    Typed stream pbMsgType s t := by
  obtain ⟨events, trace, _, silent⟩ := quiet.trace
  exact Typed.of_silent trace silent fun knows => quiet.iface ▸ knows

/-- A quiet computation asks for nothing. -/
theorem typed_of_quiet {stream pbMsgType : String} {α : Type} {m : Call α} {s : Sys}
    (quiet : Within Quiet m s) : Within (Typed stream pbMsgType) m s :=
  quiet.mono fun _ => Typed.of_quiet

/-- Entering destinations leaves what is known. -/
theorem typed_track {stream pbMsgType k : String} {s t : Sys} {events : List Event}
    (extends' : Sys.Extends events s t) (silent : Silent events) (destinations : List String) :
    Typed stream pbMsgType s (t.track k destinations) :=
  Typed.of_silent extends'.trace silent fun knows =>
    have same := extends'.iface ▸ knows
    ⟨same.available.track k destinations, same.typed⟩

namespace RemoteInterface

variable (env : Env)

/-- Looking up the type of a known stream gives that type, and leaves what is known. -/
theorem run_protobufOf {stream pbMsgType : String} {s : Sys}
    (knows : Knows stream pbMsgType s.iface) :
    ∃ t, (protobufOf stream).run s = .ok pbMsgType t ∧ Typed stream pbMsgType s t := by
  have present : stream ∈ s.iface.protobufMap := by
    rw [Std.TreeMap.mem_iff_isSome_getElem?, knows.typed]
    rfl
  have kept := getElem?_touchProtobuf present
  refine ⟨{ s with iface := s.iface.touchProtobuf stream }, ?_, ?_⟩
  · have found : (s.iface.touchProtobuf stream).protobufMap.getD stream "" = pbMsgType := by
      rw [Std.TreeMap.getD_eq_getD_getElem?, kept, knows.typed]
      rfl
    unfold protobufOf
    rw [run_setIface_bind, run_this_bind]
    exact congrArg (EStateM.Result.ok · _) found
  · exact Typed.of_silent (List.append_nil _).symm .nil fun _ =>
      ⟨knows.available.touch _, (kept stream).trans knows.typed⟩

/-- Adding a destination to a known stream asks for nothing. -/
theorem addDestinationToStream_typed {stream pbMsgType : String} {s : Sys}
    (knows : Knows stream pbMsgType s.iface) (destination : String) :
    Within (Typed stream pbMsgType) (addDestinationToStream env stream destination) s := by
  obtain ⟨events, t, extends', silent, ⟨_, _, ran⟩ | ⟨_, e, ran⟩⟩ :=
    run_addDestinationToStream env knows.available destination
  · exact Within.of_run ran (typed_track extends' silent _)
  · exact Within.of_run ran (Typed.of_silent extends'.trace silent fun knows =>
      extends'.iface ▸ knows)

/-- Removing a destination of a known stream asks for nothing. -/
theorem deleteDestinationFromStream_typed {stream pbMsgType : String} {s : Sys}
    (knows : Knows stream pbMsgType s.iface) (destination : String) :
    Within (Typed stream pbMsgType) (deleteDestinationFromStream env stream destination) s := by
  obtain ⟨events, t, ⟨removal, ran⟩ | ⟨removal, e, _, ran⟩⟩ :=
    run_deleteDestinationFromStream env knows.available destination
  · exact Within.of_run ran (typed_track removal.toExtends removal.silent _)
  · exact Within.of_run ran (Typed.of_silent removal.trace removal.silent fun knows =>
      removal.iface ▸ knows)

/-- Destroying a receiver of a known stream asks for nothing. -/
theorem destroyReceiver_typed {receiver : TrackedDataReceiver} {pbMsgType : String} {s : Sys}
    (knows : Knows receiver.stream pbMsgType s.iface) :
    Within (Typed receiver.stream pbMsgType) (receiver.destroy env) s := by
  refine Within.bind (Within.tryCatch
    (deleteDestinationFromStream_typed env knows receiver.dest) ?_) ?_
  · intro e t _
    split
    · exact Within.pure () t
    · exact Within.throw e t
  · exact fun _ t _ => typed_of_quiet (closeSocket_quiet receiver.sockfd t)

/-- Requesting a known stream and waiting for its first message asks for its type. -/
theorem establish_typed {stream pbMsgType : String} {s : Sys}
    (knows : Knows stream pbMsgType s.iface) (receiver : TrackedDataReceiver)
    (destination : String) :
    Within (Typed stream pbMsgType) (establish env receiver stream destination) s := by
  have added := addDestinationToStream_typed env knows destination
  refine added.bind fun _ t ran => ?_
  have kept := (added.of_ok ran knows).1
  have set := receiver.setTimeout_quiet env initialTimeOut t
  refine (typed_of_quiet set).bind fun _ u ran => ?_
  have known : Knows stream pbMsgType u.iface := (set.of_ok ran).iface ▸ kept
  obtain ⟨v, found, typed⟩ := run_protobufOf known
  refine Within.bind (Within.of_run found typed) fun asked w ran => ?_
  -- The type that the receiver is asked for is the one just looked up.
  rw [found] at ran
  cases ran
  refine Within.bind ?_ fun msg w _ => typed_of_quiet ?_
  · have heard : Typed stream pbMsgType v (v.advance v.world.tick [.receive pbMsgType]) :=
      fun knows => ⟨knows, _, rfl, rfl, fun asked member => List.mem_singleton.mp member⟩
    exact trans_of (Typed stream pbMsgType) heard
      (Typed.of_quiet (receiver.run_receive env pbMsgType v))
  · split
    · exact explainTimeout_quiet env w
    · exact receiver.setTimeout_quiet env 100 w

/-- Creating a receiver for a known stream asks for its type only. -/
theorem createReceiverForStream_typed {stream pbMsgType : String} {s : Sys}
    (knows : Knows stream pbMsgType s.iface) (destInterface : String) (destPort : BitVec 32) :
    Within (Typed stream pbMsgType)
      (createReceiverForStream env stream destInterface destPort) s := by
  refine Within.bind (Within.of_run (run_checkStreamTypeAvailable env knows.available)
    (refl_of _ s)) fun _ t ran => ?_
  rw [run_checkStreamTypeAvailable env knows.available] at ran
  cases ran
  have asked : Within Quiet tick s := tick_aside s
  refine (typed_of_quiet asked).bind fun n t ran => ?_
  have known : Knows stream pbMsgType t.iface := (asked.of_ok ran).iface ▸ knows
  have seen : Within Quiet this t := this_within t
  refine (typed_of_quiet seen).bind fun iface u ran => ?_
  have still : Knows stream pbMsgType u.iface := (seen.of_ok ran).iface ▸ known
  cases getThisHostsIP (env.getifaddrs n) iface.visardAddrs destInterface with
  | none => exact Within.throw _ u
  | some destAddress =>
    have built := TrackedDataReceiver.construct_quiet env destAddress destPort stream u
    refine (typed_of_quiet built).bind fun (receiver, port) v ran => ?_
    have kept : Knows stream pbMsgType v.iface := (built.of_ok ran).iface ▸ still
    have streamEq := (TrackedDataReceiver.construct_ok ran).2.2
    have established :=
      establish_typed env kept receiver (destAddress ++ ":" ++ toString port.toNat)
    refine Within.bind (Within.unwinding established ?_) fun _ w _ => Within.pure receiver w
    intro e w ran
    have after := (established.of_error ran kept).1
    rw [← streamEq] at after ⊢
    exact destroyReceiver_typed env after

end RemoteInterface

namespace Session

variable {env : Env}

/-- Every reachable object that calls itself initialised describes the last answer. -/
theorem Reachable.described {s : Session} (reached : s.Reachable env) :
    s.sys.iface.initialized = true → Described env s.sys := by
  apply Reachable.induction (P := fun s => s.iface.initialized = true → Described env s) _ _ _
    reached
  · exact fun _ _ ready => absurd ready Bool.false_ne_true
  · exact fun _ _ initialised => initialised.described
  · exact fun _ _ moves described => moves.described described

/-- An initialised object describes one complete answer of the device, and what passes the check
of a stream uses the type of that answer. -/
theorem describes_one_answer {s : Session} (reached : s.Reachable env) :
    (s.sys.iface.initialized = true →
      ∃ r entries, (streamAnswers s.sys.world.trace).getLast? = some r ∧ Announces env r entries ∧
        s.sys.iface.availStreams = entries.map Prod.fst ∧
        (∀ name, name ∈ s.sys.iface.protobufMap ↔ name ∈ s.sys.iface.availStreams) ∧
        ∀ name, s.sys.iface.protobufMap[name]? = lastType entries name) ∧
      ∀ stream checked,
        (RemoteInterface.checkStreamTypeAvailable env stream).run s.sys = .ok () checked →
        ∃ r entries pbMsgType, (streamAnswers checked.world.trace).getLast? = some r ∧
          Announces env r entries ∧ lastType entries stream = some pbMsgType ∧
          (∃ t, (RemoteInterface.getPbMsgTypeOfStream env stream).run s.sys = .ok pbMsgType t) ∧
          ∀ destInterface destPort, ∃ events,
            (final ((RemoteInterface.createReceiverForStream env stream destInterface
                destPort).run s.sys)).world.trace = checked.world.trace ++ events ∧
              streamAnswers events = [] ∧ ∀ asked ∈ receives events, asked = pbMsgType := by
  constructor
  · intro ready
    obtain ⟨r, entries, last, announced, describes⟩ := reached.described ready
    exact ⟨r, entries, last, announced, describes.streams, describes.mem_protobufMap,
      describes.types⟩
  · intro stream checked ran
    have available := RemoteInterface.checkStreamTypeAvailable_ok env ran
    have moved := (RemoteInterface.checkStreamTypeAvailable_moves env stream s.sys).of_ok ran
    obtain ⟨r, entries, last, announced, describes⟩ :=
      moved.described reached.described available.initialized
    obtain ⟨pbMsgType, typed⟩ := Option.isSome_iff_exists.mp
      ((lastType_isSome entries stream).mpr (describes.streams ▸ available.listed))
    have knows : Knows stream pbMsgType checked.iface :=
      ⟨available, (describes.types stream).trans typed⟩
    refine ⟨r, entries, pbMsgType, last, announced, typed, ?_, fun destInterface destPort => ?_⟩
    · obtain ⟨t, found, _⟩ := RemoteInterface.run_protobufOf knows
      refine ⟨t, ?_⟩
      unfold RemoteInterface.getPbMsgTypeOfStream
      rw [run_bind_of_ok ran, found]
    · have created := RemoteInterface.createReceiverForStream_typed env knows destInterface destPort
      have same : (RemoteInterface.createReceiverForStream env stream destInterface destPort).run
          s.sys = (RemoteInterface.createReceiverForStream env stream destInterface destPort).run
            checked := by
        unfold RemoteInterface.createReceiverForStream
        rw [run_bind_of_ok ran,
          run_bind_of_ok (RemoteInterface.run_checkStreamTypeAvailable env available)]
      rw [same]
      exact (created knows).2

/-- After an initialisation the types of both streams are those of the answer. -/
theorem describes_one_answer_pose :
    ∃ r entries pbMsgType, (streamAnswers poseSession.sys.world.trace).getLast? = some r ∧
      Announces obligingDevice r entries ∧ lastType entries "pose" = some pbMsgType := by
  have initialised : poseSession.sys.iface.initialized = true := by decide +kernel
  have listed : "pose" ∈ poseSession.sys.iface.availStreams := by decide +kernel
  obtain ⟨r, entries, pbMsgType, last, announced, typed, _⟩ :=
    (describes_one_answer poseSession_reachable).2 "pose" poseSession.sys
      (RemoteInterface.run_checkStreamTypeAvailable obligingDevice ⟨initialised, listed⟩)
  exact ⟨r, entries, pbMsgType, last, announced, typed⟩

end Session

end RcDynamics
