import Mathlib.Data.List.Sort
import RcDynamics.CleanUp
import RcDynamics.Cursor
import RcDynamics.Frames

/-!
# Cleaning up a stable map

Every key of `req_streams_` is a stream that the object knows, and the object is initialised when
there is a key: a key is inserted only after the check of its stream, and what forgets streams
clears the map as well. So a call that the clean-up makes for a key passes the check at once,
writes the map at that key only and sends nothing but removals. The map keeps its keys while the
clean-up iterates over it, and the iteration goes over the keys of the start.
-/

namespace RcDynamics

open Effect

/-- Every key of `req_streams_` is an available stream. -/
def Keyed (iface : RemoteInterface) : Prop :=
  ∀ stream ∈ iface.reqStreams, Available iface stream

/-- A cleared map has no keys. -/
theorem Keyed.of_cleared {iface : RemoteInterface} (cleared : iface.reqStreams = ∅) :
    Keyed iface := by
  intro stream key
  rw [cleared] at key
  exact absurd key Std.TreeMap.not_mem_emptyc

/-- The keys after a list has been replaced. -/
theorem mem_track {iface : RemoteInterface} {k stream : String} {destinations : List String} :
    stream ∈ (iface.track k destinations).reqStreams ↔ stream = k ∨ stream ∈ iface.reqStreams := by
  unfold RemoteInterface.track
  rw [Std.TreeMap.mem_insert, Std.LawfulEqCmp.compare_eq_iff_eq, eq_comm]

/-- Replacing the list of an available stream keeps the keys available. -/
theorem Keyed.track {iface : RemoteInterface} (keyed : Keyed iface) {k : String}
    (available : Available iface k) (destinations : List String) :
    Keyed (iface.track k destinations) := by
  intro stream key
  have known : Available iface stream := by
    rcases mem_track.mp key with rfl | old
    · exact available
    · exact keyed stream old
  exact known.track k destinations

/-- Moves keep the keys available. -/
theorem Move.keyed {env : Env} {s t : Sys} (move : Move env s t) (keyed : Keyed s.iface) :
    Keyed t.iface := by
  cases move with
  | quiet quiet => rwa [quiet.iface]
  | initialise _ initialised => exact .of_cleared initialised.reqStreams
  | touch _ =>
    intro stream key
    exact (keyed stream key).touch _
  | listen _ => exact keyed
  | register available _ extends' _ _ =>
    have same := extends'.iface
    exact Keyed.track (same ▸ keyed) (same ▸ available) _
  | release available extends' _ _ =>
    have same := extends'.iface
    exact Keyed.track (same ▸ keyed) (same ▸ available) _
  | lose extends' _ _ => exact extends'.iface ▸ keyed

/-- Paths of moves keep the keys available. -/
theorem Moves.keyed {env : Env} {s t : Sys} (moves : Moves env s t) (keyed : Keyed s.iface) :
    Keyed t.iface := by
  induction moves with
  | refl => exact keyed
  | tail _ move ih => exact move.keyed ih

/-- In every reachable state the keys are available streams. -/
theorem Session.Reachable.keyed {env : Env} {s : Session} (reached : s.Reachable env) :
    Keyed s.sys.iface := by
  apply Reachable.induction (P := fun s => Keyed s.iface) _ _ _ reached
  · exact fun _ _ => .of_cleared rfl
  · exact fun _ _ initialised => .of_cleared initialised.reqStreams
  · exact fun _ _ moves keyed => moves.keyed keyed

/-- Replacing the list of a key keeps the keys. -/
theorem keys_track {iface : RemoteInterface} {k : String} (key : k ∈ iface.reqStreams)
    (destinations : List String) :
    (iface.track k destinations).reqStreams.keys = iface.reqStreams.keys := by
  apply List.Pairwise.eq_of_mem_iff (RemoteInterface.keys_ordered _)
    (RemoteInterface.keys_ordered _)
  intro stream
  rw [Std.TreeMap.mem_keys, Std.TreeMap.mem_keys, mem_track]
  constructor
  · rintro (rfl | old)
    · exact key
    · exact old
  · exact Or.inr

/-- The map keeps its keys and is not cleared, the object knows the same streams, and nothing but
removals is sent. -/
structure Stable (s t : Sys) : Prop where
  keys : t.iface.reqStreams.keys = s.iface.reqStreams.keys
  epoch : t.iface.reqEpoch = s.iface.reqEpoch
  initialized : t.iface.initialized = s.iface.initialized
  streams : t.iface.availStreams = s.iface.availStreams
  asked : Asks (fun request => request.method = .delete) s t

/-- Standing still is stable. -/
instance Stable.refl : Std.Refl Stable := ⟨fun s => ⟨rfl, rfl, rfl, rfl, refl_of _ s⟩⟩

/-- One stable thing after another is stable. -/
instance Stable.trans : IsTrans Sys Stable where
  trans _ _ _ first second := {
    keys := second.keys.trans first.keys
    epoch := second.epoch.trans first.epoch
    initialized := second.initialized.trans first.initialized
    streams := second.streams.trans first.streams
    asked := trans_of _ first.asked second.asked }

/-- The keys are the same. -/
theorem Stable.mem {s t : Sys} (stable : Stable s t) {stream : String} :
    stream ∈ t.iface.reqStreams ↔ stream ∈ s.iface.reqStreams := by
  rw [← Std.TreeMap.mem_keys, stable.keys, Std.TreeMap.mem_keys]

/-- The keys stay available. -/
theorem Stable.keyed {s t : Sys} (stable : Stable s t) (keyed : Keyed s.iface) :
    Keyed t.iface := by
  intro stream key
  have known := keyed stream (stable.mem.mp key)
  exact ⟨stable.initialized.trans known.initialized, stable.streams ▸ known.listed⟩

/-- A sequence of removals is stable. -/
theorem Removals.stable {env : Env} {stream : String} {groups : List (List String)}
    {events : List Event} {s t : Sys} (removals : Removals env stream groups events s t) :
    Stable s t where
  keys := by rw [removals.iface]
  epoch := by rw [removals.iface]
  initialized := by rw [removals.iface]
  streams := by rw [removals.iface]
  asked := by
    refine ⟨events, removals.trace, fun sent member => ?_⟩
    obtain ⟨group, _, same⟩ := removals.asked sent member
    rw [same]
    rfl

/-- Replacing the list of a key is stable. -/
theorem track_stable {s : Sys} {stream : String} (key : stream ∈ s.iface.reqStreams)
    (destinations : List String) : Stable s (s.track stream destinations) where
  keys := keys_track key destinations
  epoch := rfl
  initialized := rfl
  streams := rfl
  asked := asks_of_trace rfl

namespace RemoteInterface

variable (env : Env)

/-- The requests of a removal are stable. -/
theorem deleteRequests_stable (stream : String) (destinations : List String) (s : Sys) :
    Within Stable (deleteRequests env stream destinations) s := by
  obtain ⟨events, t, removals, ends⟩ :=
    run_deleteGroups env stream (s.iface.deletionGroups destinations) s
  rw [← run_deleteRequests] at ends
  rcases ends with ⟨_, ran⟩ | ⟨_, e, _, ran⟩
  · exact Within.of_run ran removals.stable
  · exact Within.of_run ran removals.stable

/-- Erasing from the list of a key is stable. -/
theorem eraseRequested_stable {s : Sys} {stream : String} (key : stream ∈ s.iface.reqStreams)
    (destinations : Destinations) : Within Stable (eraseRequested stream destinations) s := by
  cases destinations with
  | list values => exact Within.of_run rfl (track_stable key _)
  | tracked epoch =>
    unfold eraseRequested
    refine (this_within s).bind fun iface t ran => ?_
    cases ran
    split
    · exact Within.of_run rfl (track_stable key _)
    · exact Within.throw _ s
    · exact Within.throw _ s

/-- A removal of destinations of a key is stable. -/
theorem deleteDestinationsFromStream_stable {s : Sys} (keyed : Keyed s.iface) {stream : String}
    (key : stream ∈ s.iface.reqStreams) (destinations : Destinations) :
    Within Stable (deleteDestinationsFromStream env stream destinations) s := by
  have checked := run_checkStreamTypeAvailable env (keyed stream key)
  refine Within.bind (Within.of_run checked (refl_of _ s)) fun _ t ran => ?_
  rw [checked] at ran
  cases ran
  have read : Within Stable (destinations.read stream) s := read_within stream destinations s
  refine read.bind fun values t ran => ?_
  have requests := deleteRequests_stable env stream values t
  refine requests.bind fun _ u sent => ?_
  have stable : Stable s u := trans_of _ (read.of_ok ran) (requests.of_ok sent)
  exact eraseRequested_stable (stable.mem.mpr key) destinations

/-- An iteration of the clean-up at a key is stable. -/
theorem cleanUpStream_stable {s : Sys} (keyed : Keyed s.iface) {stream : String}
    (key : stream ∈ s.iface.reqStreams) (traversal : Traversal) (epoch : Nat) :
    Within Stable (cleanUpStream env traversal epoch stream) s := by
  unfold cleanUpStream
  refine (this_within s).bind fun iface t ran => ?_
  cases ran
  by_cases none : (s.iface.tracked stream).isEmpty
  · rw [if_pos none]
    exact Within.pure () s
  · rw [if_neg none]
    refine (deleteDestinationsFromStream_stable env keyed key _).bind fun _ t _ => ?_
    exact requireEpoch_within epoch t

end RemoteInterface

/-- Not an `invalid_argument`, which the check of a stream throws, nor another logic error. -/
abbrev Exn.NoLogicError (e : Exn) : Prop := e.isLogicError = false

/-- A request with retries throws no logic error. -/
theorem withRetry_throws (env : Env) (request : Request) (waits : List Nat) :
    Throws Exn.NoLogicError (withRetry env request waits) := by
  intro s e t ran
  obtain ⟨_, _, _, ends⟩ := run_withRetry env request waits s
  rw [ran] at ends
  split at ends
  · cases ends
  · cases ends
    rfl

/-- Nor does judging an answer. -/
theorem handleCPRResponse_throws (r : Response) :
    Throws Exn.NoLogicError (handleCPRResponse r) := by
  unfold handleCPRResponse Response.failure
  split
  · exact Throws.pure ()
  · rename_i e failed
    apply Throws.throw
    split_ifs at failed
    · cases failed
      rfl
    · cases failed
      rfl
    · cases failed
      rfl

/-- Reading the object throws nothing. -/
theorem this_throws {P : Exn → Prop} : Throws P this := fun _ _ _ ran => nomatch ran

/-- Nor does changing it. -/
theorem setIface_throws {P : Exn → Prop} (f : RemoteInterface → RemoteInterface) :
    Throws P (setIface f) := fun _ _ _ ran => nomatch ran

namespace RemoteInterface

variable (env : Env) (stream : String)

/-- One removal throws no logic error. -/
theorem deleteRequest_throws (destinations : List String) :
    Throws Exn.NoLogicError (deleteRequest env stream destinations) := by
  have printed : Throws Exn.NoLogicError (dumpArgs env destinations) := by
    unfold dumpArgs
    split
    · exact Throws.pure _
    · exact Throws.throw rfl
  have sent (resource : Resource) (timeout : Int) (body : Option Json) :
      Throws Exn.NoLogicError (cprDeleteWithRetry env resource timeout body) :=
    this_throws.bind fun iface => withRetry_throws env _ waitBeforeRetry
  apply printed.bind
  intro body
  refine this_throws.bind fun iface => ?_
  apply (sent _ _ _).bind
  exact handleCPRResponse_throws

/-- The requests of a removal throw no logic error. -/
theorem deleteRequests_throws (destinations : List String) :
    Throws Exn.NoLogicError (deleteRequests env stream destinations) := by
  unfold deleteRequests
  refine this_throws.bind fun iface => ?_
  split
  · exact deleteRequest_throws env stream destinations
  · apply Throws.forM
    intro destination
    exact deleteRequest_throws env stream [destination]

/-- Requiring that the map has not been cleared throws no logic error. -/
theorem requireEpoch_throws (epoch : Nat) : Throws Exn.NoLogicError (requireEpoch epoch) := by
  refine this_throws.bind fun iface => ?_
  split
  · exact Throws.pure ()
  · exact Throws.throw rfl

/-- Nor does reading the argument of a removal. -/
theorem read_throws (destinations : Destinations) :
    Throws Exn.NoLogicError (destinations.read stream) := by
  cases destinations with
  | list values => exact Throws.pure values
  | tracked epoch =>
    apply (requireEpoch_throws epoch).bind
    exact fun _ => this_throws.bind fun iface => Throws.pure _

/-- Nor does erasing from a list. -/
theorem eraseRequested_throws (destinations : Destinations) :
    Throws Exn.NoLogicError (eraseRequested stream destinations) := by
  cases destinations with
  | list values =>
    rw [eraseRequested]
    exact setIface_throws _
  | tracked epoch =>
    refine this_throws.bind fun iface => ?_
    split
    · exact setIface_throws _
    · exact Throws.throw rfl
    · exact Throws.throw rfl

/-- The removal of destinations of a key throws no logic error. -/
theorem deleteDestinationsFromStream_throws {s : Sys} (keyed : Keyed s.iface)
    (key : stream ∈ s.iface.reqStreams) (destinations : Destinations) {e : Exn} {t : Sys}
    (ran : (deleteDestinationsFromStream env stream destinations).run s = .error e t) :
    e.NoLogicError := by
  have checked := run_checkStreamTypeAvailable env (keyed stream key)
  have rest : Throws Exn.NoLogicError (destinations.read stream >>= fun values => do
      deleteRequests env stream values
      eraseRequested stream destinations) := by
    apply (read_throws stream destinations).bind
    intro values
    apply (deleteRequests_throws env stream values).bind
    exact fun _ => eraseRequested_throws stream destinations
  unfold deleteDestinationsFromStream at ran
  rw [run_bind_of_ok checked] at ran
  exact rest s e t ran

end RemoteInterface

/-- A call of `deleteDestinationsFromStream` that neither enters `checkSystemReady` nor fails the
check of its stream, and keeps the keys of the map, whether it returns or throws. -/
structure StableCall (env : Env) (stream : String) (destinations : RemoteInterface.Destinations)
    (s : Sys) : Prop where
  checked : (RemoteInterface.checkStreamTypeAvailable env stream).run s = .ok () s
  thrown : ∀ e t, (RemoteInterface.deleteDestinationsFromStream env stream destinations).run s =
    .error e t → e.NoLogicError
  kept : Stable s
    (final ((RemoteInterface.deleteDestinationsFromStream env stream destinations).run s))

/-- A call for a key is stable. -/
theorem stableCall_of_key {env : Env} {s : Sys} (keyed : Keyed s.iface) {stream : String}
    (key : stream ∈ s.iface.reqStreams) (destinations : RemoteInterface.Destinations) :
    StableCall env stream destinations s where
  checked := RemoteInterface.run_checkStreamTypeAvailable env (keyed stream key)
  thrown _ _ ran :=
    RemoteInterface.deleteDestinationsFromStream_throws env stream keyed key destinations ran
  kept := RemoteInterface.deleteDestinationsFromStream_stable env keyed key destinations

/-- The keys of `req_streams_` in their order. -/
abbrev Sys.requestedStreams (s : Sys) : List String := s.iface.reqStreams.keys

/-- The iterator of `cleanUpRequestedStreams` from a state: its position in the map as the map is
at the top of each iteration. -/
abbrev Iterates (env : Env) (traversal : RemoteInterface.Traversal) (s : Sys) :
    Option String → Sys → Prop :=
  Cursor.Visits Sys.requestedStreams
    (RemoteInterface.cleanUpStream env traversal s.iface.reqEpoch) s

section Loop

variable {env : Env} {s : Sys}

/-- The iterations keep what is stable. -/
theorem cleanUpStream_step (keyed : Keyed s.iface) (traversal : RemoteInterface.Traversal) :
    ∀ stream ∈ s.requestedStreams, ∀ t u, Stable s t →
      (RemoteInterface.cleanUpStream env traversal s.iface.reqEpoch stream).run t = .ok () u →
      Stable s u := by
  intro stream listed t u stable ran
  have key : stream ∈ t.iface.reqStreams := stable.mem.mpr (Std.TreeMap.mem_keys.mp listed)
  have step := RemoteInterface.cleanUpStream_stable env (stable.keyed keyed) key traversal
    s.iface.reqEpoch
  exact trans_of _ stable (step.of_ok ran)

/-- The iterator stands at keys of the start, in states that are stable. -/
theorem Iterates.stable (keyed : Keyed s.iface) {traversal : RemoteInterface.Traversal}
    {stream : String} {t : Sys} (iterates : Iterates env traversal s (some stream) t) :
    Stable s t ∧ stream ∈ t.iface.reqStreams := by
  obtain ⟨stable, listed⟩ := Cursor.Visits.kept (fun _ stable => stable.keys)
    (cleanUpStream_step keyed traversal) (refl_of Stable s) iterates
  have key := Std.TreeMap.mem_keys.mp (listed stream rfl)
  exact ⟨stable, stable.mem.mpr key⟩

/-- The iteration over the live map is the loop over the keys of the start. -/
theorem iterates_iff (keyed : Keyed s.iface) (traversal : RemoteInterface.Traversal)
    (position : Option String) (t : Sys) :
    Iterates env traversal s position t ↔ ∃ before after,
      s.requestedStreams = before ++ after ∧ position = after.head? ∧
        (forM before (RemoteInterface.cleanUpStream env traversal s.iface.reqEpoch)).run s =
          .ok () t := by
  have ordered : s.requestedStreams.Pairwise (· < ·) := RemoteInterface.keys_ordered s.iface
  exact Cursor.visits_iff ordered (fun _ stable => stable.keys)
    (cleanUpStream_step keyed traversal) (refl_of Stable s) position t

/-- The iterator reaches the end in the state in which `cleanUpRequestedStreams` returns. -/
theorem iterates_none_iff (keyed : Keyed s.iface) (traversal : RemoteInterface.Traversal)
    (t : Sys) :
    Iterates env traversal s none t ↔
      (RemoteInterface.cleanUpRequestedStreams env traversal).run s = .ok () t := by
  unfold RemoteInterface.cleanUpRequestedStreams
  rw [run_this_bind, iterates_iff keyed]
  constructor
  · rintro ⟨before, after, split, ended, ran⟩
    rw [List.head?_eq_none_iff.mp ended.symm, List.append_nil] at split
    rwa [← split] at ran
  · exact fun ran => ⟨_, [], (List.append_nil _).symm, rfl, ran⟩

end Loop

/-- In every reachable state the keys of `req_streams_` are known streams of an initialised
object, and while `cleanUpRequestedStreams` iterates over them from there, every call that it can
make for the key at hand is stable. -/
theorem Session.cleanUp_stable {env : Env} {s : Session} (reached : s.Reachable env)
    (traversal : RemoteInterface.Traversal) :
    (∀ stream ∈ s.sys.iface.reqStreams, stream ∈ s.sys.iface.availStreams) ∧
      ((∃ stream, stream ∈ s.sys.iface.reqStreams) → s.sys.iface.initialized = true) ∧
      ∀ stream t, Iterates env traversal s.sys (some stream) t →
        Stable s.sys t ∧ stream ∈ t.iface.reqStreams ∧
          ∀ destinations, StableCall env stream destinations t := by
  have keyed : Keyed s.sys.iface := reached.keyed
  refine ⟨fun stream key => (keyed stream key).listed, ?_, ?_⟩
  · rintro ⟨stream, key⟩
    exact (keyed stream key).initialized
  · intro stream t iterates
    obtain ⟨stable, key⟩ := iterates.stable keyed
    have still : Keyed t.iface := stable.keyed keyed
    exact ⟨stable, key, fun destinations => stableCall_of_key still key destinations⟩

/-- The iterator advances from the first to the second stream of a session, and after the first
has been cleaned the calls for the second are stable. -/
theorem Session.cleanUp_stable_imuPose :
    ∃ t, Iterates (RemoteInterface.refusingDevice "pose") .copied
        (RemoteInterface.imuPoseSession "pose").sys (some "pose") t ∧
      t.iface.tracked "imu" = [] ∧ t.iface.tracked "pose" = ["192.168.0.5:40001"] ∧
      ∀ destinations, StableCall (RemoteInterface.refusingDevice "pose") "pose" destinations t := by
  let clean (s : Sys) := (forM ["imu"] (RemoteInterface.cleanUpStream
    (RemoteInterface.refusingDevice "pose") .copied s.iface.reqEpoch)).run s
  have keys : (RemoteInterface.imuPoseSession "pose").sys.requestedStreams = ["imu", "pose"] := by
    decide +kernel
  have cleaned : returned (clean (RemoteInterface.imuPoseSession "pose").sys) = true := by
    decide +kernel
  have emptied : (final (clean (RemoteInterface.imuPoseSession "pose").sys)).iface.tracked "imu" =
      [] := by decide +kernel
  have kept : (final (clean (RemoteInterface.imuPoseSession "pose").sys)).iface.tracked "pose" =
      ["192.168.0.5:40001"] := by decide +kernel
  have reached := RemoteInterface.imuPoseSession_reachable "pose"
  generalize RemoteInterface.imuPoseSession "pose" = s at keys cleaned emptied kept reached ⊢
  cases ran : clean s.sys with
  | error e t =>
    rw [ran] at cleaned
    cases cleaned
  | ok _ t =>
    rw [ran] at emptied kept
    have here : Iterates (RemoteInterface.refusingDevice "pose") .copied s.sys (some "pose") t :=
      (iterates_iff reached.keyed .copied _ t).mpr ⟨["imu"], ["pose"], keys, rfl, ran⟩
    have stable := Session.cleanUp_stable reached .copied
    exact ⟨t, here, emptied, kept, (stable.2.2 "pose" t here).2.2⟩

end RcDynamics
