import RcDynamics.Tracking

/-!
# Lists and the device after a removal

`deleteDestinationsFromStream` enters a removal after all of its requests have succeeded. With
one request the list and the device stay in step. With one request for each destination a
failure leaves the list as it was, while the device has already removed what was named before
it.
-/

namespace RcDynamics

open Effect RemoteInterface

/-- The accepted groups are the first ones. -/
theorem acceptedGroups_isPrefix (env : Env) (iface : RemoteInterface) (stream : String)
    (groups : List (List String)) (n : Nat) :
    acceptedGroups env iface stream groups n <+: groups := by
  induction groups generalizing n with
  | nil => exact List.prefix_refl []
  | cons group groups ih =>
    rw [acceptedGroups]
    split
    · exact (List.prefix_cons_inj group).mpr (ih _)
    · exact List.nil_prefix

/-- The destinations whose own removals are answered 200, up to the first that is not. -/
def removedOneByOne (env : Env) (s : Sys) (stream : String) (destinations : List String) :
    List String :=
  (acceptedGroups env s.iface stream (destinations.map ([·])) s.world.tick).flatten

/-- The removals answered 200 are those of the destinations removed. -/
theorem acceptedGroups_singletons (env : Env) (s : Sys) (stream : String)
    (destinations : List String) :
    acceptedGroups env s.iface stream (destinations.map ([·])) s.world.tick =
      (removedOneByOne env s stream destinations).map ([·]) := by
  obtain ⟨removed, _, accepted⟩ := List.prefix_map_iff.mp
    (acceptedGroups_isPrefix env s.iface stream (destinations.map ([·])) s.world.tick)
  rw [removedOneByOne, accepted, flatten_singletons]

/-- All destinations are removed one by one exactly when all their removals are answered 200. -/
theorem removedOneByOne_eq_iff (env : Env) (s : Sys) (stream : String)
    (destinations : List String) :
    removedOneByOne env s stream destinations = destinations ↔
      acceptedGroups env s.iface stream (destinations.map ([·])) s.world.tick =
        destinations.map ([·]) := by
  rw [acceptedGroups_singletons]
  constructor
  · exact congrArg (List.map ([·]))
  · intro same
    rw [← flatten_singletons (removedOneByOne env s stream destinations), same,
      flatten_singletons]

namespace RemoteInterface

variable {env : Env} {s : Sys} {stream : String} {destinations : List String}

/-- One request that is not accepted removes nothing. -/
theorem acceptedGroups_single (single : usesSingleRequest s.iface.visardVersion = true)
    (stopped : acceptedGroups env s.iface stream (s.iface.deletionGroups destinations)
      s.world.tick ≠ s.iface.deletionGroups destinations) :
    acceptedGroups env s.iface stream (s.iface.deletionGroups destinations) s.world.tick = [] := by
  have first := acceptedGroups_isPrefix env s.iface stream (s.iface.deletionGroups destinations)
    s.world.tick
  unfold deletionGroups at first stopped ⊢
  rw [if_pos single] at first stopped ⊢
  refine (List.prefix_cons_iff.mp first).resolve_right ?_
  rintro ⟨rest, accepted, none⟩
  rw [List.prefix_nil.mp none] at accepted
  exact stopped accepted

/-- The list of a stream and the device agree about a destination after a removal. -/
def InStep (device : Device) (t : Sys) (stream d : String) : Prop :=
  d ∈ t.iface.tracked stream ↔ d ∈ device.after (changes t.world.trace) stream

/-- After a removal whose requests are all accepted, list and device agree. -/
theorem inStep_of_accepted {device : Device} {events : List Event} {t : Sys}
    (nodup : (s.iface.tracked stream).Nodup)
    (registered : ∀ d ∈ s.iface.tracked stream, d ∈ device.after (changes s.world.trace) stream)
    (removals : Removals env stream (s.iface.deletionGroups destinations) events s t)
    (all : acceptedGroups env s.iface stream (s.iface.deletionGroups destinations) s.world.tick =
      s.iface.deletionGroups destinations) {d : String} (tracked : d ∈ s.iface.tracked stream) :
    InStep device (t.track stream (destinations.foldl List.erase (t.iface.tracked stream)))
      stream d := by
  have kept : d ∈ destinations.foldl List.erase (s.iface.tracked stream) ↔ d ∉ destinations := by
    rw [← List.diff_eq_foldl, nodup.mem_sdiff_iff]
    exact and_iff_right tracked
  have held : d ∈ device.after (changes t.world.trace) stream ↔ d ∉ destinations := by
    rw [removals.trace, changes_append, removals.changed, all, Ledger.Server.after_append,
      Ledger.Server.mem_after_deletes, flatten_deletionGroups]
    simp [registered d tracked]
  unfold InStep
  rw [show (t.track stream _).iface.tracked stream = _ from tracked_track t.iface stream stream _,
    if_pos rfl, removals.iface]
  exact kept.trans held.symm

/-- After a removal that stops at a request, list and device agree about what was not removed
before. -/
theorem inStep_of_stopped {device : Device} {events : List Event} {t : Sys}
    (registered : ∀ d ∈ s.iface.tracked stream, d ∈ device.after (changes s.world.trace) stream)
    (removals : Removals env stream (s.iface.deletionGroups destinations) events s t)
    {d : String} (tracked : d ∈ s.iface.tracked stream) :
    InStep device t stream d ↔
      d ∉ (acceptedGroups env s.iface stream (s.iface.deletionGroups destinations)
        s.world.tick).flatten := by
  unfold InStep
  rw [removals.iface, removals.trace, changes_append, removals.changed, Ledger.Server.after_append,
    Ledger.Server.mem_after_deletes]
  simp [registered d tracked, tracked]

/-- The list of a stream and the device agree about what was tracked after a call with a list of
the caller's exactly when no tracked destination was removed one by one before a request that
failed. -/
theorem deleteDestinationsFromStream_inStep_iff (device : Device)
    (ready : s.iface.initialized = true) (nodup : (s.iface.tracked stream).Nodup)
    (registered : ∀ d ∈ s.iface.tracked stream,
      d ∈ device.after (changes s.world.trace) stream) :
    (∀ d ∈ s.iface.tracked stream,
        InStep device
          (final ((deleteDestinationsFromStream env stream (.list destinations)).run s)) stream d) ↔
      (stream ∈ s.iface.availStreams → usesSingleRequest s.iface.visardVersion = false →
        removedOneByOne env s stream destinations ≠ destinations →
        ∀ d ∈ s.iface.tracked stream, d ∉ removedOneByOne env s stream destinations) := by
  by_cases listed : stream ∈ s.iface.availStreams
  · obtain ⟨events, t, removals, ⟨all, ran⟩ | ⟨stopped, e, _, ran⟩⟩ :=
      run_deleteDestinationsFromStream env ⟨ready, listed⟩ destinations
    · rw [ran]
      refine iff_of_true (fun d => inStep_of_accepted nodup registered removals all) ?_
      intro _ several some
      unfold deletionGroups at all
      rw [several, if_neg Bool.false_ne_true] at all
      exact absurd ((removedOneByOne_eq_iff env s stream destinations).mpr all) some
    · rw [ran]
      have agree := fun d tracked => inStep_of_stopped (d := d) registered removals tracked
      cases single : usesSingleRequest s.iface.visardVersion with
      | true =>
        have nothing := acceptedGroups_single single stopped
        refine iff_of_true (fun d tracked => (agree d tracked).mpr ?_) fun _ clash => nomatch clash
        rw [nothing]
        exact List.not_mem_nil
      | false =>
        have groups : s.iface.deletionGroups destinations = destinations.map ([·]) := by
          rw [deletionGroups, single, if_neg Bool.false_ne_true]
        rw [groups] at agree stopped
        have some := mt (removedOneByOne_eq_iff env s stream destinations).mp stopped
        constructor
        · exact fun step _ _ _ d tracked => (agree d tracked).mp (step d tracked)
        · exact fun apart d tracked =>
            (agree d tracked).mpr (apart listed rfl some d tracked)
  · obtain ⟨e, _, ran⟩ := run_checkStreamTypeAvailable_unlisted env ready listed
    have stopped : (deleteDestinationsFromStream env stream (.list destinations)).run s =
        .error e s := by
      unfold deleteDestinationsFromStream
      exact run_bind_of_error ran
    rw [stopped]
    exact iff_of_true (fun d tracked => iff_of_true tracked (registered d tracked))
      fun known => absurd known listed

/-- A device of an older version that does not know one destination. -/
def forgetfulDevice : Env :=
  { obligingDevice with
    http := fun n request =>
      if request.method = .delete ∧ "192.168.0.5:40001" ∈ request.destinations then
        ⟨404, request.url, "", "Not Found"⟩
      else obligingDevice.http n request }

/-- A session with that device in which two destinations have been requested for a stream. -/
def twoPoseSession : Session :=
  Session.after forgetfulDevice "192.168.0.10" 5000
    [.addDestinationToStream "pose" "192.168.0.5:40000",
      .addDestinationToStream "pose" "192.168.0.5:40001"]

/-- The first of two requests fails: both destinations are still tracked and at the device. -/
theorem deleteDestinationsFromStream_inStep_twoPose :
    returned ((deleteDestinationsFromStream forgetfulDevice "pose"
        (.list ["192.168.0.5:40001", "192.168.0.5:40000"])).run twoPoseSession.sys) = false ∧
      ∀ d ∈ ["192.168.0.5:40000", "192.168.0.5:40001"],
        InStep (fun _ => ∅)
          (final ((deleteDestinationsFromStream forgetfulDevice "pose"
            (.list ["192.168.0.5:40001", "192.168.0.5:40000"])).run twoPoseSession.sys))
          "pose" d := by
  have tracked : twoPoseSession.sys.iface.tracked "pose" =
      ["192.168.0.5:40000", "192.168.0.5:40001"] := by decide +kernel
  have removed : removedOneByOne forgetfulDevice twoPoseSession.sys "pose"
      ["192.168.0.5:40001", "192.168.0.5:40000"] = [] := by decide +kernel
  have step := (deleteDestinationsFromStream_inStep_iff (fun _ => ∅) (by decide +kernel)
    (by decide +kernel) (by decide +kernel)).mpr fun _ _ _ d _ => removed ▸ List.not_mem_nil
  rw [tracked] at step
  exact ⟨by decide +kernel, step⟩

/-- The second of two requests fails: the first destination is off the device and still
tracked. -/
theorem deleteDestinationsFromStream_out_of_step :
    twoPoseSession.sys.iface.initialized = true ∧
      (twoPoseSession.sys.iface.tracked "pose").Nodup ∧
      (∀ d ∈ twoPoseSession.sys.iface.tracked "pose",
        d ∈ Ledger.Server.after (fun _ => ∅) (changes twoPoseSession.sys.world.trace) "pose") ∧
      ¬∀ d ∈ twoPoseSession.sys.iface.tracked "pose",
        InStep (fun _ => ∅)
          (final ((deleteDestinationsFromStream forgetfulDevice "pose"
            (.list ["192.168.0.5:40000", "192.168.0.5:40001"])).run twoPoseSession.sys))
          "pose" d := by
  have first : "192.168.0.5:40000" ∈ twoPoseSession.sys.iface.tracked "pose" := by
    decide +kernel
  have apart : ¬InStep (fun _ => ∅)
      (final ((deleteDestinationsFromStream forgetfulDevice "pose"
        (.list ["192.168.0.5:40000", "192.168.0.5:40001"])).run twoPoseSession.sys)) "pose"
      "192.168.0.5:40000" := by
    unfold InStep
    decide +kernel
  exact ⟨by decide +kernel, by decide +kernel, by decide +kernel, fun step =>
    apart (step "192.168.0.5:40000" first)⟩

end RemoteInterface

end RcDynamics
