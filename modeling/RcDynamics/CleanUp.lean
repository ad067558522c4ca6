import Mathlib.Data.String.Basic
import RcDynamics.Tracking

/-!
# Cleaning up

`cleanUpRequestedStreams` visits the keys of `req_streams_` in their order. Read as handing on a
copy of each list, it removes the tracked destinations of every stream it visits and stops at the
first stream whose removal fails. Read as the source stands, the list it hands on is the list it
erases from, and the loop over it steps through the cell it has just erased.
-/

namespace RcDynamics

open Effect

/-- From this state on, the removals of each stream are answered with one status. -/
def DeletesAnswered (env : Env) (s : Sys) (status : String → Int) : Prop :=
  ∀ n request stream, s.world.tick ≤ n → request.method = .delete →
    request.resource = .datastream stream → (env.http n request).statusCode = status stream

/-- From this state on, every removal is answered 200. -/
abbrev DeletesSucceed (env : Env) (s : Sys) : Prop := DeletesAnswered env s fun _ => 200

/-- What is so from a state on is so from a later one on. -/
theorem DeletesAnswered.later {env : Env} {s t : Sys} {status : String → Int}
    (answered : DeletesAnswered env s status) (later : s.world.tick ≤ t.world.tick) :
    DeletesAnswered env t status :=
  fun n request stream reached => answered n request stream (Nat.le_trans later reached)

/-- A request answered with one status succeeds when that is 200. -/
theorem isSuccess_answer {env : Env} {request : Request} {status : Int} {n : Nat}
    (answered : ∀ k, n ≤ k → (env.http k request).statusCode = status) {waits : List Nat}
    (some : waits ≠ []) :
    isSuccess (answer env request waits n).1 = decide (status = 200) := by
  induction waits generalizing n with
  | nil => exact absurd rfl some
  | cons wait waits ih =>
    have now := answered n (Nat.le_refl n)
    rw [answer]
    split_ifs with rejected
    · have busy : status = 429 := now.symm.trans rejected
      by_cases last : waits = []
      · subst last busy
        rfl
      · exact ih (fun k reached => answered k (Nat.le_of_succ_le reached)) last
    · simp only [isSuccess, now]

/-- Whether a removal is accepted, when the removals of each stream have one status. -/
theorem deleteAccepted_of_answered {env : Env} {s : Sys} {status : String → Int}
    (answered : DeletesAnswered env s status) (iface : RemoteInterface) (stream : String)
    {destinations : List String} (valid : destinations.all env.utf8 = true) {n : Nat}
    (reached : s.world.tick ≤ n) :
    (deleteAccepted env iface stream destinations n).1 = decide (status stream = 200) := by
  rw [deleteAccepted, if_pos valid]
  exact isSuccess_answer
    (fun k later => answered k _ stream (Nat.le_trans reached later) rfl rfl) (by decide)

/-- A removal does not go back in time. -/
theorem deleteAccepted_le (env : Env) (iface : RemoteInterface) (stream : String)
    (destinations : List String) (n : Nat) :
    n ≤ (deleteAccepted env iface stream destinations n).2 := by
  unfold deleteAccepted
  split_ifs
  · exact answer_le env _ waitBeforeRetry n
  · exact Nat.le_refl n

/-- All groups are accepted when the removals of the stream succeed, and none when they fail. -/
theorem acceptedGroups_of_answered {env : Env} {s : Sys} {status : String → Int}
    (answered : DeletesAnswered env s status) (iface : RemoteInterface) (stream : String)
    {groups : List (List String)} (valid : ∀ group ∈ groups, group.all env.utf8 = true) {n : Nat}
    (reached : s.world.tick ≤ n) :
    acceptedGroups env iface stream groups n = if status stream = 200 then groups else [] := by
  induction groups generalizing n with
  | nil => simp [acceptedGroups]
  | cons group groups ih =>
    have accepted := deleteAccepted_of_answered answered iface stream
      (valid group List.mem_cons_self) reached
    have later := deleteAccepted_le env iface stream group n
    rw [acceptedGroups]
    cases outcome : deleteAccepted env iface stream group n with
    | mk success m =>
      rw [outcome] at accepted later
      have rest := ih (fun g member => valid g (List.mem_cons_of_mem group member))
        (Nat.le_trans reached later)
      by_cases ok : status stream = 200
      · rw [decide_eq_true ok] at accepted
        subst accepted
        simp only [rest, if_pos ok]
      · rw [decide_eq_false ok] at accepted
        subst accepted
        simp only [if_neg ok]

/-- A removal that names a destination of a stream was sent. -/
def Requested (events : List Event) (stream destination : String) : Prop :=
  ∃ request ∈ requests events, request.method = .delete ∧ request.resource = .datastream stream ∧
    destination ∈ request.destinations

/-- A removal that names a destination of a stream was acknowledged. -/
def Acknowledged (events : List Event) (stream destination : String) : Prop :=
  ∃ destinations, .delete stream destinations ∈ changes events ∧ destination ∈ destinations

/-- Only removals were acknowledged. -/
def OnlyDeletes (events : List Event) : Prop :=
  ∀ change ∈ changes events, ∃ stream destinations, change = .delete stream destinations

/-- Requests of two parts of a trace are those of either. -/
theorem requested_append {first second : List Event} {stream destination : String} :
    Requested (first ++ second) stream destination ↔
      Requested first stream destination ∨ Requested second stream destination := by
  simp only [Requested, requests_append, List.mem_append, or_and_right, exists_or]

/-- Acknowledgements of two parts of a trace are those of either. -/
theorem acknowledged_append {first second : List Event} {stream destination : String} :
    Acknowledged (first ++ second) stream destination ↔
      Acknowledged first stream destination ∨ Acknowledged second stream destination := by
  simp only [Acknowledged, changes_append, List.mem_append, or_and_right, exists_or]

/-- Two parts that only delete only delete. -/
theorem OnlyDeletes.append {first second : List Event} (early : OnlyDeletes first)
    (late : OnlyDeletes second) : OnlyDeletes (first ++ second) := by
  intro change member
  rw [changes_append] at member
  exact (List.mem_append.mp member).elim (early change) (late change)

section Removals

variable {env : Env} {stream : String} {groups : List (List String)} {events : List Event}
  {s t : Sys}

/-- A sequence of printable removals names the destinations of the groups that are tried. -/
theorem Removals.requested_iff (removals : Removals env stream groups events s t)
    (valid : ∀ group ∈ groups, group.all env.utf8 = true) (k destination : String) :
    Requested events k destination ↔
      k = stream ∧
        ∃ group ∈ triedGroups env s.iface stream groups s.world.tick, destination ∈ group := by
  constructor
  · rintro ⟨sent, member, _, resource, named⟩
    obtain ⟨group, tried, rfl⟩ := removals.asked sent member
    rw [RemoteInterface.deletion, destinations_args] at named
    exact ⟨(Resource.datastream.inj resource).symm, group, tried, named⟩
  · rintro ⟨rfl, group, tried, named⟩
    refine ⟨_, removals.attempted group tried (valid group (List.mem_of_mem_take tried)), rfl, rfl,
      ?_⟩
    rwa [RemoteInterface.deletion, destinations_args]

/-- A sequence of removals only deletes. -/
theorem Removals.onlyDeletes (removals : Removals env stream groups events s t) :
    OnlyDeletes events := by
  intro change member
  rw [removals.changed] at member
  obtain ⟨group, _, rfl⟩ := List.mem_map.mp member
  exact ⟨stream, group, rfl⟩

/-- When all groups are accepted, all their destinations are acknowledged. -/
theorem Removals.acknowledged (removals : Removals env stream groups events s t)
    (all : acceptedGroups env s.iface stream groups s.world.tick = groups) {destination : String}
    (named : destination ∈ groups.flatten) : Acknowledged events stream destination := by
  obtain ⟨group, member, present⟩ := List.mem_flatten.mp named
  refine ⟨group, ?_, present⟩
  rw [removals.changed, all]
  exact List.mem_map_of_mem member

end Removals

namespace RemoteInterface

variable (env : Env)

/-- Groups of printable destinations are printable. -/
theorem deletionGroups_valid {env : Env} (iface : RemoteInterface) {destinations : List String}
    (valid : ∀ destination ∈ destinations, env.utf8 destination = true) :
    ∀ group ∈ iface.deletionGroups destinations, group.all env.utf8 = true := by
  intro group member
  refine List.all_eq_true.mpr fun destination present => valid destination ?_
  rw [← flatten_deletionGroups iface destinations]
  exact List.mem_flatten.mpr ⟨group, member, present⟩

/-- There is a group when there is a destination. -/
theorem deletionGroups_ne_nil (iface : RemoteInterface) {destinations : List String}
    (some : destinations ≠ []) : iface.deletionGroups destinations ≠ [] := by
  intro none
  have flat := flatten_deletionGroups iface destinations
  rw [none] at flat
  exact some flat.symm

/-- A stream without tracked destinations is passed over. -/
theorem run_cleanUpStream_nil (traversal : Traversal) (epoch : Nat) {stream : String} {s : Sys}
    (none : s.iface.tracked stream = []) :
    (cleanUpStream env traversal epoch stream).run s = .ok () s := by
  unfold cleanUpStream
  rw [run_this_bind, none, if_pos List.isEmpty_nil]
  rfl

/-- A reference into a map that has not been cleared is not dangling. -/
theorem run_requireEpoch {epoch : Nat} {s : Sys} (same : s.iface.reqEpoch = epoch) :
    (requireEpoch epoch).run s = .ok () s := by
  unfold requireEpoch
  rw [run_this_bind, if_pos same]
  rfl

/-- Cleaning a stream by a copy of its list removes all of it, or stops at a failure. -/
theorem run_cleanUpStream_copied {s : Sys} {status : String → Int} (sound : Sound env s.iface)
    (answered : DeletesAnswered env s status) {stream : String}
    (some : s.iface.tracked stream ≠ []) :
    ∃ events t,
      Removals env stream (s.iface.deletionGroups (s.iface.tracked stream)) events s t ∧
      acceptedGroups env s.iface stream (s.iface.deletionGroups (s.iface.tracked stream))
          s.world.tick =
        (if status stream = 200 then s.iface.deletionGroups (s.iface.tracked stream) else []) ∧
      (status stream = 200 ∧
          (cleanUpStream env .copied s.iface.reqEpoch stream).run s = .ok () (t.track stream []) ∨
        status stream ≠ 200 ∧ ∃ e, e.isException = true ∧
          (cleanUpStream env .copied s.iface.reqEpoch stream).run s = .error e t) := by
  have available := sound.available stream some
  have groups := acceptedGroups_of_answered answered s.iface stream
    (deletionGroups_valid s.iface (sound.valid stream)) (Nat.le_refl s.world.tick)
  obtain ⟨events, t, removals, ends⟩ :=
    run_deleteDestinationsFromStream env available (s.iface.tracked stream)
  refine ⟨events, t, removals, groups, ?_⟩
  unfold cleanUpStream
  rw [run_this_bind, if_neg (by simpa using some)]
  by_cases ok : status stream = 200
  · refine Or.inl ⟨ok, ?_⟩
    rw [if_pos ok] at groups
    obtain ⟨_, ran⟩ := ends.resolve_right fun stopped => stopped.1 groups
    rw [removals.iface, Ledger.foldl_erase_self] at ran
    rw [run_bind_of_ok ran, run_requireEpoch]
    exact (congrArg reqEpoch removals.iface :)
  · refine Or.inr ⟨ok, ?_⟩
    rw [if_neg ok] at groups
    obtain ⟨_, e, caught, ran⟩ := ends.resolve_left fun all =>
      deletionGroups_ne_nil s.iface some (all.1.symm.trans groups)
    exact ⟨e, caught, run_bind_of_error ran⟩

/-- Streams have been swept: all that was tracked for them was named in removals, acknowledged
and erased, and nothing else. -/
structure Swept (env : Env) (streams : List String) (events : List Event) (s t : Sys) : Prop where
  tick : s.world.tick ≤ t.world.tick
  trace : t.world.trace = s.world.trace ++ events
  epoch : t.iface.reqEpoch = s.iface.reqEpoch
  version : t.iface.visardVersion = s.iface.visardVersion
  sound : Sound env t.iface
  tracked : ∀ k, t.iface.tracked k = if k ∈ streams then [] else s.iface.tracked k
  requested : ∀ k destination, Requested events k destination ↔
    k ∈ streams ∧ destination ∈ s.iface.tracked k
  acknowledged : ∀ k ∈ streams, ∀ destination ∈ s.iface.tracked k,
    Acknowledged events k destination
  onlyDeletes : OnlyDeletes events

/-- Sweeping no streams does nothing. -/
theorem Swept.nil {env : Env} {s : Sys} (sound : Sound env s.iface) : Swept env [] [] s s where
  tick := Nat.le_refl _
  trace := (List.append_nil _).symm
  epoch := rfl
  version := rfl
  sound := sound
  tracked k := rfl
  requested k destination := by simp [Requested, requests]
  acknowledged k member := absurd member List.not_mem_nil
  onlyDeletes change member := absurd member List.not_mem_nil

/-- A stream without tracked destinations is swept by nothing. -/
theorem Swept.cons_nil {env : Env} {stream : String} {streams : List String} {events : List Event}
    {s t : Sys} (none : s.iface.tracked stream = []) (swept : Swept env streams events s t) :
    Swept env (stream :: streams) events s t where
  tick := swept.tick
  trace := swept.trace
  epoch := swept.epoch
  version := swept.version
  sound := swept.sound
  tracked k := by
    rw [swept.tracked]
    by_cases same : k = stream
    · subst same
      simp [none]
    · simp [same]
  requested k destination := by
    rw [swept.requested, List.mem_cons]
    refine and_congr_left fun member => (or_iff_right fun same => ?_).symm
    rw [same, none] at member
    exact absurd member List.not_mem_nil
  acknowledged k member destination present := by
    rcases List.mem_cons.mp member with same | later
    · rw [same, none] at present
      exact absurd present List.not_mem_nil
    · exact swept.acknowledged k later destination present
  onlyDeletes := swept.onlyDeletes

/-- The removals of one stream are followed by the sweep of others. -/
theorem Swept.cons {env : Env} {stream : String} {streams : List String}
    {first rest : List Event} {s t u : Sys} (sound : Sound env s.iface)
    (removals : Removals env stream (s.iface.deletionGroups (s.iface.tracked stream)) first s t)
    (all : acceptedGroups env s.iface stream (s.iface.deletionGroups (s.iface.tracked stream))
      s.world.tick = s.iface.deletionGroups (s.iface.tracked stream))
    (swept : Swept env streams rest (t.track stream []) u) :
    Swept env (stream :: streams) (first ++ rest) s u where
  tick := Nat.le_trans removals.tick swept.tick
  trace := by
    rw [swept.trace, ← List.append_assoc, ← removals.trace]
    rfl
  epoch := swept.epoch.trans (congrArg reqEpoch removals.iface :)
  version := swept.version.trans (congrArg visardVersion removals.iface :)
  sound := swept.sound
  tracked k := by
    have replaced : (t.track stream []).iface.tracked k = _ := tracked_track t.iface stream k []
    rw [swept.tracked, replaced, removals.iface]
    by_cases same : k = stream <;> simp [same]
  requested k destination := by
    have replaced : (t.track stream []).iface.tracked k = _ := tracked_track t.iface stream k []
    have groups := deletionGroups_valid s.iface (sound.valid stream)
    have flat := flatten_deletionGroups s.iface (s.iface.tracked stream)
    have tried : triedGroups env s.iface stream
        (s.iface.deletionGroups (s.iface.tracked stream)) s.world.tick =
        s.iface.deletionGroups (s.iface.tracked stream) := by
      rw [triedGroups, all]
      exact List.take_of_length_le (Nat.le_succ _)
    rw [requested_append, removals.requested_iff groups, tried, ← List.mem_flatten, flat,
      swept.requested, replaced, removals.iface, List.mem_cons]
    by_cases same : k = stream
    · subst same
      simp
    · simp [same]
  acknowledged k member destination present := by
    rw [acknowledged_append]
    by_cases same : k = stream
    · subst same
      refine Or.inl (removals.acknowledged all ?_)
      rwa [flatten_deletionGroups]
    · refine Or.inr (swept.acknowledged k ((List.mem_cons.mp member).resolve_left same) _ ?_)
      have replaced : (t.track stream []).iface.tracked k = _ := tracked_track t.iface stream k []
      rwa [replaced, if_neg same, removals.iface]
  onlyDeletes := removals.onlyDeletes.append swept.onlyDeletes

/-- Streams whose removals succeed are swept. -/
theorem run_sweep {status : String → Int} (streams : List String) {s : Sys}
    (sound : Sound env s.iface) (answered : DeletesAnswered env s status)
    (succeed : ∀ k ∈ streams, s.iface.tracked k ≠ [] → status k = 200) :
    ∃ events t, Swept env streams events s t ∧
      (forM streams (cleanUpStream env .copied s.iface.reqEpoch)).run s = .ok () t := by
  induction streams generalizing s with
  | nil => exact ⟨[], s, Swept.nil sound, rfl⟩
  | cons stream streams ih =>
    rw [List.forM_cons]
    by_cases none : s.iface.tracked stream = []
    · obtain ⟨events, t, swept, ran⟩ := ih sound answered fun k member =>
        succeed k (List.mem_cons_of_mem stream member)
      refine ⟨events, t, swept.cons_nil none, ?_⟩
      rwa [run_bind_of_ok (run_cleanUpStream_nil env .copied s.iface.reqEpoch none)]
    · have ok := succeed stream List.mem_cons_self none
      obtain ⟨first, t, removals, groups, ends⟩ :=
        run_cleanUpStream_copied env sound answered none
      obtain ⟨_, ran⟩ := ends.resolve_right fun stopped => stopped.1 ok
      rw [if_pos ok] at groups
      have cleared : ∀ k, (t.track stream []).iface.tracked k = _ :=
        fun k => tracked_track t.iface stream k []
      have kept : Sound env (t.track stream []).iface :=
        Sound.track (removals.iface ▸ sound) (removals.iface ▸ sound.available stream none)
          fun d member => absurd member List.not_mem_nil
      obtain ⟨rest, u, swept, swept_ran⟩ := ih kept (answered.later removals.tick)
        fun k member some => by
          rw [cleared k] at some
          split_ifs at some with same
          · exact absurd rfl some
          · rw [removals.iface] at some
            exact succeed k (List.mem_cons_of_mem stream member) some
      refine ⟨first ++ rest, u, Swept.cons sound removals groups swept, ?_⟩
      rw [run_bind_of_ok ran]
      rwa [show (t.track stream []).iface.reqEpoch = s.iface.reqEpoch from
        (congrArg reqEpoch removals.iface :)] at swept_ran

/-- A list has no element of a kind, or a first one. -/
theorem split_first (streams : List String) (p : String → Prop) :
    (∀ k ∈ streams, ¬p k) ∨ ∃ before stream after, streams = before ++ stream :: after ∧
      (∀ k ∈ before, ¬p k) ∧ p stream := by
  classical
  cases found : streams.find? fun k => decide (p k) with
  | none => exact Or.inl fun k member => by simpa using List.find?_eq_none.mp found k member
  | some stream =>
    obtain ⟨holds, before, after, split, earlier⟩ := List.find?_eq_some_iff_append.mp found
    exact Or.inr ⟨before, stream, after, split, fun k member => by simpa using earlier k member,
      by simpa using holds⟩

/-- The destinations of the first removal of a stream. -/
def firstGroup (iface : RemoteInterface) (destinations : List String) : List String :=
  (iface.deletionGroups destinations).headD []

/-- The first removal names everything on newer firmware, and one destination on older. -/
theorem subset_firstGroup_iff (iface : RemoteInterface) (destinations : List String) :
    (∀ d ∈ destinations, d ∈ iface.firstGroup destinations) ↔
      usesSingleRequest iface.visardVersion = true ∨
        ∀ d ∈ destinations, ∀ d' ∈ destinations, d = d' := by
  unfold firstGroup deletionGroups
  split_ifs with single
  · simp [single]
  · cases destinations with
    | nil => simp
    | cons head rest =>
      simp only [single, List.map_cons, List.headD_cons, List.mem_singleton, Bool.false_eq_true,
        false_or]
      constructor
      · exact fun same d member d' member' => (same d member).trans (same d' member').symm
      · exact fun same d member => same d member head List.mem_cons_self

/-- The sweep stops at the first stream whose removal fails: the streams before it are swept, of
its own destinations the first removal is sent, and nothing else is. -/
theorem run_sweep_fails {status : String → Int} (before after : List String) (stream : String)
    {s : Sys} (sound : Sound env s.iface) (answered : DeletesAnswered env s status)
    (succeed : ∀ k ∈ before, s.iface.tracked k ≠ [] → status k = 200)
    (some : s.iface.tracked stream ≠ []) (fails : status stream ≠ 200)
    (unswept : stream ∉ before) :
    ∃ events t, t.world.trace = s.world.trace ++ events ∧
      (∃ e, e.isException = true ∧
        (forM (before ++ stream :: after) (cleanUpStream env .copied s.iface.reqEpoch)).run s =
          .error e t) ∧
      (∀ k destination, Requested events k destination ↔
        k ∈ before ∧ destination ∈ s.iface.tracked k ∨
          k = stream ∧ destination ∈ s.iface.firstGroup (s.iface.tracked stream)) ∧
      (∀ k ∈ before, ∀ destination ∈ s.iface.tracked k, Acknowledged events k destination) ∧
      OnlyDeletes events := by
  obtain ⟨first, t, swept, ran⟩ := run_sweep env before sound answered succeed
  have same : t.iface.tracked stream = s.iface.tracked stream := by
    rw [swept.tracked, if_neg unswept]
  obtain ⟨rest, u, removals, groups, ends⟩ := run_cleanUpStream_copied env swept.sound
    (answered.later swept.tick) (same ▸ some)
  obtain ⟨_, e, caught, stopped⟩ := ends.resolve_left fun done => fails done.1
  rw [if_neg fails] at groups
  have version : t.iface.deletionGroups (t.iface.tracked stream) =
      s.iface.deletionGroups (s.iface.tracked stream) := by
    rw [same, deletionGroups, swept.version, ← deletionGroups]
  refine ⟨first ++ rest, u, ?_, ⟨e, caught, ?_⟩, fun k destination => ?_, ?_, ?_⟩
  · rw [removals.trace, swept.trace, List.append_assoc]
  · rw [List.forM_append, run_bind_of_ok ran, List.forM_cons, ← swept.epoch]
    exact run_bind_of_error stopped
  · have valid := deletionGroups_valid t.iface (swept.sound.valid stream)
    rw [requested_append, swept.requested, removals.requested_iff valid]
    refine or_congr_right (and_congr_right fun _ => ?_)
    rw [triedGroups, groups, version, firstGroup]
    cases s.iface.deletionGroups (s.iface.tracked stream) with
    | nil => simp
    | cons group others => simp
  · exact fun k member destination present =>
      acknowledged_append.mpr (Or.inl (swept.acknowledged k member destination present))
  · exact swept.onlyDeletes.append removals.onlyDeletes

/-- Streams with tracked destinations are keys. -/
theorem mem_keys_of_tracked {iface : RemoteInterface} {stream : String}
    (some : iface.tracked stream ≠ []) : stream ∈ iface.reqStreams.keys := by
  rw [Std.TreeMap.mem_keys]
  by_contra absent
  exact some (Std.TreeMap.getD_eq_fallback absent)

/-- The keys of the map are in their order. -/
theorem keys_ordered (iface : RemoteInterface) : iface.reqStreams.keys.Pairwise (· < ·) :=
  Std.TreeMap.ordered_keys.imp compare_lt_iff_lt.mp

/-- The keys around one of them are those below and those above it. -/
theorem keys_split {iface : RemoteInterface} {before after : List String} {stream : String}
    (split : iface.reqStreams.keys = before ++ stream :: after) :
    (∀ k ∈ before, k < stream) ∧ ∀ k ∈ after, stream < k := by
  have ordered := keys_ordered iface
  rw [split, List.pairwise_append, List.pairwise_cons] at ordered
  obtain ⟨_, ⟨above, _⟩, below⟩ := ordered
  exact ⟨fun k member => below k member stream List.mem_cons_self, above⟩

/-- The destructor ends where its clean-up does. -/
theorem final_destroy (traversal : Traversal) (s : Sys) :
    final ((destroy env traversal).run s) =
      final ((cleanUpRequestedStreams env traversal).run s) := by
  unfold destroy
  rw [EStateM.run_bind, run_tryCatch, EStateM.run_bind]
  cases (cleanUpRequestedStreams env traversal).run s with
  | ok _ t => rfl
  | error e t =>
    simp only
    split_ifs
    · rfl
    · rfl

/-- What was acknowledged to be removed is not at the device when only removals were. -/
theorem not_held_of_acknowledged {events : List Event} (only : OnlyDeletes events)
    {stream d : String} (acknowledged : Acknowledged events stream d) (device : Device)
    (history : List Event) : d ∉ device.after (changes (history ++ events)) stream := by
  intro held
  obtain ⟨destinations, member, named⟩ := acknowledged
  rw [changes_append, Ledger.Server.after_append] at held
  exact (Ledger.Server.mem_of_mem_after_deletes only held).2 destinations member named

/-- Some events clean up after an object: a removal names every tracked destination, and the
streams whose removals are answered 200 are cleared. -/
def CleansUp (s : Sys) (status : String → Int) (events : List Event) : Prop :=
  (∀ stream, ∀ d ∈ s.iface.tracked stream, Requested events stream d) ∧
    ∀ (device : Device) (stream : String), status stream = 200 →
      ∀ d ∈ s.iface.tracked stream,
        d ∉ device.after (changes (s.world.trace ++ events)) stream

/-- A sweep of all streams cleans up. -/
theorem Swept.cleansUp {status : String → Int} {events : List Event} {s t : Sys}
    (swept : Swept env s.iface.reqStreams.keys events s t) : CleansUp s status events := by
  have keyed {stream d : String} (member : d ∈ s.iface.tracked stream) :
      stream ∈ s.iface.reqStreams.keys := mem_keys_of_tracked (List.ne_nil_of_mem member)
  constructor
  · exact fun stream d member => (swept.requested stream d).mpr ⟨keyed member, member⟩
  · intro device stream _ d member
    have acknowledged := swept.acknowledged stream (keyed member) d member
    exact not_held_of_acknowledged swept.onlyDeletes acknowledged device s.world.trace

section Stopped

variable {status : String → Int} {s : Sys} {before after : List String} {first : String}
  {events : List Event}

/-- A stream with tracked destinations is before a key, is that key or is above it. -/
theorem tracked_position (split : s.iface.reqStreams.keys = before ++ first :: after)
    {stream : String} (tracked : s.iface.tracked stream ≠ []) :
    stream ∈ before ∨ stream = first ∨ first < stream := by
  have keyed := mem_keys_of_tracked tracked
  rw [split, List.mem_append, List.mem_cons] at keyed
  exact keyed.imp_right fun here => here.imp_right ((keys_split split).2 stream)

/-- When a sweep that stopped at a stream has named everything, nothing is tracked for streams
above it, and all of its own destinations are in its first removal. -/
theorem stopped_covers (split : s.iface.reqStreams.keys = before ++ first :: after)
    (requested : ∀ k destination, Requested events k destination ↔
      k ∈ before ∧ destination ∈ s.iface.tracked k ∨
        k = first ∧ destination ∈ s.iface.firstGroup (s.iface.tracked first))
    (covered : ∀ stream, ∀ d ∈ s.iface.tracked stream, Requested events stream d) :
    (∀ later, first < later → s.iface.tracked later = []) ∧
      ∀ d ∈ s.iface.tracked first, d ∈ s.iface.firstGroup (s.iface.tracked first) := by
  have below := (keys_split split).1
  constructor
  · intro later behind
    refine List.eq_nil_iff_forall_not_mem.mpr fun d member => ?_
    rcases (requested later d).mp (covered later d member) with ⟨swept, _⟩ | ⟨here, _⟩
    · exact absurd (below later swept) (not_lt_of_gt behind)
    · exact absurd behind (here ▸ lt_irrefl first)
  · intro d member
    rcases (requested first d).mp (covered first d member) with ⟨swept, _⟩ | ⟨_, named⟩
    · exact absurd (below first swept) (lt_irrefl first)
    · exact named

/-- When nothing is tracked for streams above the one at which a sweep stopped, and all of its own
destinations are in its first removal, the sweep has cleaned up. -/
theorem stopped_cleansUp (split : s.iface.reqStreams.keys = before ++ first :: after)
    (fails : status first ≠ 200)
    (requested : ∀ k destination, Requested events k destination ↔
      k ∈ before ∧ destination ∈ s.iface.tracked k ∨
        k = first ∧ destination ∈ s.iface.firstGroup (s.iface.tracked first))
    (acknowledged : ∀ k ∈ before, ∀ d ∈ s.iface.tracked k, Acknowledged events k d)
    (only : OnlyDeletes events)
    (empty : ∀ later, first < later → s.iface.tracked later = [])
    (named : ∀ d ∈ s.iface.tracked first, d ∈ s.iface.firstGroup (s.iface.tracked first)) :
    CleansUp s status events := by
  have position {stream d : String} (member : d ∈ s.iface.tracked stream) :
      stream ∈ before ∨ stream = first := by
    rcases tracked_position split (List.ne_nil_of_mem member) with swept | here | behind
    · exact Or.inl swept
    · exact Or.inr here
    · rw [empty stream behind] at member
      exact absurd member List.not_mem_nil
  constructor
  · intro stream d member
    rcases position member with swept | here
    · exact (requested stream d).mpr (Or.inl ⟨swept, member⟩)
    · subst here
      exact (requested stream d).mpr (Or.inr ⟨rfl, named d member⟩)
  · intro device stream ok d member
    rcases position member with swept | here
    · have removed := acknowledged stream swept d member
      exact not_held_of_acknowledged only removed device s.world.trace
    · exact absurd (here ▸ ok) fails

end Stopped

/-- The destructor, reading lists by copies, covers every tracked destination by a removal, and
clears the streams whose removals succeed, exactly when no stream whose removals fail comes
before another stream with tracked destinations and, on older firmware, such a stream has but
one destination tracked. -/
theorem destroy_covers_iff {s : Session} (reached : s.Reachable env) {status : String → Int}
    (answered : DeletesAnswered env s.sys status) :
    (∃ events, (final ((destroy env .copied).run s.sys)).world.trace =
          s.sys.world.trace ++ events ∧
        (∀ stream, ∀ d ∈ s.sys.iface.tracked stream, Requested events stream d) ∧
        ∀ (device : Device) (stream : String), status stream = 200 →
          ∀ d ∈ s.sys.iface.tracked stream,
            d ∉ device.after (changes (s.sys.world.trace ++ events)) stream) ↔
      ∀ stream, s.sys.iface.tracked stream ≠ [] → status stream ≠ 200 →
        (∀ later, stream < later → s.sys.iface.tracked later = []) ∧
        (usesSingleRequest s.sys.iface.visardVersion = true ∨
          ∀ d ∈ s.sys.iface.tracked stream, ∀ d' ∈ s.sys.iface.tracked stream, d = d') := by
  rw [final_destroy]
  unfold cleanUpRequestedStreams
  rw [run_this_bind]
  -- Either no stream fails, or one is the first that does and the sweep stops there.
  rcases split_first s.sys.iface.reqStreams.keys
    fun k => s.sys.iface.tracked k ≠ [] ∧ status k ≠ 200 with
    none | ⟨before, first, after, split, earlier, some, fails⟩
  · have succeed : ∀ k ∈ s.sys.iface.reqStreams.keys, s.sys.iface.tracked k ≠ [] →
        status k = 200 := fun k member tracked =>
      not_not.mp fun failed => none k member ⟨tracked, failed⟩
    obtain ⟨events, t, swept, ran⟩ := run_sweep env _ reached.sound answered succeed
    rw [ran]
    refine iff_of_true ⟨events, swept.trace, swept.cleansUp⟩ fun stream tracked failed => ?_
    exact absurd (succeed stream (mem_keys_of_tracked tracked) tracked) failed
  · have unswept : first ∉ before := fun member =>
      lt_irrefl first ((keys_split split).1 first member)
    have succeed : ∀ k ∈ before, s.sys.iface.tracked k ≠ [] → status k = 200 :=
      fun k member tracked => not_not.mp fun failed => earlier k member ⟨tracked, failed⟩
    obtain ⟨events, t, trace, ⟨e, _, ran⟩, requested, acknowledged, only⟩ :=
      run_sweep_fails env before after first reached.sound answered succeed some fails unswept
    rw [split, ran]
    constructor
    · rintro ⟨events', trace', covered, _⟩
      have same : events' = events := List.append_cancel_left (trace'.symm.trans trace)
      subst same
      obtain ⟨empty, named⟩ := stopped_covers split requested covered
      intro stream tracked failed
      have here : stream = first := by
        rcases tracked_position split tracked with swept | here | behind
        · exact absurd (succeed stream swept tracked) failed
        · exact here
        · exact absurd (empty stream behind) tracked
      subst here
      exact ⟨empty, (subset_firstGroup_iff _ _).mp named⟩
    · intro harmless
      obtain ⟨empty, alike⟩ := harmless first some fails
      have named := (subset_firstGroup_iff _ _).mpr alike
      exact ⟨events, trace,
        stopped_cleansUp split fails requested acknowledged only empty named⟩

/-- All removals of the obliging device succeed. -/
theorem obligingDevice_succeeds (s : Sys) : DeletesSucceed obligingDevice s :=
  fun _ _ _ _ _ _ => rfl

/-- A device that refuses removals from one of its streams. -/
def refusingDevice (refused : String) : Env :=
  { obligingDevice with
    http := fun n request =>
      if request.method = .delete ∧ request.resource = .datastream refused then
        ⟨500, request.url, "", "Internal Server Error"⟩
      else obligingDevice.http n request }

/-- A session with that device in which a destination has been requested for both streams. -/
def imuPoseSession (refused : String) : Session :=
  Session.after (refusingDevice refused) "192.168.0.10" 5000
    [.addDestinationToStream "imu" "192.168.0.5:40000",
      .addDestinationToStream "pose" "192.168.0.5:40001"]

/-- It is the end of a run. -/
theorem imuPoseSession_reachable (refused : String) :
    (imuPoseSession refused).Reachable (refusingDevice refused) := Session.reachable_after _ _ _ _

/-- The answers of that device to removals. -/
theorem refusingDevice_answers (refused : String) (s : Sys) :
    DeletesAnswered (refusingDevice refused) s fun stream =>
      if stream = refused then 500 else 200 := by
  intro n request stream _ delete resource
  simp only [refusingDevice, delete, resource, true_and, Resource.datastream.injEq]
  split_ifs <;> rfl

/-- The destructor leaves the second stream on the device, whose removal would succeed. -/
theorem destroy_blocked :
    DeletesAnswered (refusingDevice "imu") (imuPoseSession "imu").sys
        (fun stream => if stream = "imu" then 500 else 200) ∧
      ¬∃ events, (final ((destroy (refusingDevice "imu") .copied).run
            (imuPoseSession "imu").sys)).world.trace =
          (imuPoseSession "imu").sys.world.trace ++ events ∧
        (∀ stream, ∀ d ∈ (imuPoseSession "imu").sys.iface.tracked stream,
          Requested events stream d) ∧
        ∀ (device : Device) (stream : String), (if stream = "imu" then 500 else 200 : Int) = 200 →
          ∀ d ∈ (imuPoseSession "imu").sys.iface.tracked stream,
            d ∉ device.after (changes ((imuPoseSession "imu").sys.world.trace ++ events))
              stream := by
  refine ⟨refusingDevice_answers "imu" _, ?_⟩
  rintro ⟨events, trace, _, cleared⟩
  have gone := cleared (fun _ => ∅) "pose" (by decide) "192.168.0.5:40001" (by decide +kernel)
  rw [← trace] at gone
  exact gone (by decide +kernel)

/-- Where only the removals from the last stream fail, the destructor covers both streams, and
clears the first. -/
theorem destroy_covers_imuPose :
    ∃ events, (final ((destroy (refusingDevice "pose") .copied).run
          (imuPoseSession "pose").sys)).world.trace =
        (imuPoseSession "pose").sys.world.trace ++ events ∧
      Requested events "imu" "192.168.0.5:40000" ∧ Requested events "pose" "192.168.0.5:40001" ∧
      ∀ device : Device, "192.168.0.5:40000" ∉
        device.after (changes ((imuPoseSession "pose").sys.world.trace ++ events)) "imu" := by
  have keys : (imuPoseSession "pose").sys.iface.reqStreams.keys = ["imu", "pose"] := by
    decide +kernel
  have last : (imuPoseSession "pose").sys.iface.tracked "pose" = ["192.168.0.5:40001"] := by
    decide +kernel
  have first : (imuPoseSession "pose").sys.iface.tracked "imu" = ["192.168.0.5:40000"] := by
    decide +kernel
  have reached := imuPoseSession_reachable "pose"
  generalize imuPoseSession "pose" = s at keys last first reached ⊢
  have harmless : ∀ stream, s.sys.iface.tracked stream ≠ [] →
      (if stream = "pose" then 500 else 200 : Int) ≠ 200 →
      (∀ later, stream < later → s.sys.iface.tracked later = []) ∧
        (usesSingleRequest s.sys.iface.visardVersion = true ∨
          ∀ d ∈ s.sys.iface.tracked stream, ∀ d' ∈ s.sys.iface.tracked stream, d = d') := by
    intro stream _ fails
    obtain rfl : stream = "pose" := by
      by_contra other
      exact fails (if_neg other)
    refine ⟨fun later behind => ?_, Or.inr ?_⟩
    · by_contra some
      have key := mem_keys_of_tracked some
      rw [keys] at key
      rcases List.mem_pair.mp key with rfl | rfl
      · exact absurd behind (by decide)
      · exact lt_irrefl _ behind
    · rw [last]
      decide
  obtain ⟨events, trace, covered, cleared⟩ :=
    (destroy_covers_iff (refusingDevice "pose") reached (refusingDevice_answers "pose" _)).mpr
      harmless
  have imu : "192.168.0.5:40000" ∈ s.sys.iface.tracked "imu" := by
    rw [first]
    exact List.mem_singleton_self _
  have pose : "192.168.0.5:40001" ∈ s.sys.iface.tracked "pose" := by
    rw [last]
    exact List.mem_singleton_self _
  exact ⟨events, trace, covered "imu" _ imu, covered "pose" _ pose,
    fun device => cleared device "imu" rfl _ imu⟩

/-- Cleaning a stream by a reference to its own list cannot finish. -/
theorem run_cleanUpStream_aliased {s : Sys} (sound : Sound env s.iface)
    (succeed : DeletesSucceed env s) {stream : String} (some : s.iface.tracked stream ≠ []) :
    ∃ e t, e.isException = false ∧
      (cleanUpStream env .aliased s.iface.reqEpoch stream).run s = .error e t := by
  have available := sound.available stream some
  have groups := acceptedGroups_of_answered succeed s.iface stream
    (deletionGroups_valid s.iface (sound.valid stream)) (Nat.le_refl s.world.tick)
  rw [if_pos rfl] at groups
  obtain ⟨events, t, removals, ends⟩ :=
    run_deleteGroups env stream (s.iface.deletionGroups (s.iface.tracked stream)) s
  obtain ⟨_, ran⟩ := ends.resolve_right fun stopped => stopped.1 groups
  rw [← run_deleteRequests] at ran
  have read : (Destinations.read stream (.tracked s.iface.reqEpoch)).run s =
      .ok (s.iface.tracked stream) s := by
    rw [Destinations.read, run_bind_of_ok (run_requireEpoch rfl)]
    rfl
  have listed : (CellList.ofList (t.iface.tracked stream)).values ≠ [] := by
    rw [CellList.values_ofList, removals.iface]
    exact some
  refine ⟨.undefined "advanced from an erased list element", t, rfl, ?_⟩
  unfold cleanUpStream deleteDestinationsFromStream
  rw [run_this_bind, if_neg (by simpa using some)]
  refine run_bind_of_error ?_
  rw [run_bind_of_ok (run_checkStreamTypeAvailable env available), run_bind_of_ok read,
    run_bind_of_ok ran, eraseRequested, run_this_bind, CellList.rangeFor_eraseFirst listed]
  rfl

/-- Streams without tracked destinations are passed over. -/
theorem run_cleanUp_nil (traversal : Traversal) (epoch : Nat) {streams : List String} {s : Sys}
    (none : ∀ k ∈ streams, s.iface.tracked k = []) :
    (forM streams (cleanUpStream env traversal epoch)).run s = .ok () s := by
  induction streams with
  | nil => rfl
  | cons stream streams ih =>
    rw [List.forM_cons,
      run_bind_of_ok (run_cleanUpStream_nil env traversal epoch (none stream List.mem_cons_self))]
    exact ih fun k member => none k (List.mem_cons_of_mem stream member)

/-- The clean-up as the source stands finishes and leaves nothing tracked exactly when nothing
was tracked: at the first stream with a tracked destination the loop steps through the cell it
has erased. -/
theorem cleanUpRequestedStreams_aliased_iff {s : Session} (reached : s.Reachable env)
    (succeed : DeletesSucceed env s.sys) :
    (∃ t, (cleanUpRequestedStreams env .aliased).run s.sys = .ok () t ∧
        ∀ stream, t.iface.tracked stream = []) ↔
      ∀ stream, s.sys.iface.tracked stream = [] := by
  unfold cleanUpRequestedStreams
  rw [run_this_bind]
  constructor
  · rintro ⟨t, ran, _⟩ stream
    by_contra some
    rcases split_first s.sys.iface.reqStreams.keys fun k => s.sys.iface.tracked k ≠ [] with
      none | ⟨before, first, after, split, earlier, tracked⟩
    · exact none stream (mem_keys_of_tracked some) some
    · obtain ⟨e, u, _, stopped⟩ := run_cleanUpStream_aliased env reached.sound succeed tracked
      have passed := run_cleanUp_nil env .aliased s.sys.iface.reqEpoch
        fun k member => not_not.mp (earlier k member)
      rw [split, List.forM_append, run_bind_of_ok passed, List.forM_cons,
        run_bind_of_error stopped] at ran
      cases ran
  · intro none
    exact ⟨s.sys, run_cleanUp_nil env .aliased _ fun k _ => none k, none⟩

/-- A session in which the only requested destination has been removed again. -/
def emptiedSession : Session :=
  Session.after obligingDevice "192.168.0.10" 5000
    [.addDestinationToStream "pose" "192.168.0.5:40000",
      .deleteDestinationFromStream "pose" "192.168.0.5:40000"]

/-- It is the end of a run. -/
theorem emptiedSession_reachable : emptiedSession.Reachable obligingDevice :=
  Session.reachable_after _ _ _ _

/-- A stream whose list is empty again is passed over. -/
theorem cleanUpRequestedStreams_aliased_emptied :
    emptiedSession.sys.iface.reqStreams.keys = ["pose"] ∧
      ∃ t, (cleanUpRequestedStreams obligingDevice .aliased).run emptiedSession.sys = .ok () t ∧
        ∀ stream, t.iface.tracked stream = [] := by
  have keys : emptiedSession.sys.iface.reqStreams.keys = ["pose"] := by decide +kernel
  refine ⟨keys, (cleanUpRequestedStreams_aliased_iff obligingDevice emptiedSession_reachable
    (obligingDevice_succeeds emptiedSession.sys)).mpr ?_⟩
  intro stream
  by_contra some
  have key := mem_keys_of_tracked some
  rw [keys] at key
  rw [List.mem_singleton.mp key] at some
  exact some (by decide +kernel)

/-- One tracked destination is enough for the clean-up to step through an erased cell. -/
theorem cleanUpRequestedStreams_steps_through_erased :
    DeletesSucceed obligingDevice poseSession.sys ∧
      ¬∃ t, (cleanUpRequestedStreams obligingDevice .aliased).run poseSession.sys = .ok () t ∧
        ∀ stream, t.iface.tracked stream = [] := by
  refine ⟨obligingDevice_succeeds _, ?_⟩
  rintro ⟨t, ran, _⟩
  have stopped : returned ((cleanUpRequestedStreams obligingDevice .aliased).run
      poseSession.sys) = false := by decide +kernel
  rw [ran] at stopped
  cases stopped

end RemoteInterface

end RcDynamics
