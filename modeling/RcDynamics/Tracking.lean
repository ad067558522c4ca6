import RcDynamics.Moves

/-!
# Tracking of requested destinations

The ledger of an object is its `req_streams_` together with the requests that the device has
acknowledged. Every move is a step of that ledger or leaves it as it is, because an object that
is not initialised tracks nothing: the lazy initialisation, which clears `req_streams_`, clears
nothing. Only an explicit `checkSystemReady` forgets.
-/

namespace RcDynamics

open Effect

/-- What is tracked after a list has been replaced. -/
theorem tracked_track (iface : RemoteInterface) (k stream : String) (destinations : List String) :
    (iface.track k destinations).tracked stream =
      if stream = k then destinations else iface.tracked stream := by
  unfold RemoteInterface.track RemoteInterface.tracked
  simp only [Std.TreeMap.getD_insert, Std.LawfulEqCmp.compare_eq_iff_eq]
  by_cases same : stream = k
  · simp [same]
  · simp [same, Ne.symm same]

/-- Nothing is tracked in a cleared map. -/
theorem tracked_of_cleared {iface : RemoteInterface} (cleared : iface.reqStreams = ∅)
    (stream : String) : iface.tracked stream = [] := by
  unfold RemoteInterface.tracked
  rw [cleared]
  exact Std.TreeMap.getD_emptyc

/-- Tracked destinations belong to available streams and can be printed. -/
structure Sound (env : Env) (iface : RemoteInterface) : Prop where
  available : ∀ stream, iface.tracked stream ≠ [] → Available iface stream
  valid : ∀ stream, ∀ destination ∈ iface.tracked stream, env.utf8 destination = true

/-- An object that tracks nothing is sound. -/
theorem Sound.of_untracked {env : Env} {iface : RemoteInterface}
    (untracked : ∀ stream, iface.tracked stream = []) : Sound env iface where
  available stream some := absurd (untracked stream) some
  valid stream destination member := by
    rw [untracked stream] at member
    exact absurd member List.not_mem_nil

/-- An object that is not initialised tracks nothing. -/
theorem Sound.untracked {env : Env} {iface : RemoteInterface} (sound : Sound env iface)
    (unset : iface.initialized = false) (stream : String) : iface.tracked stream = [] := by
  by_contra some
  exact absurd ((sound.available stream some).initialized.symm.trans unset) (by decide)

/-- Replacing the list of an available stream by one that can be printed is sound. -/
theorem Sound.track {env : Env} {iface : RemoteInterface} (sound : Sound env iface)
    {k : String} (available : Available iface k) {destinations : List String}
    (valid : ∀ destination ∈ destinations, env.utf8 destination = true) :
    Sound env (iface.track k destinations) where
  available stream some := by
    rw [tracked_track] at some
    have known : Available iface stream := by
      split_ifs at some with same
      · exact same ▸ available
      · exact sound.available stream some
    exact known.track k destinations
  valid stream destination member := by
    rw [tracked_track] at member
    split_ifs at member
    · exact valid destination member
    · exact sound.valid stream destination member

/-- Moves keep an object sound. -/
theorem Move.sound {env : Env} {s t : Sys} (move : Move env s t) (sound : Sound env s.iface) :
    Sound env t.iface := by
  cases move with
  | quiet quiet => rwa [quiet.iface]
  | initialise _ initialised =>
    exact .of_untracked (tracked_of_cleared initialised.reqStreams)
  | touch _ => exact ⟨fun stream some => (sound.available stream some).touch _, sound.valid⟩
  | listen _ => exact sound
  | @register stream destination events t available valid extends' _ _ =>
    have same := extends'.iface
    refine Sound.track (same ▸ sound) (same ▸ available) fun d member => ?_
    rcases List.mem_append.mp member with old | new
    · exact sound.valid stream d (same ▸ old)
    · exact List.mem_singleton.mp new ▸ valid
  | @release stream groups events t available extends' _ _ =>
    have same := extends'.iface
    refine Sound.track (same ▸ sound) (same ▸ available) fun d member => ?_
    exact sound.valid stream d (same ▸ Ledger.mem_of_mem_foldl_erase member)
  | lose extends' _ _ => exact extends'.iface ▸ sound

/-- The ledger after a list has been replaced. -/
theorem ledger_track {s t : Sys} {events : List Event} (extends' : Sys.Extends events s t)
    (stream : String) (destinations : List String) :
    (t.track stream destinations).ledger =
      ⟨Function.update s.ledger.tracked stream destinations,
        s.ledger.history ++ changes events⟩ := by
  unfold Sys.ledger Sys.track
  congr 1
  · funext k
    rw [tracked_track, extends'.iface]
    by_cases same : k = stream
    · subst same
      simp
    · simp [same]
  · rw [extends'.trace, changes_append]

/-- Where nothing is changed, the ledger stays. -/
theorem ledger_of_unchanged {s t : Sys} {events : List Event}
    (tracked : ∀ stream, t.iface.tracked stream = s.iface.tracked stream)
    (trace : t.world.trace = s.world.trace ++ events) (unchanged : changes events = []) :
    t.ledger = s.ledger := by
  unfold Sys.ledger
  congr 1
  · exact funext tracked
  · rw [trace, changes_append, unchanged, List.append_nil]

/-- Moves are steps of the ledger, or leave it as it is. -/
theorem Move.steps {env : Env} {s t : Sys} (move : Move env s t) (sound : Sound env s.iface) :
    Ledger.Steps s.ledger t.ledger := by
  cases move with
  | quiet quiet =>
    obtain ⟨events, trace, unchanged, _⟩ := quiet.trace
    rw [ledger_of_unchanged (fun stream => by rw [quiet.iface]) trace unchanged]
  | initialise unset initialised =>
    obtain ⟨events, trace, unchanged⟩ := initialised.trace
    rw [ledger_of_unchanged (fun stream => ?_) trace unchanged]
    rw [tracked_of_cleared initialised.reqStreams, sound.untracked unset]
  | touch _ => exact .refl
  | listen pbMsgType =>
    have heard : (s.advance s.world.tick [.receive pbMsgType]).ledger = s.ledger :=
      ledger_of_unchanged (fun _ => rfl) (Sys.advance_trace s s.world.tick _) rfl
    rw [heard]
  | @register stream destination events t _ _ extends' changed _ =>
    rw [ledger_track extends', changed, extends'.iface]
    exact .single (.register s.ledger stream destination)
  | @release stream groups events t _ extends' changed _ =>
    rw [ledger_track extends', changed, extends'.iface]
    exact .single (.release s.ledger stream groups)
  | @lose stream groups events _ extends' changed _ =>
    have lost : t.ledger = s.ledger.lose stream groups := by
      unfold Sys.ledger Ledger.State.lose
      rw [extends'.iface, extends'.trace, changes_append, changed]
    rw [lost]
    exact .single (.lose s.ledger stream groups)

/-- Paths of moves keep an object sound and are paths of the ledger. -/
theorem Moves.steps {env : Env} {s t : Sys} (moves : Moves env s t)
    (sound : Sound env s.iface) : Sound env t.iface ∧ Ledger.Steps s.ledger t.ledger := by
  induction moves with
  | refl => exact ⟨sound, .refl⟩
  | tail _ move ih => exact ⟨move.sound ih.1, ih.2.trans (move.steps ih.1)⟩

/-- An explicit `checkSystemReady` forgets the ledger. -/
theorem ledger_of_initialised {env : Env} {s t : Sys}
    (initialised : RemoteInterface.Initialised env s t) : t.ledger = s.ledger.forget := by
  obtain ⟨events, trace, unchanged⟩ := initialised.trace
  unfold Sys.ledger Ledger.State.forget
  rw [trace, changes_append, unchanged, List.append_nil]
  congr 1
  exact funext (tracked_of_cleared initialised.reqStreams)

/-- A trace only grows. -/
theorem Moves.trace {env : Env} {s t : Sys} (moves : Moves env s t) :
    ∃ events, t.world.trace = s.world.trace ++ events := by
  induction moves with
  | refl => exact ⟨[], (List.append_nil _).symm⟩
  | tail _ move ih =>
    obtain ⟨early, earlyTrace⟩ := ih
    obtain ⟨late, lateTrace⟩ : ∃ events, _ = _ ++ events := by
      cases move with
      | quiet quiet => exact quiet.trace.imp fun _ => And.left
      | initialise _ initialised => exact initialised.trace.imp fun _ => And.left
      | touch _ => exact ⟨[], (List.append_nil _).symm⟩
      | listen pbMsgType => exact ⟨[.receive pbMsgType], rfl⟩
      | register _ _ extends' _ _ => exact ⟨_, extends'.trace⟩
      | release _ extends' _ _ => exact ⟨_, extends'.trace⟩
      | lose extends' _ _ => exact ⟨_, extends'.trace⟩
    exact ⟨early ++ late, by rw [lateTrace, earlyTrace, List.append_assoc]⟩

namespace Session

variable {env : Env}

/-- Every step but an explicit `checkSystemReady` moves. -/
theorem exec_moves (s : Session) {operation : Operation}
    (implicit : operation ≠ .checkSystemReady) : Moves env s.sys (s.exec env operation).sys :=
  exec_within (operation.perform_moves env s.receivers implicit s.sys)

/-- An explicit `checkSystemReady` initialises. -/
theorem exec_checkSystemReady {s : Session} (alive : s.crashed = false) :
    RemoteInterface.Initialised env s.sys (s.exec env .checkSystemReady).sys := by
  rw [exec_alive alive, Operation.perform, final_discard]
  exact RemoteInterface.checkSystemReady_initialised env s.sys

/-- What holds of new and of freshly initialised objects, and is kept by moves, holds of every
reachable state. -/
theorem Reachable.induction {P : Sys → Prop}
    (initially : ∀ rcVisardIp requestsTimeout, P (begin rcVisardIp requestsTimeout).sys)
    (initialised : ∀ s t, RemoteInterface.Initialised env s t → P t)
    (step : ∀ s t, Moves env s t → P s → P t) {s : Session} (reached : s.Reachable env) :
    P s.sys := by
  obtain ⟨rcVisardIp, requestsTimeout, operations, rfl⟩ := reached
  apply after_induction (P := fun s => P s.sys)
  · exact initially rcVisardIp requestsTimeout
  · intro s operation holds
    by_cases explicit : operation = .checkSystemReady
    · subst explicit
      cases crashed : s.crashed with
      | true => rwa [exec_crashed crashed]
      | false => exact initialised s.sys _ (exec_checkSystemReady crashed)
    · exact step s.sys _ (exec_moves s explicit) holds

/-- Every reachable state is sound. -/
theorem Reachable.sound {s : Session} (reached : s.Reachable env) : Sound env s.sys.iface := by
  apply Reachable.induction (P := fun s => Sound env s.iface) _ _ _ reached
  · exact fun _ _ => .of_untracked (tracked_of_cleared rfl)
  · exact fun _ _ initialised => .of_untracked (tracked_of_cleared initialised.reqStreams)
  · exact fun _ _ moves sound => (moves.steps sound).1

/-- Exact bookkeeping of a step. Whether it returns or throws, and whatever is answered, an
occurrence of a destination is added once for each PUT of it answered 200 in the step, and
occurrences are removed at most as often as DELETE requests answered 200 name it. An object that
is still to be initialised tracks nothing, so its lazy initialisation clears nothing. -/
theorem exec_bookkeeping {s : Session} (reached : s.Reachable env) {operation : Operation}
    (implicit : operation ≠ .checkSystemReady) :
    (∃ events, (s.exec env operation).sys.world.trace = s.sys.world.trace ++ events ∧
      ∀ stream destination, ∃ removed,
        ((s.exec env operation).sys.iface.tracked stream).count destination + removed =
            (s.sys.iface.tracked stream).count destination +
              Ledger.registrations (changes events) stream destination ∧
          removed ≤ Ledger.removals (changes events) stream destination) ∧
      (s.sys.iface.initialized = false → ∀ stream, s.sys.iface.tracked stream = []) := by
  have sound := reached.sound
  have moves : Moves env s.sys (s.exec env operation).sys := exec_moves s implicit
  obtain ⟨events, trace⟩ := moves.trace
  obtain ⟨more, history, counts⟩ := (moves.steps sound).2.booked
  have same : changes events = more := by
    simp only [Sys.ledger] at history
    rw [trace, changes_append] at history
    exact List.append_cancel_left history
  exact ⟨⟨events, trace, same ▸ counts⟩, sound.untracked⟩

/-- The one tracked destination of a stream is removed by an acknowledged removal of it. -/
theorem exec_bookkeeping_removal :
    ∃ events, (poseSession.exec obligingDevice
          (.deleteDestinationFromStream "pose" "192.168.0.5:40000")).sys.world.trace =
        poseSession.sys.world.trace ++ events ∧
      1 ≤ Ledger.removals (changes events) "pose" "192.168.0.5:40000" := by
  obtain ⟨⟨events, trace, counts⟩, _⟩ := exec_bookkeeping poseSession_reachable
    (show Operation.deleteDestinationFromStream "pose" "192.168.0.5:40000" ≠ .checkSystemReady by
      decide)
  obtain ⟨removed, counted, bound⟩ := counts "pose" "192.168.0.5:40000"
  have before : (poseSession.sys.iface.tracked "pose").count "192.168.0.5:40000" = 1 := by
    decide +kernel
  have after : ((poseSession.exec obligingDevice
      (.deleteDestinationFromStream "pose" "192.168.0.5:40000")).sys.iface.tracked "pose").count
        "192.168.0.5:40000" = 0 := by decide +kernel
  exact ⟨events, trace, by omega⟩

end Session

end RcDynamics
