import RcDynamics.CleanUp

/-!
# Leaked streams

Whether everything that an object has registered and that is still on the device is in its
`req_streams_`, over whole runs and up to the destructor. Every step but one keeps it so: an
explicit `checkSystemReady` forgets the lists and is harmless only when nothing of the object's
is left on the device.
-/

namespace RcDynamics

open Effect

namespace RemoteInterface

/-- The clean-up, reading lists by copies, moves from every state. -/
theorem cleanUpRequestedStreams_moves (env : Env) (s : Sys) :
    Within (Moves env) (cleanUpRequestedStreams env .copied) s := by
  refine (within_moves (this_within s)).bind fun iface t _ => ?_
  refine Within.forM iface.reqStreams.keys fun stream _ t => ?_
  refine (within_moves (this_within t)).bind fun known t _ => ?_
  dsimp only
  split
  · exact Within.pure () t
  · refine (deleteDestinationsFromStream_moves env stream _ t).bind fun _ t _ => ?_
    exact within_moves (requireEpoch_within iface.reqEpoch t)

end RemoteInterface

namespace Session

variable {env : Env} {device : Device}

/-- Every step but an explicit `checkSystemReady` keeps the ledger above what is left. -/
theorem exec_covers {s : Session} (sound : Sound env s.sys.iface) {operation : Operation}
    (implicit : operation ≠ .checkSystemReady) (covers : Ledger.Covers device s.sys.ledger) :
    Ledger.Covers device (s.exec env operation).sys.ledger :=
  ((exec_moves s implicit).steps sound).2.covers covers

/-- After an explicit `checkSystemReady` the ledger is above what is left exactly when nothing
is. -/
theorem exec_checkSystemReady_covers {s : Session} (alive : s.crashed = false) :
    Ledger.Covers device (s.exec env .checkSystemReady).sys.ledger ↔
      ∀ stream d, ¬Ledger.Left device (changes s.sys.world.trace) stream d := by
  rw [ledger_of_initialised (exec_checkSystemReady alive), Ledger.covers_forget]
  rfl

/-- When the ledger is above what is left and all removals succeed, the destructor leaves
nothing of the object's on the device. -/
theorem destroy_leaves_nothing {s : Sys} (sound : Sound env s.iface)
    (covers : Ledger.Covers device s.ledger) (succeed : DeletesSucceed env s)
    (stream d : String) :
    ¬Ledger.Left device
      (changes (final ((RemoteInterface.destroy env .copied).run s)).world.trace) stream d := by
  rw [RemoteInterface.final_destroy]
  have moves := RemoteInterface.cleanUpRequestedStreams_moves env s
  obtain ⟨events, t, swept, ran⟩ := RemoteInterface.run_sweep env s.iface.reqStreams.keys sound
    succeed fun _ _ _ => rfl
  have cleaned : (RemoteInterface.cleanUpRequestedStreams env .copied).run s = .ok () t := ran
  rw [cleaned]
  intro left
  have tracked := (Moves.steps (moves.of_ok cleaned) sound).2.covers covers stream d left
  have none : t.ledger.tracked stream = [] := by
    by_cases known : s.iface.tracked stream = []
    · exact (swept.tracked stream).trans (by rw [known, ite_self])
    · exact (swept.tracked stream).trans (if_pos (RemoteInterface.mem_keys_of_tracked known))
  rw [none] at tracked
  exact absurd tracked List.not_mem_nil

/-- Every explicit `checkSystemReady` of a run is called while nothing that the object has
registered is on the device. -/
def ForgetsNothing (env : Env) (device : Device) (rcVisardIp : String) (requestsTimeout : Int)
    (operations : List Operation) : Prop :=
  ∀ earlier, earlier ++ [.checkSystemReady] <+: operations →
    (after env rcVisardIp requestsTimeout earlier).crashed = false →
    ∀ stream d, ¬Ledger.Left device
      (changes (after env rcVisardIp requestsTimeout earlier).sys.world.trace) stream d

section Forgetting

variable {rcVisardIp : String} {requestsTimeout : Int} {operations : List Operation}

/-- A run that calls `checkSystemReady` explicitly at its start at most forgets nothing. -/
theorem forgetsNothing_of_tail (once : .checkSystemReady ∉ operations.tail) :
    ForgetsNothing env device rcVisardIp requestsTimeout operations := by
  rintro earlier ⟨later, called⟩ _ stream d left
  cases earlier with
  | nil => exact absurd left.1 (Nat.lt_irrefl 0)
  | cons operation earlier =>
    subst called
    exact once (List.mem_append_left later (List.mem_append_right earlier List.mem_cons_self))

/-- A run that forgets nothing keeps the ledger above what is left. -/
theorem covers_of_forgetsNothing
    (harmless : ForgetsNothing env device rcVisardIp requestsTimeout operations) :
    ∀ earlier, earlier <+: operations →
      Ledger.Covers device (after env rcVisardIp requestsTimeout earlier).sys.ledger := by
  intro earlier
  induction earlier using List.reverseRecOn with
  | nil => exact fun _ stream d left => absurd left.1 (Nat.lt_irrefl 0)
  | append_singleton earlier operation ih =>
    intro called
    have before := ih ((List.prefix_append earlier [operation]).trans called)
    rw [after_concat]
    by_cases explicit : operation = .checkSystemReady
    · subst explicit
      cases crashed : (after env rcVisardIp requestsTimeout earlier).crashed with
      | true => rwa [exec_crashed crashed]
      | false => exact (exec_checkSystemReady_covers crashed).mpr (harmless _ called crashed)
    · have reached := reachable_after env rcVisardIp requestsTimeout earlier
      exact exec_covers reached.sound explicit before

end Forgetting

/-- No leaked streams. Over every run, whatever is answered, every state reached tracks all that
the object has registered and that is still on the device, and the destructor then leaves none of
it when its removals succeed, exactly when every explicit `checkSystemReady` is called while
nothing that the object has registered is on the device. -/
theorem tracks_what_is_left_iff (env : Env) (device : Device) (rcVisardIp : String)
    (requestsTimeout : Int) (operations : List Operation) :
    ((∀ earlier, earlier <+: operations →
        Ledger.Covers device (after env rcVisardIp requestsTimeout earlier).sys.ledger) ∧
      (DeletesSucceed env (after env rcVisardIp requestsTimeout operations).sys →
        ∀ stream d, ¬Ledger.Left device
          (changes (final ((RemoteInterface.destroy env .copied).run
            (after env rcVisardIp requestsTimeout operations).sys)).world.trace) stream d)) ↔
      ∀ earlier, earlier ++ [.checkSystemReady] <+: operations →
        (after env rcVisardIp requestsTimeout earlier).crashed = false →
        ∀ stream d, ¬Ledger.Left device
          (changes (after env rcVisardIp requestsTimeout earlier).sys.world.trace) stream d := by
  constructor
  · rintro ⟨covers, _⟩ earlier called alive
    have after := covers _ called
    rw [after_concat] at after
    exact (exec_checkSystemReady_covers alive).mp after
  · intro harmless
    have covers := covers_of_forgetsNothing harmless
    have reached := reachable_after env rcVisardIp requestsTimeout operations
    exact ⟨covers, destroy_leaves_nothing reached.sound (covers operations List.prefix_rfl)⟩

/-- A destination requested before `checkSystemReady` is called again is on the device and not
tracked any more. -/
theorem leaked_by_checkSystemReady :
    ¬Ledger.Covers (fun _ => ∅) (after obligingDevice "192.168.0.10" 5000
      [.addDestinationToStream "pose" "192.168.0.5:40000", .checkSystemReady]).sys.ledger :=
  fun covers => absurd
    (covers "pose" "192.168.0.5:40000" ⟨by decide +kernel, by decide +kernel⟩)
    (by decide +kernel)

end Session

end RcDynamics
