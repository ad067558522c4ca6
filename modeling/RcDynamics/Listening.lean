import RcDynamics.Budget
import RcDynamics.Footprints

/-!
# Listening

A receiver is asked for messages by its owner, and by the call that makes it, once, for the first
message. Every other call leaves the sockets alone: it asks no receiver for anything. The number of
a question grows, so what is heard later has a greater number.
-/

namespace RcDynamics

open Effect

/-- Time passes, and no receiver is asked. -/
structure Deaf (s t : Sys) : Prop where
  tick : s.world.tick ≤ t.world.tick
  receives : receives t.world.trace = receives s.world.trace

instance : Std.Refl Deaf := ⟨fun _ => ⟨Nat.le_refl _, rfl⟩⟩

instance : IsTrans Sys Deaf where
  trans _ _ _ first second :=
    ⟨Nat.le_trans first.tick second.tick, second.receives.trans first.receives⟩

/-- What is aside asks no receiver. -/
theorem Aside.deaf {β : Type} {observe : RemoteInterface → β} {s t : Sys}
    (aside : Aside observe s t) : Deaf s t where
  tick := aside.tick
  receives := by
    obtain ⟨events, trace, _, silent⟩ := aside.trace
    rw [trace, receives_append, silent.receives, List.append_nil]

/-- A computation that is aside asks no receiver. -/
theorem within_deaf {β : Type} {observe : RemoteInterface → β} {α : Type} {call : Call α} {s : Sys}
    (aside : Within (Aside observe) call s) : Within Deaf call s := aside.mono fun _ => Aside.deaf

/-- What requests take asks no receiver. -/
theorem Deaf.converses (P : Request → Prop) : Converses P Deaf where
  iface s f := ⟨Nat.le_refl _, rfl⟩
  tick s := ⟨Nat.le_succ _, rfl⟩
  http s request response _ := by
    refine ⟨Nat.le_refl _, ?_⟩
    rw [receives_append]
    exact List.append_nil _
  wait s ms := by
    refine ⟨Nat.le_refl _, ?_⟩
    rw [receives_append]
    exact List.append_nil _

/-- Changing the object asks no receiver. -/
theorem setIface_deaf (f : RemoteInterface → RemoteInterface) (s : Sys) :
    Within Deaf (setIface f) s := setIface_allowed (Deaf.converses fun _ => True) f s

namespace RemoteInterface

variable (env : Env)

/-- Getting asks no receiver, whatever it gets. -/
theorem deaf_of_get (resource : Resource) : Gets (fun _ => True) resource :=
  fun _ _ _ => trivial

/-- Checking a stream asks no receiver. -/
theorem checkStreamTypeAvailable_deaf (stream : String) (s : Sys) :
    Within Deaf (checkStreamTypeAvailable env stream) s :=
  checkStreamTypeAvailable_allowed (Deaf.converses _) env (deaf_of_get _) (deaf_of_get _) stream s

/-- Looking up a type asks no receiver. -/
theorem protobufOf_deaf (stream : String) (s : Sys) : Within Deaf (protobufOf stream) s := by
  apply (setIface_deaf _ s).bind
  intro _ t _
  apply (this_within t).bind
  intro _ t _
  exact Within.pure _ t

/-- Adding a destination asks no receiver. -/
theorem addDestinationToStream_deaf (stream destination : String) (s : Sys) :
    Within Deaf (addDestinationToStream env stream destination) s :=
  addDestinationToStream_allowed env stream (Deaf.converses _) s

/-- Nor does that of a receiver. -/
theorem destroyReceiver_deaf (receiver : TrackedDataReceiver) (s : Sys) :
    Within Deaf (receiver.destroy env) s := by
  have deleted : Within Deaf
      (deleteDestinationFromStream env receiver.stream receiver.dest) s :=
    deleteDestinationFromStream_allowed env receiver.stream (Deaf.converses _) s
  apply Within.bind
  · apply deleted.tryCatch
    intro e t _
    split
    · exact Within.pure () t
    · exact Within.throw e t
  · intro _ t _
    exact within_deaf (closeSocket_quiet receiver.sockfd t)

end RemoteInterface

/-- Time passes, and a receiver is asked at most so many times. -/
structure Hears (n : Nat) (s t : Sys) : Prop where
  tick : s.world.tick ≤ t.world.tick
  receives : ∃ asked, asked.length ≤ n ∧
    receives t.world.trace = receives s.world.trace ++ asked

/-- The times add up. -/
theorem hears_budgeted : Budgeted Hears where
  stay s := ⟨Nat.le_refl _, [], Nat.le_refl _, (List.append_nil _).symm⟩
  add first second := by
    obtain ⟨early, few, before⟩ := first.receives
    obtain ⟨late, more, after⟩ := second.receives
    refine ⟨Nat.le_trans first.tick second.tick, early ++ late, ?_, ?_⟩
    · rw [List.length_append]
      omega
    · rw [after, before, List.append_assoc]
  more larger hears := by
    obtain ⟨asked, few, trace⟩ := hears.receives
    exact ⟨hears.tick, asked, Nat.le_trans few larger, trace⟩

/-- No time is needed to ask no receiver. -/
theorem Deaf.hears {s t : Sys} (deaf : Deaf s t) (n : Nat) : Hears n s t where
  tick := deaf.tick
  receives := ⟨[], Nat.zero_le n, deaf.receives.trans (List.append_nil _).symm⟩

/-- Asking a receiver takes one. -/
theorem DataReceiver.receive_hears (env : Env) (receiver : DataReceiver) (pbMsgType : String)
    (s : Sys) : Within (Hears 1) (receiver.receive env pbMsgType) s := by
  have deaf : Deaf _ (final ((receiver.receive env pbMsgType).run s)) :=
    (receiver.run_receive env pbMsgType s).deaf
  refine ⟨deaf.tick, [pbMsgType], Nat.le_refl _, ?_⟩
  have heard := deaf.receives
  rwa [Sys.advance, receives_append] at heard

/-- Making a receiver asks it once at most, for its first message. -/
theorem RemoteInterface.createReceiverForStream_hears (env : Env) (stream destInterface : String)
    (destPort : BitVec 32) (s : Sys) :
    Within (Hears 1) (createReceiverForStream env stream destInterface destPort) s := by
  have silent {α : Type} {call : Call α} {t : Sys} (deaf : Within Deaf call t) :
      Within (Hears 0) call t := deaf.mono fun _ deaf => deaf.hears 0
  have quiet {α : Type} {call : Call α} {t : Sys} (quiet : Within Quiet call t) :
      Within (Hears 0) call t := silent (within_deaf quiet)
  apply hears_budgeted.free (silent (checkStreamTypeAvailable_deaf env stream s))
  intro _ t _
  apply hears_budgeted.free (quiet (tick_aside t))
  intro n t _
  apply hears_budgeted.free (quiet (this_within t))
  intro iface t _
  split
  · exact hears_budgeted.throw _ t
  · rename_i destAddress _
    apply hears_budgeted.free
      (quiet (TrackedDataReceiver.construct_quiet env destAddress destPort stream t))
    rintro ⟨receiver, port⟩ t _
    have established : Within (Hears 1)
        (establish env receiver stream (destAddress ++ ":" ++ toString port.toNat)) t := by
      apply hears_budgeted.free (silent (addDestinationToStream_deaf env stream _ t))
      intro _ t _
      apply hears_budgeted.free (quiet (receiver.setTimeout_quiet env initialTimeOut t))
      intro _ t _
      apply hears_budgeted.free (silent (protobufOf_deaf stream t))
      intro pbMsgType t _
      apply hears_budgeted.bind (n := 0) (receiver.receive_hears env pbMsgType t)
      intro msg t _
      split
      · exact quiet (explainTimeout_quiet env t)
      · exact quiet (receiver.setTimeout_quiet env 100 t)
    apply hears_budgeted.bind (n := 0)
    · apply hears_budgeted.unwinding (n := 0) established
      intro e u _
      exact silent (destroyReceiver_deaf env receiver u)
    · intro _ u _
      exact hears_budgeted.pure receiver u

end RcDynamics
