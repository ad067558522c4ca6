import RcDynamics.Addresses
import RcDynamics.CleanUp

/-!
# Receivers

`createReceiverForStream` binds a socket, requests the stream for it and waits for a first
message; every exception after the socket is bound destroys the receiver, which removes its own
destination from the device. The destruction does not ask who had registered that destination:
one that an earlier call had registered is removed with it.
-/

namespace RcDynamics

open Effect

/-- What the registration of destinations depends on. -/
def registry (iface : RemoteInterface) : Bool × List String × StreamMap :=
  (iface.initialized, iface.availStreams, iface.reqStreams)

/-- What is tracked is part of the registry. -/
theorem Harmless.tracked {s t : Sys} (harmless : Harmless registry s t) (stream : String) :
    t.iface.tracked stream = s.iface.tracked stream :=
  congrArg (fun entry => entry.2.2.getD stream []) harmless.observed

/-- What is available is part of the registry. -/
theorem Harmless.available {s t : Sys} (harmless : Harmless registry s t) {stream : String}
    (available : Available s.iface stream) : Available t.iface stream where
  initialized := (congrArg Prod.fst harmless.observed).trans available.initialized
  listed := by
    have same : t.iface.availStreams = s.iface.availStreams :=
      (congrArg (fun entry => entry.2.1) harmless.observed :)
    exact same ▸ available.listed

/-- An extension without changes is harmless. -/
theorem Sys.Extends.harmless {events : List Event} {s t : Sys} (extends' : Sys.Extends events s t)
    (unchanged : changes events = []) : Harmless registry s t :=
  ⟨congrArg registry extends'.iface, extends'.tick, events, extends'.trace, unchanged⟩

/-- Where the registry is left alone, the device acknowledges nothing. -/
theorem Harmless.changes {s t : Sys} (harmless : Harmless registry s t) :
    changes t.world.trace = changes s.world.trace := by
  obtain ⟨events, trace, unchanged⟩ := harmless.trace
  rw [trace, changes_append, unchanged, List.append_nil]

/-- The destination that a receiver bound by a call has: an address of this host and a port, the
one asked for unless the system is to choose. -/
def ReceiverDestination (env : Env) (s : Sys) (destInterface : String) (destPort : BitVec 32)
    (own : String) : Prop :=
  ∃ address port, getThisHostsIP (env.getifaddrs s.world.tick) s.iface.visardAddrs destInterface =
      some address ∧ (destPort ≠ 0 → port = destPort) ∧
    own = address ++ ":" ++ toString port.toNat

/-- Texts in ASCII are valid UTF-8. -/
def Env.PrintsAscii (env : Env) : Prop :=
  ∀ s : String, (∀ c ∈ s.toList, c.toNat < 128) → env.utf8 s = true

/-- The destination of a receiver is a text in ASCII. -/
theorem ReceiverDestination.ascii {env : Env} {s : Sys} {destInterface own : String}
    {destPort : BitVec 32} (destination : ReceiverDestination env s destInterface destPort own) :
    ∀ c ∈ own.toList, c.toNat < 128 := by
  obtain ⟨address, port, host, _, rfl⟩ := destination
  have digits (n : Nat) : ∀ c ∈ Nat.toDigits 10 n, c.toNat < 128 := fun c member =>
    Decimal.ascii_of_isDigit (Decimal.isDigit_toDigits n c member)
  intro c member
  simp only [String.toList_append, List.mem_append, Nat.toString_eq_repr, Nat.toList_repr] at member
  rcases member with (address' | colon) | port'
  · exact getThisHostsIP_ascii host c address'
  · rw [List.mem_singleton.mp colon]
    decide
  · exact digits _ c port'

/-- A port that is asked for is the port of the receiver. -/
theorem DataReceiver.construct_port {env : Env} {ipAddress : String} {port out : BitVec 32}
    {receiver : DataReceiver} {s t : Sys}
    (built : (DataReceiver.construct env ipAddress port).run s = .ok (receiver, out) t)
    (given : port ≠ 0) : out = port := by
  unfold DataReceiver.construct at built
  split_ifs at built
  · cases built
  · obtain ⟨sockfd, u, _, rest⟩ := run_bind_eq_ok.mp built
    obtain ⟨n, v, _, bound⟩ := run_bind_eq_ok.mp rest
    cases bind : env.bind n ipAddress (port.setWidth 16) with
    | none =>
      rw [bind] at bound
      cases bound
    | some boundPort =>
      rw [bind] at bound
      cases bound
      rfl

/-- A tracked receiver knows the destination that is requested for it, and its stream. -/
theorem TrackedDataReceiver.construct_ok {env : Env} {ipAddress stream : String}
    {port out : BitVec 32} {receiver : TrackedDataReceiver} {s t : Sys}
    (built : (TrackedDataReceiver.construct env ipAddress port stream).run s =
      .ok (receiver, out) t) :
    (port ≠ 0 → out = port) ∧ receiver.dest = ipAddress ++ ":" ++ toString out.toNat ∧
      receiver.stream = stream := by
  obtain ⟨⟨base, bound⟩, u, inner, rest⟩ := run_bind_eq_ok.mp built
  cases rest
  exact ⟨DataReceiver.construct_port inner, rfl, rfl⟩

namespace RemoteInterface

variable (env : Env)

/-- Looking up a type leaves the registry alone. -/
theorem protobufOf_harmless (stream : String) (s : Sys) :
    Within (Harmless registry) (protobufOf stream) s := by
  have touched : Within (Aside registry) (setIface (touchProtobuf stream)) s :=
    setIface_aside _ (fun _ => by rfl) s
  refine (touched.mono fun _ => Aside.harmless).bind fun _ t _ => ?_
  have read : Within (Aside registry) this t := this_within t
  exact (read.mono fun _ => Aside.harmless).bind fun _ t _ => Within.pure _ t

/-- A quiet computation leaves the registry alone. -/
theorem registry_of_quiet {α : Type} {m : Call α} {s : Sys} (quiet : Within Quiet m s) :
    Within (Harmless registry) m s := quiet.mono fun _ still => (Aside.of_quiet still).harmless

/-- Asking a receiver leaves the registry alone. -/
theorem receive_harmless (receiver : DataReceiver) (pbMsgType : String) (s : Sys) :
    Within (Harmless registry) (receiver.receive env pbMsgType) s := by
  have heard : Harmless registry s (s.advance s.world.tick [.receive pbMsgType]) :=
    ⟨rfl, Nat.le_refl _, _, rfl, rfl⟩
  have received : Aside registry _ _ := Aside.of_quiet (receiver.run_receive env pbMsgType s)
  exact trans_of (Harmless registry) heard received.harmless

/-- Requesting a stream and waiting for its first message: either nothing was registered and it
throws, or the destination was registered and entered once, and nothing more, however the wait
ends. -/
theorem run_establish {s : Sys} {stream : String} (available : Available s.iface stream)
    (receiver : TrackedDataReceiver) (destination : String) :
    (Harmless registry s (final ((establish env receiver stream destination).run s)) ∧
        returned ((establish env receiver stream destination).run s) = false) ∨
      env.utf8 destination = true ∧ ∃ events t, Sys.Extends events s t ∧
        changes events = [.put stream [destination]] ∧
        Harmless registry (t.track stream (s.iface.tracked stream ++ [destination]))
          (final ((establish env receiver stream destination).run s)) := by
  obtain ⟨events, t, extends', silent, ⟨valid, changed, ran⟩ | ⟨changed, e, ran⟩⟩ :=
    run_addDestinationToStream env available destination
  · rw [extends'.iface] at ran
    refine Or.inr ⟨valid, events, t, extends', changed, ?_⟩
    unfold establish
    rw [run_bind_of_ok ran]
    change Within (Harmless registry) _ (t.track stream (s.iface.tracked stream ++ [destination]))
    refine (registry_of_quiet (receiver.setTimeout_quiet env initialTimeOut _)).bind
      fun _ u _ => ?_
    refine (protobufOf_harmless stream u).bind fun pbMsgType u _ => ?_
    have received := receive_harmless env receiver.toDataReceiver pbMsgType u
    refine received.bind fun msg u _ => registry_of_quiet ?_
    split
    · exact explainTimeout_quiet env u
    · exact receiver.setTimeout_quiet env 100 u
  · have stopped : (establish env receiver stream destination).run s = .error e t := by
      unfold establish
      exact run_bind_of_error ran
    rw [stopped]
    exact Or.inl ⟨extends'.harmless changed, rfl⟩

/-- What a registered destination leaves behind while the rest of the call leaves the registry
alone. -/
theorem registered_of_harmless {s t u : Sys} {events : List Event} {stream destination : String}
    (available : Available s.iface stream) (extends' : Sys.Extends events s t)
    (changed : changes events = [.put stream [destination]])
    (after : Harmless registry (t.track stream (s.iface.tracked stream ++ [destination])) u) :
    Available u.iface stream ∧ s.world.tick ≤ u.world.tick ∧
      changes u.world.trace = changes s.world.trace ++ [.put stream [destination]] ∧
      ∀ k, u.iface.tracked k =
        if k = stream then s.iface.tracked stream ++ [destination] else s.iface.tracked k := by
  refine ⟨after.available ?_, Nat.le_trans extends'.tick after.tick, ?_, fun k => ?_⟩
  · have same := extends'.iface ▸ available
    exact same.track _ _
  · rw [after.changes, ← changed, ← changes_append, ← extends'.trace]
    rfl
  · rw [after.tracked]
    exact (tracked_track t.iface stream k _).trans (by rw [extends'.iface])

/-- The destruction of a receiver whose removal is answered 200: its destination is off the
device, and one occurrence of it is erased. -/
theorem run_destroyReceiver {s : Sys} {receiver : TrackedDataReceiver}
    (available : Available s.iface receiver.stream) (valid : env.utf8 receiver.dest = true)
    (succeed : DeletesSucceed env s) {t : Sys}
    (destroyed : final ((receiver.destroy env).run s) = t) :
    changes t.world.trace = changes s.world.trace ++ [.delete receiver.stream [receiver.dest]] ∧
      ∀ k, t.iface.tracked k =
        if k = receiver.stream then (s.iface.tracked receiver.stream).erase receiver.dest
        else s.iface.tracked k := by
  have printable : [receiver.dest].all env.utf8 = true := by simpa using valid
  have accepted := deleteAccepted_of_answered succeed s.iface receiver.stream printable
    (Nat.le_refl s.world.tick)
  obtain ⟨events, u, ⟨removal, ran⟩ | ⟨removal, _⟩⟩ :=
    run_deleteDestinationFromStream env available receiver.dest
  · have caught (handle : Exn → Call Unit) :
        (tryCatch (deleteDestinationFromStream env receiver.stream receiver.dest) handle).run s =
          .ok () (u.track receiver.stream ((u.iface.tracked receiver.stream).erase
            receiver.dest)) := by rw [run_tryCatch, ran]
    unfold TrackedDataReceiver.destroy at destroyed
    rw [run_bind_of_ok (caught _)] at destroyed
    subst destroyed
    refine ⟨?_, fun k => (tracked_track u.iface receiver.stream k _).trans (by rw [removal.iface])⟩
    have changed : changes events = [.delete receiver.stream [receiver.dest]] := removal.changed
    rw [← changed, ← changes_append, ← removal.trace]
    rfl
  · rw [removal.outcome] at accepted
    cases accepted

/-- The destruction of a receiver whose destination cannot be printed does nothing. -/
theorem destroyReceiver_harmless {s : Sys} {receiver : TrackedDataReceiver}
    (available : Available s.iface receiver.stream) (invalid : ¬env.utf8 receiver.dest = true) :
    Within (Harmless registry) (receiver.destroy env) s := by
  refine Within.bind (Within.tryCatch ?_ fun e t _ => ?_) fun _ t _ =>
    registry_of_quiet (closeSocket_quiet receiver.sockfd t)
  · obtain ⟨events, t, ⟨removal, _⟩ | ⟨removal, e, _, ran⟩⟩ :=
      run_deleteDestinationFromStream env available receiver.dest
    · have refused := removal.outcome
      rw [deleteAccepted, if_neg (by simpa using invalid)] at refused
      cases refused
    · exact Within.of_run ran (removal.toExtends.harmless removal.changed)
  · split
    · exact Within.pure () t
    · exact Within.throw e t

/-- The statements of `createReceiverForStream` before the receiver exists, and its
construction: the receiver, and the destination to request for it. -/
def openReceiver (stream destInterface : String) (destPort : BitVec 32) :
    Call (TrackedDataReceiver × String) := do
  checkStreamTypeAvailable env stream
  let n ← tick
  match getThisHostsIP (env.getifaddrs n) (← this).visardAddrs destInterface with
  | none => throw (.invalidArgument ("Could not infer a valid IP address for this host as the " ++
      "destination of the stream! Given network interface specification was '" ++
      destInterface ++ "'."))
  | some destAddress =>
    let (receiver, destPort) ← TrackedDataReceiver.construct env destAddress destPort stream
    return (receiver, destAddress ++ ":" ++ toString destPort.toNat)

/-- `createReceiverForStream` in its two parts. -/
theorem createReceiverForStream_eq (stream destInterface : String) (destPort : BitVec 32) :
    createReceiverForStream env stream destInterface destPort = (do
      let (receiver, destination) ← openReceiver env stream destInterface destPort
      unwinding (establish env receiver stream destination) (receiver.destroy env)
      return receiver) := by
  unfold createReceiverForStream openReceiver
  simp only [bind_assoc]
  congr 1
  funext _
  congr 1
  funext n
  congr 1
  funext iface
  cases getThisHostsIP (env.getifaddrs n) iface.visardAddrs destInterface with
  | none => rfl
  | some destAddress => simp only [bind_assoc, pure_bind]

section Opening

variable {stream destInterface : String} {destPort : BitVec 32} {s t : Sys}

/-- Without an address of this host no receiver is opened. -/
theorem run_openReceiver_nowhere (checked : (checkStreamTypeAvailable env stream).run s = .ok () t)
    (host : getThisHostsIP (env.getifaddrs t.world.tick) t.iface.visardAddrs destInterface = none) :
    ∃ e, (openReceiver env stream destInterface destPort).run s =
      .error e { t with world.tick := t.world.tick + 1 } := by
  unfold openReceiver
  rw [run_bind_of_ok checked, run_bind_of_ok (run_tick t), run_this_bind]
  simp only [host]
  exact ⟨_, rfl⟩

/-- With one, the receiver is constructed for that address. -/
theorem run_openReceiver_address {address : String}
    (checked : (checkStreamTypeAvailable env stream).run s = .ok () t)
    (host : getThisHostsIP (env.getifaddrs t.world.tick) t.iface.visardAddrs destInterface =
      some address) :
    (openReceiver env stream destInterface destPort).run s =
      (do
        let (receiver, port) ← TrackedDataReceiver.construct env address destPort stream
        return (receiver, address ++ ":" ++ toString port.toNat) :
          Call (TrackedDataReceiver × String)).run { t with world.tick := t.world.tick + 1 } := by
  unfold openReceiver
  rw [run_bind_of_ok checked, run_bind_of_ok (run_tick t), run_this_bind]
  simp only [host]

/-- A receiver that has been opened has been constructed for an address of this host, after the
stream has been checked. -/
theorem openReceiver_steps {receiver : TrackedDataReceiver} {destination : String}
    (opened : (openReceiver env stream destInterface destPort).run s =
      .ok (receiver, destination) t) :
    ∃ u address port, (checkStreamTypeAvailable env stream).run s = .ok () u ∧
      getThisHostsIP (env.getifaddrs u.world.tick) u.iface.visardAddrs destInterface =
        some address ∧
      (TrackedDataReceiver.construct env address destPort stream).run
        { u with world.tick := u.world.tick + 1 } = .ok (receiver, port) t ∧
      destination = address ++ ":" ++ toString port.toNat := by
  obtain ⟨_, u, checked, _⟩ := run_bind_eq_ok.mp opened
  cases host : getThisHostsIP (env.getifaddrs u.world.tick) u.iface.visardAddrs destInterface with
  | none =>
    obtain ⟨e, failed⟩ := run_openReceiver_nowhere env checked host
    rw [failed] at opened
    cases opened
  | some address =>
    rw [run_openReceiver_address env checked host] at opened
    obtain ⟨⟨built, port⟩, v, constructed, wrapped⟩ := run_bind_eq_ok.mp opened
    cases wrapped
    exact ⟨u, address, port, checked, host, constructed, rfl⟩

end Opening

/-- A receiver that has been opened belongs to an available stream and to the destination. -/
theorem openReceiver_ok {stream destInterface destination : String} {destPort : BitVec 32}
    {receiver : TrackedDataReceiver} {s t : Sys}
    (opened : (openReceiver env stream destInterface destPort).run s =
      .ok (receiver, destination) t) :
    Available t.iface stream ∧ receiver.stream = stream ∧ receiver.dest = destination := by
  obtain ⟨u, address, port, checked, _, constructed, made⟩ := openReceiver_steps env opened
  have available := checkStreamTypeAvailable_ok env checked
  obtain ⟨_, dest, streamEq⟩ := TrackedDataReceiver.construct_ok constructed
  have quiet := TrackedDataReceiver.construct_quiet env address destPort stream
    { u with world.tick := u.world.tick + 1 }
  have same : t.iface = u.iface := (quiet.of_ok constructed).iface
  exact ⟨same ▸ available, streamEq, dest.trans made.symm⟩

/-- Opening a receiver for an available stream leaves the registry alone. -/
theorem openReceiver_harmless {s : Sys} {stream : String} (available : Available s.iface stream)
    (destInterface : String) (destPort : BitVec 32) :
    Within (Harmless registry) (openReceiver env stream destInterface destPort) s := by
  have checked := run_checkStreamTypeAvailable env available
  have ticked : Harmless registry s { s with world.tick := s.world.tick + 1 } :=
    (registry_of_quiet (tick_aside s)).of_ok (run_tick s)
  cases host : getThisHostsIP (env.getifaddrs s.world.tick) s.iface.visardAddrs destInterface with
  | none =>
    obtain ⟨e, failed⟩ := run_openReceiver_nowhere env checked host
    exact Within.of_run failed ticked
  | some address =>
    have building := registry_of_quiet (TrackedDataReceiver.construct_quiet env address destPort
      stream { s with world.tick := s.world.tick + 1 })
    unfold Within
    rw [run_openReceiver_address env checked host]
    exact trans_of (Harmless registry) ticked (building.bind fun _ t _ => Within.pure _ t)

/-- A receiver for an available stream is opened at an address of this host, with the port asked
for. -/
theorem openReceiver_destination {s t : Sys} {stream destInterface destination : String}
    {destPort : BitVec 32} {receiver : TrackedDataReceiver} (available : Available s.iface stream)
    (opened : (openReceiver env stream destInterface destPort).run s =
      .ok (receiver, destination) t) :
    ReceiverDestination env s destInterface destPort destination := by
  obtain ⟨u, address, port, checked, host, constructed, made⟩ := openReceiver_steps env opened
  rw [run_checkStreamTypeAvailable env available] at checked
  cases checked
  exact ⟨address, port, host, (TrackedDataReceiver.construct_ok constructed).1, made⟩

/-- How a call for an available stream goes: it throws before there is a receiver, or it goes on
with the receiver that has been opened. -/
theorem createReceiverForStream_cases {s : Sys} {stream : String}
    (available : Available s.iface stream) (destInterface : String) (destPort : BitVec 32) :
    (∃ e t, (openReceiver env stream destInterface destPort).run s = .error e t ∧
        (createReceiverForStream env stream destInterface destPort).run s = .error e t ∧
        Harmless registry s t) ∨
      ∃ (receiver : TrackedDataReceiver) (t : Sys),
        (openReceiver env stream destInterface destPort).run s =
          .ok (receiver, receiver.dest) t ∧
        Harmless registry s t ∧ receiver.stream = stream ∧
        (createReceiverForStream env stream destInterface destPort).run s =
          (do
            unwinding (establish env receiver stream receiver.dest) (receiver.destroy env)
            return receiver : Call TrackedDataReceiver).run t := by
  have harmless := openReceiver_harmless env available destInterface destPort
  rw [createReceiverForStream_eq]
  cases opened : (openReceiver env stream destInterface destPort).run s with
  | error e t => exact Or.inl ⟨e, t, rfl, run_bind_of_error opened, harmless.of_error opened⟩
  | ok result t =>
    obtain ⟨receiver, destination⟩ := result
    obtain ⟨_, streamEq, rfl⟩ := openReceiver_ok env opened
    exact Or.inr ⟨receiver, t, rfl, harmless.of_ok opened, streamEq, run_bind_of_ok opened⟩

/-- A call that returns has entered the receiver's destination once and left all else. -/
theorem createReceiverForStream_ok {s t : Sys} {stream destInterface : String}
    {destPort : BitVec 32} {receiver : TrackedDataReceiver} (available : Available s.iface stream)
    (ran : (createReceiverForStream env stream destInterface destPort).run s = .ok receiver t)
    (k : String) :
    t.iface.tracked k =
      if k = stream then s.iface.tracked stream ++ [receiver.dest] else s.iface.tracked k := by
  rcases createReceiverForStream_cases env available destInterface destPort with
    ⟨e, u, _, stopped, _⟩ | ⟨built, u, _, before, _, rest⟩
  · rw [stopped] at ran
    cases ran
  · rw [rest] at ran
    obtain ⟨_, v, established, returned'⟩ := run_bind_eq_ok.mp ran
    cases returned'
    have usable := before.available available
    have outcome := run_establish env usable receiver receiver.dest
    rw [run_unwinding_eq_ok.mp established, final_ok] at outcome
    obtain ⟨_, events, w, extends', changed, after⟩ :=
      outcome.resolve_left fun failed => Bool.noConfusion failed.2
    obtain ⟨_, _, _, tracked⟩ := registered_of_harmless usable extends' changed after
    rw [tracked, before.tracked, before.tracked]

/-- A call that throws, with removals that succeed, has changed nothing, and then no receiver with
a printable destination was opened; or it has removed the receiver's destination from the device
and erased one occurrence of it, after entering one if its own registration was acknowledged. -/
theorem createReceiverForStream_error {s t : Sys} {stream destInterface : String}
    {destPort : BitVec 32} {e : Exn} (available : Available s.iface stream)
    (succeed : DeletesSucceed env s)
    (ran : (createReceiverForStream env stream destInterface destPort).run s = .error e t) :
    (changes t.world.trace = changes s.world.trace ∧
        (∀ k, t.iface.tracked k = s.iface.tracked k) ∧
        ∀ receiver destination u,
          (openReceiver env stream destInterface destPort).run s = .ok (receiver, destination) u →
            ¬env.utf8 receiver.dest = true) ∨
      ∃ receiver destination u puts entered,
        (openReceiver env stream destInterface destPort).run s = .ok (receiver, destination) u ∧
        (puts = [] ∧ entered = [] ∨
          puts = [.put stream [receiver.dest]] ∧ entered = [receiver.dest]) ∧
        changes t.world.trace =
          changes s.world.trace ++ (puts ++ [.delete stream [receiver.dest]]) ∧
        ∀ k, t.iface.tracked k =
          if k = stream then (s.iface.tracked stream ++ entered).erase receiver.dest
          else s.iface.tracked k := by
  rcases createReceiverForStream_cases env available destInterface destPort with
    ⟨e', u, unopened, stopped, harmless⟩ | ⟨receiver, u, opened, before, streamEq, rest⟩
  · rw [stopped] at ran
    cases ran
    refine Or.inl ⟨harmless.changes, harmless.tracked, fun receiver destination v opened => ?_⟩
    rw [unopened] at opened
    cases opened
  · rw [rest] at ran
    have unwound : (unwinding (establish env receiver stream receiver.dest)
        (receiver.destroy env)).run u = .error e t := by
      rcases run_bind_eq_error.mp ran with failed | ⟨_, v, _, returned'⟩
      · exact failed
      · cases returned'
    obtain ⟨e', v, failed, destroyed⟩ := run_unwinding_eq_error unwound
    have usable := before.available available
    have outcome := run_establish env usable receiver receiver.dest
    rw [failed, final_error] at outcome
    subst streamEq
    rcases outcome with ⟨harmless, _⟩ | ⟨valid, events, w, extends', changed, after⟩
    · have kept := trans_of _ before harmless
      by_cases valid : env.utf8 receiver.dest = true
      · obtain ⟨removed, erased⟩ := run_destroyReceiver env (harmless.available usable) valid
          (succeed.later kept.tick) destroyed
        refine Or.inr ⟨receiver, _, u, [], [], opened, Or.inl ⟨rfl, rfl⟩, ?_, fun k => ?_⟩
        · rw [removed, kept.changes]
          rfl
        · rw [erased, kept.tracked, kept.tracked, List.append_nil]
      · have unwinds := destroyReceiver_harmless env (harmless.available usable) valid
        have quiet : Harmless registry s t :=
          trans_of (Harmless registry) kept (destroyed ▸ unwinds)
        refine Or.inl ⟨quiet.changes, quiet.tracked, fun other destination w again => ?_⟩
        rw [opened] at again
        cases again
        exact valid
    · obtain ⟨still, later, put, entered⟩ := registered_of_harmless usable extends' changed after
      obtain ⟨removed, erased⟩ := run_destroyReceiver env still valid
        (succeed.later (Nat.le_trans before.tick later)) destroyed
      refine Or.inr ⟨receiver, _, u, _, [receiver.dest], opened, Or.inr ⟨rfl, rfl⟩, ?_,
        fun k => ?_⟩
      · rw [removed, put, before.changes, List.append_assoc]
      · rw [erased, entered, entered, before.tracked, before.tracked, if_pos rfl]
        split_ifs <;> rfl

/-- Nothing about a destination of a stream has changed: how often it is tracked, and whether it
is on the device. -/
def SameRegistration (s t : Sys) (stream d : String) : Prop :=
  (t.iface.tracked stream).count d = (s.iface.tracked stream).count d ∧
    ∀ device : Device, d ∈ device.after (changes t.world.trace) stream ↔
      d ∈ device.after (changes s.world.trace) stream

/-- After a removal that came alone or right after its own registration, nothing about other
destinations has changed, the destination itself is off the device, and it is tracked as often as
before if it was entered or was not tracked. -/
theorem same_of_removed {s t : Sys} {stream own : String} {puts : List Change}
    {entered : List String}
    (shape : puts = [] ∧ entered = [] ∨ puts = [.put stream [own]] ∧ entered = [own])
    (history : changes t.world.trace =
      changes s.world.trace ++ (puts ++ [.delete stream [own]]))
    (tracked : ∀ k, t.iface.tracked k =
      if k = stream then (s.iface.tracked stream ++ entered).erase own else s.iface.tracked k) :
    (∀ k d, ¬(k = stream ∧ d = own) → SameRegistration s t k d) ∧
      (∀ device : Device, own ∉ device.after (changes t.world.trace) stream) ∧
      (own ∉ s.iface.tracked stream ∨
          Ledger.registrations (changes s.world.trace) stream own <
            Ledger.registrations (changes t.world.trace) stream own →
        (t.iface.tracked stream).count own = (s.iface.tracked stream).count own) := by
  have device_after (device : Device) (k d : String) :
      d ∈ device.after (changes t.world.trace) k ↔
        d ∈ (device.after (changes s.world.trace)).after puts k ∧ ¬(stream = k ∧ d = own) := by
    have removed := Ledger.Server.mem_after_deletes
      ((device.after (changes s.world.trace)).after puts) stream k [[own]] d
    rw [history, Ledger.Server.after_append, Ledger.Server.after_append]
    simpa using removed
  refine ⟨fun k d other => ⟨?_, fun device => ?_⟩, fun device held => ?_, fun harmless => ?_⟩
  · rw [tracked]
    split_ifs with here
    · subst here
      have different : own ≠ d := fun same => other ⟨rfl, same.symm⟩
      rw [List.count_erase_of_ne different.symm, List.count_append]
      rcases shape with ⟨_, rfl⟩ | ⟨_, rfl⟩
      · rfl
      · rw [List.count_singleton, if_neg (by simpa using different), Nat.add_zero]
    · rfl
  · rw [device_after, and_iff_left fun both => other ⟨both.1.symm, both.2⟩]
    rcases shape with ⟨rfl, _⟩ | ⟨rfl, _⟩
    · rfl
    · refine (Ledger.Server.mem_apply_put _ stream k [own] d).trans ?_
      rw [or_iff_left fun both => other ⟨both.1.symm, List.mem_singleton.mp both.2⟩]
  · exact ((device_after device stream own).mp held).2 ⟨rfl, rfl⟩
  · rw [tracked, if_pos rfl, List.count_erase_self, List.count_append]
    rcases shape with ⟨rfl, rfl⟩ | ⟨rfl, rfl⟩
    · rw [List.count_nil, Nat.add_zero]
      rcases harmless with absent | registered
      · rw [List.count_eq_zero.mpr absent]
      · have none : Ledger.registrations [.delete stream [own]] stream own = 0 :=
          Ledger.registrations_deletes stream stream [[own]] own
        rw [history, Ledger.registrations_append, List.nil_append, none] at registered
        exact absurd registered (Nat.lt_irrefl _)
    · rw [List.count_singleton_self, Nat.add_sub_cancel]

/-- Creating a receiver for an initialised object. When it returns, one new occurrence of the
receiver's destination has been entered for its stream. When it throws before there is a receiver,
nothing has changed. When it throws afterwards and the removals it sends are answered 200, nothing
has changed but for the receiver's own destination, which is not on the device and is tracked as
often as before if this call registered it or it was not tracked. -/
theorem createReceiverForStream_outcome {s : Sys} (ready : s.iface.initialized = true)
    (stream destInterface : String) (destPort : BitVec 32) :
    (∀ receiver t,
      (createReceiverForStream env stream destInterface destPort).run s = .ok receiver t →
        ∀ k d, (t.iface.tracked k).count d =
          (s.iface.tracked k).count d + if k = stream ∧ d = receiver.dest then 1 else 0) ∧
      (env.PrintsAscii → DeletesSucceed env s → ∀ e t,
        (createReceiverForStream env stream destInterface destPort).run s = .error e t →
          match (openReceiver env stream destInterface destPort).run s with
          | .error _ _ => ∀ k d, SameRegistration s t k d
          | .ok (receiver, _) _ =>
            ReceiverDestination env s destInterface destPort receiver.dest ∧
              (∀ k d, ¬(k = stream ∧ d = receiver.dest) → SameRegistration s t k d) ∧
              (∀ device : Device,
                receiver.dest ∉ device.after (changes t.world.trace) stream) ∧
              (receiver.dest ∉ s.iface.tracked stream ∨
                  Ledger.registrations (changes s.world.trace) stream receiver.dest <
                    Ledger.registrations (changes t.world.trace) stream receiver.dest →
                (t.iface.tracked stream).count receiver.dest =
                  (s.iface.tracked stream).count receiver.dest)) := by
  by_cases listed : stream ∈ s.iface.availStreams
  · have available : Available s.iface stream := ⟨ready, listed⟩
    refine ⟨fun receiver t ran k d => ?_, fun prints succeed e t ran => ?_⟩
    · rw [createReceiverForStream_ok env available ran k]
      by_cases here : k = stream
      · subst here
        rw [if_pos rfl, List.count_append]
        by_cases same : d = receiver.dest
        · simp [same]
        · simp [same, Ne.symm same]
      · simp [here]
    · have exits := createReceiverForStream_error env available succeed ran
      cases opened : (openReceiver env stream destInterface destPort).run s with
      | error e' u =>
        rcases exits with ⟨history, tracked, _⟩ | ⟨receiver, destination, v, _, _, again, _⟩
        · exact fun k d => ⟨by rw [tracked], fun device => by rw [history]⟩
        · rw [opened] at again
          cases again
      | ok result u =>
        obtain ⟨receiver, destination⟩ := result
        have own := openReceiver_destination env available opened
        obtain ⟨_, _, named⟩ := openReceiver_ok env opened
        rw [← named] at own
        rcases exits with ⟨_, _, unprintable⟩ | ⟨_, _, _, puts, entered, again, shape, rest⟩
        · exact absurd (prints _ own.ascii) (unprintable receiver destination u opened)
        · rw [opened] at again
          cases again
          exact ⟨own, same_of_removed shape rest.1 rest.2⟩
  · obtain ⟨e, _, refused⟩ := run_checkStreamTypeAvailable_unlisted env ready listed
    have unopened : (openReceiver env stream destInterface destPort).run s = .error e s :=
      run_bind_of_error refused
    have stopped : (createReceiverForStream env stream destInterface destPort).run s =
        .error e s := run_bind_of_error refused
    rw [stopped, unopened]
    refine ⟨fun receiver t ran => (nomatch ran), fun _ _ e' t ran k d => ?_⟩
    cases ran
    exact ⟨rfl, fun _ => Iff.rfl⟩

/-- A device that fails registrations after the first. -/
def failingDevice : Env :=
  { obligingDevice with
    http := fun n request =>
      if request.method = .put ∧ 12 ≤ n then ⟨500, request.url, "", "Internal Server Error"⟩
      else obligingDevice.http n request }

/-- A session with that device in which the first registration has been made. -/
def failingSession : Session :=
  Session.after failingDevice "192.168.0.10" 5000
    [.addDestinationToStream "pose" "192.168.0.5:40000"]

/-- A receiver that cannot be registered takes the registration of an earlier call with it. -/
theorem createReceiverForStream_removes_earlier :
    failingSession.sys.iface.initialized = true ∧
      DeletesSucceed failingDevice failingSession.sys ∧
      ¬∀ e t, (createReceiverForStream failingDevice "pose" "" 40000).run failingSession.sys =
        .error e t → ∀ k d, SameRegistration failingSession.sys t k d := by
  refine ⟨by decide +kernel, fun n request stream _ delete _ => ?_, fun same => ?_⟩
  · simp [failingDevice, obligingDevice, delete]
  · cases ran : (createReceiverForStream failingDevice "pose" "" 40000).run failingSession.sys with
    | ok receiver t =>
      have stopped : returned ((createReceiverForStream failingDevice "pose" "" 40000).run
          failingSession.sys) = false := by decide +kernel
      rw [ran] at stopped
      cases stopped
    | error e t =>
      have counted := (same e t ran "pose" "192.168.0.5:40000").1
      have erased : ((final ((createReceiverForStream failingDevice "pose" "" 40000).run
          failingSession.sys)).iface.tracked "pose").count "192.168.0.5:40000" = 0 := by
        decide +kernel
      have before : (failingSession.sys.iface.tracked "pose").count "192.168.0.5:40000" = 1 := by
        decide +kernel
      rw [ran, final_error, counted, before] at erased
      cases erased

/-- A receiver for which no data arrives has taken its own registration back. -/
theorem createReceiverForStream_outcome_timeout :
    ∃ e t, (createReceiverForStream obligingDevice "pose" "" 0).run poseSession.sys = .error e t ∧
      changes t.world.trace = changes poseSession.sys.world.trace ++
        [.put "pose" ["192.168.0.5:49152"], .delete "pose" ["192.168.0.5:49152"]] ∧
      (∀ device : Device, "192.168.0.5:49152" ∉ device.after (changes t.world.trace) "pose") ∧
      (t.iface.tracked "pose").count "192.168.0.5:49152" =
        (poseSession.sys.iface.tracked "pose").count "192.168.0.5:49152" := by
  obtain ⟨_, exits⟩ := createReceiverForStream_outcome obligingDevice (s := poseSession.sys)
    (by decide +kernel) "pose" "" 0
  have own : (outcome ((openReceiver obligingDevice "pose" "" 0).run poseSession.sys)).toOption.map
      (·.1.dest) = some "192.168.0.5:49152" := by decide +kernel
  have stopped : returned ((createReceiverForStream obligingDevice "pose" "" 0).run
      poseSession.sys) = false := by decide +kernel
  have asked : changes (final ((createReceiverForStream obligingDevice "pose" "" 0).run
      poseSession.sys)).world.trace = changes poseSession.sys.world.trace ++
        [.put "pose" ["192.168.0.5:49152"], .delete "pose" ["192.168.0.5:49152"]] := by
    decide +kernel
  generalize (openReceiver obligingDevice "pose" "" 0).run poseSession.sys = opened at exits own
  cases ran : (createReceiverForStream obligingDevice "pose" "" 0).run poseSession.sys with
  | ok receiver t =>
    rw [ran] at stopped
    cases stopped
  | error e t =>
    rw [ran] at asked
    have exit := exits (fun _ _ => rfl) (obligingDevice_succeeds _) e t ran
    cases opened with
    | error e' u => cases own
    | ok result u =>
      have dest : result.1.dest = "192.168.0.5:49152" := Option.some.inj own
      obtain ⟨_, _, gone, counted⟩ := exit
      rw [dest] at gone counted
      exact ⟨e, t, rfl, asked, gone, counted (Or.inl (by decide +kernel))⟩

end RemoteInterface

end RcDynamics
