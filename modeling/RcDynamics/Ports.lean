import RcDynamics.Frames
import RcDynamics.FirstMessage

/-!
# The port of a receiver

A receiver asks for a port of the unsigned type, binds its sixteen low bits, and keeps the number
asked for unless it is zero. The address and port that it registers on the device, and removes
again, are those its socket listens on as long as the number has at most sixteen bits.
-/

namespace RcDynamics

open Effect

/-- `bind` binds the port asked for, and some port when it is asked for port zero. -/
def BindsPorts (env : Env) : Prop :=
  ∀ n ipAddress port boundPort, env.bind n ipAddress port = some boundPort →
    boundPort ≠ 0 ∧ (port ≠ 0 → boundPort = port)

/-- The address and the port that the socket of a receiver listens on. -/
def DataReceiver.endpoint (receiver : DataReceiver) : String :=
  receiver.ip ++ ":" ++ toString receiver.boundPort.toNat

/-- The port that a receiver keeps: the one asked for, or the one bound when that is zero. -/
def keptPort (port : BitVec 32) (boundPort : BitVec 16) : BitVec 32 :=
  if port = 0 then boundPort.setWidth 32 else port

/-- A receiver has bound the low bits of the port asked for. -/
theorem DataReceiver.construct_bound {env : Env} {ipAddress : String} {port out : BitVec 32}
    {receiver : DataReceiver} {s t : Sys}
    (built : (DataReceiver.construct env ipAddress port).run s = .ok (receiver, out) t) :
    receiver.ip = ipAddress ∧ out = receiver.port ∧
      receiver.port = keptPort port receiver.boundPort ∧
      ∃ n, env.bind n ipAddress (port.setWidth 16) = some receiver.boundPort := by
  unfold DataReceiver.construct at built
  split at built
  · cases built
  · obtain ⟨sockfd, u, _, rest⟩ := run_bind_eq_ok.mp built
    obtain ⟨n, v, _, bound⟩ := run_bind_eq_ok.mp rest
    cases bind : env.bind n ipAddress (port.setWidth 16) with
    | none =>
      rw [bind] at bound
      cases bound
    | some boundPort =>
      simp only [bind] at bound
      by_cases zero : port = 0
      · rw [if_pos zero] at bound
        obtain ⟨m, w, _, named⟩ := run_bind_eq_ok.mp bound
        split at named
        · cases named
          exact ⟨rfl, rfl, (if_pos zero).symm, n, bind⟩
        · cases named
      · rw [if_neg zero] at bound
        cases bound
        exact ⟨rfl, rfl, (if_neg zero).symm, n, bind⟩

/-- The port kept is the port bound exactly when the port asked for has at most sixteen bits. -/
theorem keptPort_eq_bound_iff {port : BitVec 32} {boundPort : BitVec 16}
    (given : port.setWidth 16 ≠ 0 → boundPort = port.setWidth 16) :
    (keptPort port boundPort).toNat = boundPort.toNat ↔ port.toNat < 2 ^ 16 := by
  have small : boundPort.toNat < 2 ^ 16 := boundPort.isLt
  unfold keptPort
  by_cases zero : port = 0
  · rw [if_pos zero]
    subst zero
    have wide : (boundPort.setWidth 32).toNat = boundPort.toNat := by
      rw [BitVec.toNat_setWidth]
      omega
    exact ⟨fun _ => by decide, fun _ => wide⟩
  · rw [if_neg zero]
    constructor
    · intro same
      omega
    · intro short
      have narrowed : (port.setWidth 16).toNat = port.toNat := by
        rw [BitVec.toNat_setWidth]
        omega
      have nonzero : port.setWidth 16 ≠ 0 := by
        intro none
        rw [none] at narrowed
        exact zero (BitVec.eq_of_toNat_eq narrowed.symm)
      rw [given nonzero, narrowed]

/-- Destroying a receiver names its destination. -/
theorem TrackedDataReceiver.destroy_asks (env : Env) (receiver : TrackedDataReceiver) (s : Sys) :
    Within (Asks (RemoteInterface.Names receiver.dest)) (receiver.destroy env) s := by
  unfold TrackedDataReceiver.destroy
  refine Within.bind ?_ fun _ t _ => Within.of_run rfl (asks_of_trace rfl)
  refine Within.tryCatch (RemoteInterface.deleteDestinationFromStream_allowed
    env receiver.stream (Asks.allows _).converses s) fun e t _ => ?_
  split
  · exact Within.pure () t
  · exact Within.throw e t

namespace RemoteInterface

variable (env : Env)

/-- A receiver that has been opened keeps a port, and the destination is made of it. -/
theorem openReceiver_bound {stream destInterface destination : String} {destPort : BitVec 32}
    {receiver : TrackedDataReceiver} {s t : Sys}
    (opened : (openReceiver env stream destInterface destPort).run s =
      .ok (receiver, destination) t) :
    destination = receiver.ip ++ ":" ++ toString receiver.port.toNat ∧
      receiver.port = keptPort destPort receiver.boundPort ∧
      ∃ n, env.bind n receiver.ip (destPort.setWidth 16) = some receiver.boundPort := by
  obtain ⟨u, address, port, _, _, constructed, made⟩ := openReceiver_steps env opened
  obtain ⟨⟨base, out⟩, w, inner, wrapped⟩ := run_bind_eq_ok.mp constructed
  obtain ⟨ipEq, outEq, kept, bound⟩ := DataReceiver.construct_bound inner
  cases wrapped
  subst ipEq
  exact ⟨by rw [made, outEq], kept, bound⟩

/-- After a receiver has been opened, the rest of the call names the destination made for it. -/
theorem createReceiverForStream_asks {stream destInterface destination : String}
    {destPort : BitVec 32} {receiver : TrackedDataReceiver} {s t : Sys}
    (opened : (openReceiver env stream destInterface destPort).run s =
      .ok (receiver, destination) t) :
    Asks (Names destination) t
      (final ((createReceiverForStream env stream destInterface destPort).run s)) := by
  obtain ⟨_, _, dest⟩ := openReceiver_ok env opened
  rw [createReceiverForStream_eq, run_bind_of_ok opened]
  change Within (Asks (Names destination)) _ t
  refine Within.bind ?_ fun _ t _ => Within.pure _ t
  refine Within.unwinding (establish_allowed env stream (Asks.allows _) receiver t)
    fun e u _ => ?_
  rw [← dest]
  exact receiver.destroy_asks env u

/-- A receiver that has been opened keeps the port its socket is bound to, and the call that made
it and its destruction name the endpoint of that socket, exactly when the port asked for has at
most sixteen bits. -/
theorem openReceiver_endpoint_iff (binds : BindsPorts env)
    {stream destInterface destination : String} {destPort : BitVec 32}
    {receiver : TrackedDataReceiver} {s t : Sys}
    (opened : (openReceiver env stream destInterface destPort).run s =
      .ok (receiver, destination) t) :
    (receiver.port.toNat = receiver.boundPort.toNat ∧
      Asks (Names receiver.endpoint) t
        (final ((createReceiverForStream env stream destInterface destPort).run s)) ∧
      ∀ u, Asks (Names receiver.endpoint) u (final ((receiver.destroy env).run u))) ↔
      destPort.toNat < 2 ^ 16 := by
  obtain ⟨made, kept, n, bound⟩ := openReceiver_bound env opened
  have same := keptPort_eq_bound_iff (binds n _ _ _ bound).2
  rw [← kept] at same
  constructor
  · rintro ⟨equal, _⟩
    exact same.mp equal
  · intro short
    have equal := same.mpr short
    have endpoint : receiver.endpoint = destination := by
      rw [made, DataReceiver.endpoint, equal]
    obtain ⟨_, _, dest⟩ := openReceiver_ok env opened
    rw [endpoint]
    refine ⟨equal, createReceiverForStream_asks env opened, fun u => ?_⟩
    rw [← dest]
    exact receiver.destroy_asks env u

/-- The device that obliges binds the ports it is asked for. -/
theorem obligingDevice_binds : BindsPorts obligingDevice := by
  intro n ipAddress port boundPort bound
  by_cases zero : port = 0
  · simp only [obligingDevice, if_pos zero, Option.some.injEq] at bound
    subst bound
    exact ⟨by decide, fun given => absurd zero given⟩
  · simp only [obligingDevice, if_neg zero, Option.some.injEq] at bound
    subst bound
    exact ⟨zero, fun _ => rfl⟩

/-- A receiver for a port that is asked for listens on the endpoint it registers. -/
theorem openReceiver_endpoint_given :
    ∃ receiver destination t,
      (openReceiver obligingDevice "pose" "" 40000).run poseSession.sys =
        .ok (receiver, destination) t ∧
      receiver.port.toNat = receiver.boundPort.toNat ∧
      Asks (Names receiver.endpoint) t
        (final ((createReceiverForStream obligingDevice "pose" "" 40000).run poseSession.sys)) := by
  cases opened : (openReceiver obligingDevice "pose" "" 40000).run poseSession.sys with
  | error e t =>
    have made : returned ((openReceiver obligingDevice "pose" "" 40000).run poseSession.sys) =
        true := by decide +kernel
    rw [opened] at made
    cases made
  | ok result t =>
    have listens := (openReceiver_endpoint_iff obligingDevice obligingDevice_binds opened).mpr
      (by decide)
    exact ⟨result.1, result.2, t, rfl, listens.1, listens.2.1⟩

/-- A port beyond sixteen bits is kept by a receiver that listens on another one. -/
theorem openReceiver_port_lost :
    BindsPorts obligingDevice ∧
      (outcome ((openReceiver obligingDevice "pose" "" 65536).run
          poseSession.sys)).toOption.map
        (fun opened => (opened.1.port.toNat, opened.1.boundPort.toNat, opened.2)) =
      some (65536, 49152, "192.168.0.5:65536") :=
  ⟨obligingDevice_binds, by decide +kernel⟩

end RemoteInterface

end RcDynamics
