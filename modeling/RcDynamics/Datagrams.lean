import RcDynamics.FirstMessage
import RcDynamics.Recording

/-!
# Datagrams and messages

What a datagram is received as. `receive` reads at most as many bytes as its buffer holds and does
not look at the result of parsing them, and its callers take every message for real data. A
datagram is received faithfully when it is a serialisation and the part that fits the buffer is
one of the same message; for all others some parser, and for most of them every parser, makes up
a message that was not sent.
-/

namespace RcDynamics

open Effect

/-- The message of a type that some bytes serialise, if they do. -/
abbrev Decoding := String → List UInt8 → Option Message

/-- Parsing succeeds exactly on serialisations, with the message serialised. What a failed parse
leaves behind is not known. -/
def ParsesSerialisations (env : Env) (decode : Decoding) : Prop :=
  ∀ type bytes, (env.parseFromArray type bytes).1 = (decode type bytes).isSome ∧
    ∀ msg, decode type bytes = some msg → (env.parseFromArray type bytes).2 = msg

/-- A datagram serialises a message, and so does the part of it that fits the buffer. -/
def Unabridged (decode : Decoding) (type : String) (bytes : List UInt8) : Prop :=
  (decode type bytes).isSome ∧
    decode type (bytes.take DataReceiver.bufferSize) = decode type bytes

/-- A datagram that fits the buffer is unabridged when it is a serialisation. -/
theorem unabridged_iff_of_short {decode : Decoding} {type : String} {bytes : List UInt8}
    (short : bytes.length ≤ DataReceiver.bufferSize) :
    Unabridged decode type bytes ↔ (decode type bytes).isSome := by
  unfold Unabridged
  rw [List.take_of_length_le short]
  exact and_iff_left rfl

namespace RemoteInterface

/-- The end of `establish`: the wait for a first message of a type. -/
def acceptFirstMessage (env : Env) (receiver : TrackedDataReceiver) (pbMsgType : String) :
    Call Unit := do
  let msg ← receiver.receive env pbMsgType
  if msg.isNone then explainTimeout env else receiver.setTimeout env 100

/-- The wait is the end of `establish`. -/
theorem establish_eq_accept (env : Env) (receiver : TrackedDataReceiver)
    (stream destination : String) :
    establish env receiver stream destination = (do
      addDestinationToStream env stream destination
      receiver.setTimeout env initialTimeOut
      let pbMsgType ← protobufOf stream
      acceptFirstMessage env receiver pbMsgType) := rfl

end RemoteInterface

/-- What may be made of a datagram that the socket delivers next: a message only if the datagram
serialises it, and real data for the callers only if it serialises a message. -/
structure DatagramLaw (env : Env) (decode : Decoding) (type : String) (bytes : List UInt8)
    (s : Sys) : Prop where
  received : ∀ msg t, (DataReceiver.receiveAs env type).run s = .ok (some msg) t →
    decode type bytes = some msg
  named : ∀ (receiver : DataReceiver) msg t, (receiver.receive env type).run s = .ok (some msg) t →
    decode type bytes = some msg
  awaited : ∀ (receiver : TrackedDataReceiver) t,
    (RemoteInterface.acceptFirstMessage env receiver type).run s = .ok () t →
    (decode type bytes).isSome
  recorded : ∀ (receiver : DataReceiver) msg t cntMsgs outputs,
    (receiver.receive env type).run s = .ok msg t → record cntMsgs [msg] = .ok outputs →
    outputs ≠ [] → (decode type bytes).isSome

section Receiving

variable {env : Env} {decode : Decoding} {type : String} {bytes : List UInt8} {s : Sys}

/-- A datagram is received as what parsing its first bytes leaves. -/
theorem run_receiveAs (arrived : env.recvfrom s.world.tick = .datagram bytes) :
    ∃ t, (DataReceiver.receiveAs env type).run s =
      .ok (some (env.parseFromArray type (bytes.take DataReceiver.bufferSize)).2) t := by
  unfold DataReceiver.receiveAs
  rw [run_bind_of_ok (run_tick s), arrived]
  exact ⟨_, rfl⟩

/-- So is one that is asked for by the name of its type. -/
theorem receive_ok (arrived : env.recvfrom s.world.tick = .datagram bytes)
    {receiver : DataReceiver} {msg : Option Message} {t : Sys}
    (ran : (receiver.receive env type).run s = .ok msg t) :
    msg = some (env.parseFromArray type (bytes.take DataReceiver.bufferSize)).2 := by
  unfold DataReceiver.receive at ran
  rw [run_bind_of_ok (run_emit (.receive type) s)] at ran
  split at ran
  · let asked : Sys := { s with world.trace := s.world.trace ++ [.receive type] }
    have arrives : env.recvfrom asked.world.tick = .datagram bytes := arrived
    obtain ⟨u, same⟩ : ∃ u, (DataReceiver.receiveAs env type).run asked =
        .ok (some (env.parseFromArray type (bytes.take DataReceiver.bufferSize)).2) u :=
      run_receiveAs arrives
    rw [same] at ran
    cases ran
    rfl
  · cases ran

/-- The law holds of a datagram exactly when parsing its first bytes leaves the message that it
serialises. -/
theorem datagramLaw_iff (arrived : env.recvfrom s.world.tick = .datagram bytes) :
    DatagramLaw env decode type bytes s ↔
      decode type bytes =
        some (env.parseFromArray type (bytes.take DataReceiver.bufferSize)).2 := by
  obtain ⟨u, delivered⟩ : ∃ u, (DataReceiver.receiveAs env type).run s =
      .ok (some (env.parseFromArray type (bytes.take DataReceiver.bufferSize)).2) u :=
    run_receiveAs arrived
  constructor
  · intro law
    exact law.received _ u delivered
  · intro sent
    have serialised : (decode type bytes).isSome := by rw [sent]; rfl
    refine ⟨fun msg t ran => ?_, fun receiver msg t ran => ?_, fun _ _ _ => serialised,
      fun _ _ _ _ _ _ _ _ => serialised⟩
    · rw [delivered] at ran
      cases ran
      exact sent
    · exact sent.trans (receive_ok arrived ran).symm

/-- A parser leaves the message of the first bytes when they serialise one. -/
theorem parsed_first_bytes (parses : ParsesSerialisations env decode) {msg : Message}
    (serialised : decode type (bytes.take DataReceiver.bufferSize) = some msg) :
    (env.parseFromArray type (bytes.take DataReceiver.bufferSize)).2 = msg :=
  (parses type _).2 msg serialised

/-- An unabridged datagram is received faithfully. -/
theorem datagramLaw_of_unabridged (parses : ParsesSerialisations env decode)
    (arrived : env.recvfrom s.world.tick = .datagram bytes)
    (unabridged : Unabridged decode type bytes) : DatagramLaw env decode type bytes s := by
  obtain ⟨msg, serialised⟩ := Option.isSome_iff_exists.mp unabridged.1
  rw [datagramLaw_iff arrived, serialised,
    parsed_first_bytes parses (unabridged.2.trans serialised)]

/-- Where it does not matter what a failed parse leaves, only an unabridged datagram is. -/
theorem unabridged_of_datagramLaw (parses : ParsesSerialisations env decode)
    (arrived : env.recvfrom s.world.tick = .datagram bytes)
    (settled : (decode type (bytes.take DataReceiver.bufferSize)).isSome ∨
      decode type bytes = none)
    (law : DatagramLaw env decode type bytes s) : Unabridged decode type bytes := by
  rw [datagramLaw_iff arrived] at law
  rcases settled with cut | invalid
  · obtain ⟨msg, serialised⟩ := Option.isSome_iff_exists.mp cut
    rw [parsed_first_bytes parses serialised] at law
    exact ⟨by rw [law]; rfl, serialised.trans law.symm⟩
  · rw [invalid] at law
    cases law

end Receiving

/-- A message that differs from a given one. -/
def Message.other : Message → Message
  | .mk [] => .mk [.scalar "x" true true (.bool true)]
  | .mk (_ :: _) => .mk []

/-- It does differ. -/
theorem Message.other_ne (msg : Message) : msg.other ≠ msg := by
  cases msg with
  | mk fields => cases fields <;> simp [Message.other]

/-- Surroundings in which a datagram arrives, with a parser that leaves a given message when it
fails. -/
def deliveringDevice (decode : Decoding) (bytes : List UInt8) (leftover : Message) : Env :=
  { obligingDevice with
    recvfrom := fun _ => .datagram bytes
    parseFromArray := fun type bytes =>
      ((decode type bytes).isSome, (decode type bytes).getD leftover) }

/-- Its parser is one. -/
theorem deliveringDevice_parses (decode : Decoding) (bytes : List UInt8) (leftover : Message) :
    ParsesSerialisations (deliveringDevice decode bytes leftover) decode := by
  intro type bytes
  refine ⟨rfl, fun msg serialised => ?_⟩
  simp [deliveringDevice, serialised]

/-- A datagram is received faithfully, whatever a failed parse leaves, only if it is unabridged. -/
theorem unabridged_of_always {decode : Decoding} {type : String} {bytes : List UInt8}
    (always : ∀ env s, ParsesSerialisations env decode →
      env.recvfrom s.world.tick = .datagram bytes → DatagramLaw env decode type bytes s) :
    Unabridged decode type bytes := by
  let leftover := ((decode type bytes).getD (.mk [])).other
  let env := deliveringDevice decode bytes leftover
  have parses := deliveringDevice_parses decode bytes leftover
  have law := always env (Session.begin "" 0).sys parses rfl
  cases cut : decode type (bytes.take DataReceiver.bufferSize) with
  | some msg => exact unabridged_of_datagramLaw parses rfl (Or.inl (by rw [cut]; rfl)) law
  | none =>
    -- The message left by the failed parse is not the one sent.
    rw [datagramLaw_iff rfl] at law
    have left : (env.parseFromArray type (bytes.take DataReceiver.bufferSize)).2 = leftover := by
      simp [env, deliveringDevice, cut]
    rw [left] at law
    have same : leftover = leftover.other := by
      conv_lhs => rw [show leftover = ((decode type bytes).getD (.mk [])).other from rfl, law]
      rfl
    exact absurd same.symm leftover.other_ne

/-- A datagram is received faithfully exactly when it is unabridged: by every parser, where it does
not matter what a failed parse leaves, and by all parsers together otherwise. -/
theorem datagram_lawful_iff (decode : Decoding) (type : String) (bytes : List UInt8) :
    (∀ env s, ParsesSerialisations env decode → env.recvfrom s.world.tick = .datagram bytes →
      (decode type (bytes.take DataReceiver.bufferSize)).isSome ∨ decode type bytes = none →
      (DatagramLaw env decode type bytes s ↔ Unabridged decode type bytes)) ∧
    ((∀ env s, ParsesSerialisations env decode → env.recvfrom s.world.tick = .datagram bytes →
        DatagramLaw env decode type bytes s) ↔
      Unabridged decode type bytes) := by
  constructor
  · intro env s parses arrived settled
    exact ⟨unabridged_of_datagramLaw parses arrived settled,
      datagramLaw_of_unabridged parses arrived⟩
  · exact ⟨unabridged_of_always, fun unabridged env s parses arrived =>
      datagramLaw_of_unabridged parses arrived unabridged⟩

/-- The decoding of messages with one optional number as field 1, from what is a datagram of at most
two bytes: no field, or the field with a number below 128. -/
def numberDecoding : Decoding := fun _ bytes =>
  match bytes with
  | [] => some (.mk [.scalar "value" true false (.uint32 0)])
  | [8, value] => if value < 128 then some (.mk [.scalar "value" true true
      (.uint32 (BitVec.ofNat 32 value.toNat))]) else none
  | _ => none

/-- A datagram that is a serialisation and fits the buffer is received faithfully. -/
theorem datagram_lawful_number :
    DatagramLaw (deliveringDevice numberDecoding [8, 5] (.mk [])) numberDecoding "Frame" [8, 5]
      poseSession.sys :=
  ((datagram_lawful_iff numberDecoding "Frame" [8, 5]).1 _ poseSession.sys
    (deliveringDevice_parses _ _ _) rfl (Or.inl (by decide))).mpr
      ((unabridged_iff_of_short (by decide)).mpr (by decide))

/-- A byte that is no serialisation is received as a message, and ends the wait for the first
message of a stream as if it were one. -/
theorem datagram_lawless :
    ParsesSerialisations (deliveringDevice numberDecoding [255] (.mk [])) numberDecoding ∧
      numberDecoding "Frame" [255] = none ∧
      ¬DatagramLaw (deliveringDevice numberDecoding [255] (.mk [])) numberDecoding "Frame" [255]
        poseSession.sys ∧
      returned ((RemoteInterface.createReceiverForStream
        (deliveringDevice numberDecoding [255] (.mk [])) "pose" "" 0).run poseSession.sys) =
          true := by
  refine ⟨deliveringDevice_parses _ _ _, rfl, fun law => ?_, by decide +kernel⟩
  rw [datagramLaw_iff rfl] at law
  cases law

end RcDynamics
