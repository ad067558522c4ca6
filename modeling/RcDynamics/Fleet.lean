import RcDynamics.Leaks

/-!
# Several objects at one device

Objects in different programs may use one device at the same time. What they have been told by it
may be anything; the device acknowledges their requests in some order, any interleaving of theirs.
As long as no two of them register the same destination, and none initialises itself again while
it has something there, each object tracks what is left of its own, and when all are destroyed the
device is left with nothing that it did not have before.
-/

namespace RcDynamics

open Effect

/-- An object in use by a program, and what it is told. -/
structure Member where
  env : Env
  rcVisardIp : String
  requestsTimeout : Int
  operations : List Operation

namespace Member

/-- The object after the operations. -/
def session (member : Member) : Session :=
  Session.after member.env member.rcVisardIp member.requestsTimeout member.operations

/-- The object after its destructor. -/
def destroyed (member : Member) : Sys :=
  final ((RemoteInterface.destroy member.env .copied).run member.session.sys)

/-- The program initialises the object explicitly only while nothing that the object has
registered is on the device. -/
def ForgetsNothing (member : Member) (device : Device) : Prop :=
  Session.ForgetsNothing member.env device member.rcVisardIp member.requestsTimeout
    member.operations

/-- An object whose program forgets nothing keeps its ledger above what is left. -/
theorem covers {member : Member} {device : Device} (careful : member.ForgetsNothing device) :
    Ledger.Covers device member.session.sys.ledger :=
  Session.covers_of_forgetsNothing careful member.operations List.prefix_rfl

end Member

/-- The destinations of two programs on one host, each with a port of its own. -/
def portOf (own : Bool) : String := if own then "192.168.0.5:40000" else "192.168.0.5:40001"

/-- Such a program with the obliging device, which initialises its object first. -/
def portMember (own : Bool) : Member where
  env := obligingDevice
  rcVisardIp := "192.168.0.10"
  requestsTimeout := 5000
  operations := [.checkSystemReady, .addDestinationToStream "pose" (portOf own)]

/-- It does so once. -/
theorem portMember_forgetsNothing (own : Bool) (device : Device) :
    (portMember own).ForgetsNothing device := by
  apply Session.forgetsNothing_of_tail
  cases own <;> decide

/-- Its request for the stream. -/
def portPut (own : Bool) : Bool × Change := (own, .put "pose" [portOf own])

/-- Its removal. -/
def portDelete (own : Bool) : Bool × Change := (own, .delete "pose" [portOf own])

/-- What one of them registers the other does not. -/
theorem portPut_apart {own : Bool} {key value : String}
    (registered : 0 < (portPut own).2.putCount key value) :
    (portPut !own).2.putCount key value = 0 := by
  have named (own : Bool) (some : 0 < (portPut own).2.putCount key value) :
      value = portOf own := by
    have counted : 0 < if "pose" = key then [portOf own].count value else 0 := some
    split_ifs at counted
    · exact List.mem_singleton.mp (List.count_pos_iff.mp counted)
    · exact absurd counted (Nat.lt_irrefl 0)
  by_contra other
  have both := (named own registered).symm.trans (named _ (Nat.pos_of_ne_zero other))
  cases own
  · exact absurd both (by decide)
  · exact absurd both (by decide)

section Fleet

variable {ι : Type} [DecidableEq ι] (members : ι → Member) (device : Device)

/-- **Every object tracks its own.** While several objects use a device, in whatever order it
acknowledges their requests, each object that is initialised explicitly only while nothing of its
own is left tracks everything that it has registered and that is on the device, if no other object
registers the same. -/
theorem fleet_tracks {history : List (ι × Change)}
    (interleaved : ∀ i, Ledger.own i history = changes (members i).session.sys.world.trace)
    {i : ι} (careful : (members i).ForgetsNothing device) (apart : Ledger.Apart i history)
    {stream d : String}
    (registered : 0 < Ledger.registrations (Ledger.own i history) stream d)
    (held : d ∈ device.after (Ledger.everyone history) stream) :
    d ∈ (members i).session.sys.iface.tracked stream := by
  have left := Ledger.left_own apart registered held
  rw [interleaved i] at left
  exact Member.covers careful stream d left

/-- Each of two programs tracks its own destination. -/
theorem fleet_tracks_ports : "192.168.0.5:40000" ∈
    (portMember true).session.sys.iface.tracked "pose" := by
  have interleaved : ∀ own, Ledger.own own [portPut false, portPut true] =
      changes (portMember own).session.sys.world.trace := by decide +kernel
  have apart : Ledger.Apart true [portPut false, portPut true] := by
    intro entry member other key value registered
    rcases List.mem_cons.mp member with rfl | member
    · exact portPut_apart registered
    · rw [List.mem_singleton.mp member] at other
      exact absurd rfl other
  exact fleet_tracks portMember (fun _ => ∅) interleaved (i := true)
    (portMember_forgetsNothing true _) apart (by decide) (by decide)

/-- **The last one leaves the device as it was.** When all objects that have used a device, each
initialised explicitly only while nothing of its own was left, are destroyed and their removals
succeed, the device holds for each stream nothing that it did not
hold before, whatever the order in which it has acknowledged their requests. -/
theorem fleet_leaves_nothing {history : List (ι × Change)}
    (interleaved : ∀ i, Ledger.own i history = changes (members i).destroyed.world.trace)
    (careful : ∀ i, (members i).ForgetsNothing device) (apart : ∀ i, Ledger.Apart i history)
    (succeed : ∀ i, DeletesSucceed (members i).env (members i).session.sys) (stream : String) :
    device.after (Ledger.everyone history) stream ⊆ device stream := by
  intro d held
  apply Ledger.held_initially ?_ held
  intro i
  by_contra some
  have registered := Nat.pos_of_ne_zero some
  have left := Ledger.left_own (apart i) registered held
  rw [interleaved i] at left
  have reached := Session.reachable_after (members i).env (members i).rcVisardIp
    (members i).requestsTimeout (members i).operations
  exact Session.destroy_leaves_nothing reached.sound
    (Member.covers (careful i)) (succeed i) stream d left

/-- Two programs that have taken turns leave an empty device empty. -/
theorem fleet_leaves_nothing_ports :
    Ledger.Server.after (fun _ => ∅) (Ledger.everyone
      [portPut false, portPut true, portDelete false, portDelete true]) "pose" ⊆ ∅ := by
  have interleaved : ∀ own, Ledger.own own
      [portPut false, portPut true, portDelete false, portDelete true] =
      changes (portMember own).destroyed.world.trace := by decide +kernel
  have apart : ∀ own, Ledger.Apart own
      [portPut false, portPut true, portDelete false, portDelete true] := by
    intro own entry member other key value registered
    have first : 0 < (portPut own).2.putCount key value := by
      cases own <;> exact registered
    simp only [List.mem_cons, List.not_mem_nil, or_false] at member
    have opposite : entry = portPut !own ∨ entry = portDelete !own := by
      cases own <;> rcases member with rfl | rfl | rfl | rfl <;>
        first | exact .inl rfl | exact .inr rfl | exact absurd rfl other
    rcases opposite with rfl | rfl
    · exact portPut_apart first
    · rfl
  exact fleet_leaves_nothing portMember (fun _ => ∅) interleaved
    (fun own => portMember_forgetsNothing own _) apart
    (fun _ => RemoteInterface.obligingDevice_succeeds _) "pose"

end Fleet

end RcDynamics
