import RcDynamics.Calls
import RcDynamics.Retries

/-!
# Time specifications

A time of a trajectory query is absolute, or relative to the start or to the end of the
trajectory. The factories take unsigned numbers and the object stores signed ones: the sign tells
the start from the end. The constructor looks at the sign of absolute times only, so numbers from
`2 ^ 63` on change their meaning in the other two factories, and an offset of zero has no sign to
tell its anchor by.
-/

namespace RcDynamics

open Effect

namespace TrajectoryTime

/-- A factory throws `std::invalid_argument`, or yields a time that reads as these numbers. -/
def Exact (result : Except Exn TrajectoryTime) (sec nsec : Int) : Prop :=
  (∃ what, result = .error (.invalidArgument what)) ∨
    ∃ time, result = .ok time ∧ time.sec.toInt = sec ∧ time.nsec.toInt = nsec

/-- An unsigned number keeps its value as a signed one below `2 ^ 63`. -/
theorem toInt_eq_toNat_iff (x : BitVec 64) : x.toInt = x.toNat ↔ x.toNat < 2 ^ 63 := by
  have bound := x.isLt
  rw [BitVec.toInt_eq_toNat_cond]
  split_ifs <;> omega

/-- An unsigned negation is the negative number up to `2 ^ 63`. -/
theorem toInt_neg_eq_iff (x : BitVec 64) : (-x).toInt = -(x.toNat : Int) ↔ x.toNat ≤ 2 ^ 63 := by
  have bound := x.isLt
  rw [BitVec.toInt_eq_toNat_cond, BitVec.toNat_neg]
  split_ifs <;> omega

/-- A relative time is never refused, so it is exact when the numbers stored are. -/
theorem exact_relative_iff (sec nsec : BitVec 64) (readSec readNsec : Int) :
    Exact (construct sec nsec true) readSec readNsec ↔
      sec.toInt = readSec ∧ nsec.toInt = readNsec := by
  have built : construct sec nsec true = .ok ⟨true, sec, nsec⟩ := rfl
  unfold Exact
  rw [built]
  constructor
  · rintro (⟨what, refused⟩ | ⟨time, same, reads⟩)
    · cases refused
    · cases same
      exact reads
  · intro reads
    exact Or.inr ⟨_, rfl, reads⟩

/-- An absolute time is refused when a number has become negative. -/
theorem exact_absolute (sec nsec : BitVec 64) : Exact (absolute sec nsec) sec.toNat nsec.toNat := by
  unfold absolute construct
  by_cases negative : sec.toInt < 0 ∨ nsec.toInt < 0
  · have refused : (!false && (decide (sec.toInt < 0) || decide (nsec.toInt < 0))) = true := by
      simpa using negative
    rw [if_pos refused]
    exact Or.inl ⟨_, rfl⟩
  · have accepted : ¬(!false && (decide (sec.toInt < 0) || decide (nsec.toInt < 0))) = true := by
      simpa using negative
    have secBound : sec.toNat < 2 ^ 63 := by
      have value := BitVec.toInt_eq_toNat_cond sec
      have bound := sec.isLt
      split_ifs at value <;> omega
    have nsecBound : nsec.toNat < 2 ^ 63 := by
      have value := BitVec.toInt_eq_toNat_cond nsec
      have bound := nsec.isLt
      split_ifs at value <;> omega
    rw [if_neg accepted]
    have reads := And.intro ((toInt_eq_toNat_iff sec).mpr secBound)
      ((toInt_eq_toNat_iff nsec).mpr nsecBound)
    exact Or.inr ⟨_, rfl, reads⟩

/-- The factories refuse their numbers or keep them: always for absolute times, for offsets from
the start exactly below `2 ^ 63`, and for offsets from the end exactly up to `2 ^ 63`. -/
theorem factories_exact_iff (sec nsec : BitVec 64) :
    Exact (absolute sec nsec) sec.toNat nsec.toNat ∧
      (Exact (relativeToStart sec nsec) sec.toNat nsec.toNat ↔
        sec.toNat < 2 ^ 63 ∧ nsec.toNat < 2 ^ 63) ∧
      (Exact (relativeToEnd sec nsec) (-sec.toNat) (-nsec.toNat) ↔
        sec.toNat ≤ 2 ^ 63 ∧ nsec.toNat ≤ 2 ^ 63) := by
  refine ⟨exact_absolute sec nsec, ?_, ?_⟩
  · unfold relativeToStart
    rw [exact_relative_iff, toInt_eq_toNat_iff, toInt_eq_toNat_iff]
  · unfold relativeToEnd
    rw [exact_relative_iff, toInt_neg_eq_iff, toInt_neg_eq_iff]

/-- An offset of `2 ^ 64 - 1` seconds from the start is stored as one second before the end, and
the same offset from the end as one second after the start. -/
theorem relative_wraps :
    relativeToStart 0xffffffffffffffff#64 0 = .ok ⟨true, -1, 0⟩ ∧
      relativeToEnd 0xffffffffffffffff#64 0 = .ok ⟨true, 1, 0⟩ ∧
      ¬Exact (relativeToStart 0xffffffffffffffff#64 0) (0xffffffffffffffff#64).toNat 0 := by
  refine ⟨by decide, by decide, ?_⟩
  rintro (⟨what, refused⟩ | ⟨time, same, reads, _⟩)
  · cases refused
  · cases same
    exact absurd reads (by decide)

end TrajectoryTime

/-- The factories, by what their times refer to. -/
inductive Anchor where
  | absolute
  | relativeToStart
  | relativeToEnd
deriving DecidableEq, Repr

/-- The arguments of a factory, in the range that signed numbers have too. -/
@[ext] structure TimeSpecification where
  anchor : Anchor
  sec : BitVec 64
  nsec : BitVec 64
  secBound : sec.toNat < 2 ^ 63
  nsecBound : nsec.toNat < 2 ^ 63
deriving DecidableEq

namespace TimeSpecification

/-- The call of the factory. -/
def build (spec : TimeSpecification) : Except Exn TrajectoryTime :=
  match spec.anchor with
  | .absolute => TrajectoryTime.absolute spec.sec spec.nsec
  | .relativeToStart => TrajectoryTime.relativeToStart spec.sec spec.nsec
  | .relativeToEnd => TrajectoryTime.relativeToEnd spec.sec spec.nsec

/-- The numbers that the object holds: negative ones count from the end. -/
def signed (spec : TimeSpecification) (x : BitVec 64) : Int :=
  if spec.anchor = .relativeToEnd then -x.toNat else x.toNat

/-- An offset of zero from the start or from the end. -/
def ZeroOffset (spec : TimeSpecification) : Prop :=
  spec.anchor ≠ .absolute ∧ spec.sec = 0 ∧ spec.nsec = 0

/-- In this range every call yields a time, and its numbers are exact. -/
theorem build_ok (spec : TimeSpecification) :
    ∃ time, spec.build = .ok time ∧ time.relative = decide (spec.anchor ≠ .absolute) ∧
      time.sec.toInt = spec.signed spec.sec ∧ time.nsec.toInt = spec.signed spec.nsec := by
  obtain ⟨anchor, sec, nsec, secBound, nsecBound⟩ := spec
  have secValue := (TrajectoryTime.toInt_eq_toNat_iff sec).mpr secBound
  have nsecValue := (TrajectoryTime.toInt_eq_toNat_iff nsec).mpr nsecBound
  cases anchor with
  | absolute =>
    have accepted : ¬(!false && (decide (sec.toInt < 0) || decide (nsec.toInt < 0))) = true := by
      simp [secValue, nsecValue]
    exact ⟨_, if_neg accepted, rfl, secValue, nsecValue⟩
  | relativeToStart => exact ⟨_, rfl, rfl, secValue, nsecValue⟩
  | relativeToEnd =>
    exact ⟨_, rfl, rfl, (TrajectoryTime.toInt_neg_eq_iff sec).mpr (Nat.le_of_lt secBound),
      (TrajectoryTime.toInt_neg_eq_iff nsec).mpr (Nat.le_of_lt nsecBound)⟩

/-- A time is determined by the numbers it reads as. -/
theorem build_eq_iff_signed (spec spec' : TimeSpecification) :
    spec.build = spec'.build ↔
      (spec.anchor = .absolute ↔ spec'.anchor = .absolute) ∧
        spec.signed spec.sec = spec'.signed spec'.sec ∧
        spec.signed spec.nsec = spec'.signed spec'.nsec := by
  obtain ⟨time, built, relative, sec, nsec⟩ := spec.build_ok
  obtain ⟨time', built', relative', sec', nsec'⟩ := spec'.build_ok
  rw [built, built', Except.ok.injEq, TrajectoryTime.mk.injEq, ← BitVec.toInt_inj,
    ← BitVec.toInt_inj, relative, relative', sec, sec', nsec, nsec', decide_eq_decide, not_iff_not]

/-- Two calls build the same time exactly when they are the same call, or offsets of zero. -/
theorem build_eq_iff (spec spec' : TimeSpecification) :
    spec.build = spec'.build ↔ spec = spec' ∨ spec.ZeroOffset ∧ spec'.ZeroOffset := by
  rw [build_eq_iff_signed]
  obtain ⟨anchor, sec, nsec, secBound, nsecBound⟩ := spec
  obtain ⟨anchor', sec', nsec', secBound', nsecBound'⟩ := spec'
  have zero (x : BitVec 64) : x = 0 ↔ x.toNat = 0 := BitVec.toNat_inj.symm
  simp only [signed, ZeroOffset, zero, TimeSpecification.mk.injEq, ← BitVec.toNat_inj]
  cases anchor <;> cases anchor' <;> simp <;> omega

end TimeSpecification

/-- The argument object of `getSlamTrajectory` for times built by the factories. -/
def requestArgs (start stop : TimeSpecification) : Except Exn Json := do
  return trajectoryArgs (← start.build) (← stop.build)

/-- The argument objects of two queries are equal exactly when the times are. -/
theorem trajectoryArgs_inj {start stop start' stop' : TrajectoryTime} :
    trajectoryArgs start stop = trajectoryArgs start' stop' ↔ start = start' ∧ stop = stop' := by
  obtain ⟨relative, sec, nsec⟩ := start
  obtain ⟨relative', sec', nsec'⟩ := start'
  obtain ⟨endRelative, endSec, endNsec⟩ := stop
  obtain ⟨endRelative', endSec', endNsec'⟩ := stop'
  unfold trajectoryArgs TrajectoryTime.json
  cases relative <;> cases relative' <;> cases endRelative <;> cases endRelative' <;>
    simp [BitVec.toInt_inj, and_comm, and_assoc]

/-- Argument objects are equal exactly when the times built are. -/
theorem requestArgs_eq_iff (start stop start' stop' : TimeSpecification) :
    requestArgs start stop = requestArgs start' stop' ↔
      start.build = start'.build ∧ stop.build = stop'.build := by
  obtain ⟨first, built, _⟩ := start.build_ok
  obtain ⟨last, stopBuilt, _⟩ := stop.build_ok
  obtain ⟨first', built', _⟩ := start'.build_ok
  obtain ⟨last', stopBuilt', _⟩ := stop'.build_ok
  have args : requestArgs start stop = .ok (trajectoryArgs first last) := by
    simp only [requestArgs, built, stopBuilt]
    rfl
  have args' : requestArgs start' stop' = .ok (trajectoryArgs first' last') := by
    simp only [requestArgs, built', stopBuilt']
    rfl
  rw [args, args', built, built', stopBuilt, stopBuilt', Except.ok.injEq, Except.ok.injEq,
    Except.ok.injEq, trajectoryArgs_inj]

section Queries

variable (env : Env) (timeoutMs : BitVec 32) (s : Sys)

/-- The request of a query of the trajectory. -/
def trajectoryRequest (args : Json) : Request :=
  request .put (.service "rc_slam" "get_trajectory") (some args)
    (RemoteInterface.narrowTimeout timeoutMs) s.iface

/-- `getSlamTrajectory` for times built by the factories. -/
def querySlamTrajectory (start stop : TimeSpecification) : Call Trajectory := do
  let first ← lift start.build
  let last ← lift stop.build
  RemoteInterface.getSlamTrajectory env first last timeoutMs

/-- What follows the answer to a query changes nothing. -/
theorem slamTrajectory_answer (r : Response) (t : Sys) :
    Within Eq (do
      handleCPRResponse r
      let j ← parseJson env r.text
      lift (do toProtobufTrajectory env.setters (← (← j.index "response").index "trajectory")))
      t := by
  apply (handleCPRResponse_within r t).bind
  intro _ t _
  apply (parseJson_within env r.text t).bind
  intro j t _
  exact lift_within _ t

/-- A query is its request with retries, as far as the trace is concerned. -/
theorem getSlamTrajectory_trace (start stop : TrajectoryTime) :
    (final ((RemoteInterface.getSlamTrajectory env start stop timeoutMs).run s)).world.trace =
      (final ((withRetry env (trajectoryRequest timeoutMs s (trajectoryArgs start stop))
        waitBeforeRetry).run s)).world.trace := by
  have asked : (cprPutWithRetry env (.service "rc_slam" "get_trajectory")
      (RemoteInterface.narrowTimeout timeoutMs) (some (trajectoryArgs start stop))).run s =
      (withRetry env (trajectoryRequest timeoutMs s (trajectoryArgs start stop))
        waitBeforeRetry).run s := rfl
  rw [← asked]
  unfold RemoteInterface.getSlamTrajectory
  cases ran : (cprPutWithRetry env (.service "rc_slam" "get_trajectory")
      (RemoteInterface.narrowTimeout timeoutMs) (some (trajectoryArgs start stop))).run s with
  | ok r t =>
    rw [run_bind_of_ok ran]
    exact congrArg (·.world.trace) (slamTrajectory_answer env r t).symm
  | error e t =>
    rw [run_bind_of_error ran]
    rfl

/-- Whatever is answered, a query sends the arguments of its times, and nothing else. -/
theorem querySlamTrajectory_sends (start stop : TimeSpecification) :
    ∃ args events, requestArgs start stop = .ok args ∧
      (final ((querySlamTrajectory env timeoutMs start stop).run s)).world.trace =
        s.world.trace ++ events ∧
      requests events ≠ [] ∧ ∀ r ∈ requests events, r = trajectoryRequest timeoutMs s args := by
  obtain ⟨first, built, _⟩ := start.build_ok
  obtain ⟨last, stopBuilt, _⟩ := stop.build_ok
  let sent := trajectoryRequest timeoutMs s (trajectoryArgs first last)
  let entries := env.attempts sent waitBeforeRetry s.world.tick
  have args : requestArgs start stop = .ok (trajectoryArgs first last) := by
    simp only [requestArgs, built, stopBuilt]
    rfl
  have query : querySlamTrajectory env timeoutMs start stop =
      RemoteInterface.getSlamTrajectory env first last timeoutMs := by
    unfold querySlamTrajectory
    rw [built, stopBuilt]
    rfl
  refine ⟨_, entries.map (attemptEvent sent), args, ?_, ?_, ?_⟩
  · rw [query, getSlamTrajectory_trace]
    exact trace_withRetry env sent waitBeforeRetry s
  · rw [requests_attempts]
    have attempted : Retry.answersOf entries ≠ [] :=
      Retry.answersOf_log_cons_ne_nil _ _ s.world.tick
    exact fun none => attempted (List.map_eq_nil_iff.mp none)
  · rw [requests_attempts]
    intro r member
    obtain ⟨_, _, rfl⟩ := List.mem_map.mp member
    rfl

/-- The requests of two queries, of whatever devices, carry the same arguments exactly when each
time of the one is that of the other, or both are offsets of zero. -/
theorem querySlamTrajectory_bodies_eq_iff (start stop start' stop' : TimeSpecification)
    {env' : Env} {timeoutMs' : BitVec 32} {s' : Sys} {events events' : List Event} {r r' : Request}
    (trace : (final ((querySlamTrajectory env timeoutMs start stop).run s)).world.trace =
      s.world.trace ++ events) (member : r ∈ requests events)
    (trace' : (final ((querySlamTrajectory env' timeoutMs' start' stop').run s')).world.trace =
      s'.world.trace ++ events') (member' : r' ∈ requests events') :
    r.body = r'.body ↔
      (start = start' ∨ start.ZeroOffset ∧ start'.ZeroOffset) ∧
        (stop = stop' ∨ stop.ZeroOffset ∧ stop'.ZeroOffset) := by
  obtain ⟨args, sent, built, told, _, all⟩ := querySlamTrajectory_sends env timeoutMs s start stop
  obtain ⟨args', sent', built', told', _, all'⟩ :=
    querySlamTrajectory_sends env' timeoutMs' s' start' stop'
  obtain rfl : sent = events := List.append_cancel_left (told.symm.trans trace)
  obtain rfl : sent' = events' := List.append_cancel_left (told'.symm.trans trace')
  have body : r.body = some args := by rw [all r member]; rfl
  have body' : r'.body = some args' := by rw [all' r' member']; rfl
  have same : requestArgs start stop = requestArgs start' stop' ↔ args = args' := by
    rw [built, built', Except.ok.injEq]
  rw [body, body', Option.some.injEq, ← same, requestArgs_eq_iff,
    TimeSpecification.build_eq_iff, TimeSpecification.build_eq_iff]

end Queries

/-- An offset of zero has a twin at the other anchor, which builds the same time. -/
theorem TimeSpecification.ZeroOffset.twin {spec : TimeSpecification} (zero : spec.ZeroOffset) :
    ∃ other : TimeSpecification, other ≠ spec ∧ other.build = spec.build := by
  obtain ⟨relative, sec, nsec⟩ := zero
  have others (anchor : Anchor) : ∃ other, other ≠ .absolute ∧ other ≠ anchor := by
    cases anchor with
    | absolute | relativeToStart => exact ⟨.relativeToEnd, by decide, by decide⟩
    | relativeToEnd => exact ⟨.relativeToStart, by decide, by decide⟩
  obtain ⟨other, otherRelative, different⟩ := others spec.anchor
  refine ⟨{ spec with anchor := other }, fun same => ?_, ?_⟩
  · exact different (congrArg TimeSpecification.anchor same)
  · apply (TimeSpecification.build_eq_iff _ _).mpr
    exact Or.inr ⟨⟨otherRelative, sec, nsec⟩, relative, sec, nsec⟩

/-- The arguments of a query determine its times, against every other query, exactly when neither
time is an offset of zero from the start or the end. -/
theorem requestArgs_determine_iff (start stop : TimeSpecification) :
    (∃ args, requestArgs start stop = .ok args) ∧
      ((∀ start' stop', requestArgs start' stop' = requestArgs start stop →
          start' = start ∧ stop' = stop) ↔
        ¬start.ZeroOffset ∧ ¬stop.ZeroOffset) := by
  constructor
  · obtain ⟨first, built, _⟩ := start.build_ok
    obtain ⟨last, stopBuilt, _⟩ := stop.build_ok
    refine ⟨trajectoryArgs first last, ?_⟩
    simp only [requestArgs, built, stopBuilt]
    rfl
  constructor
  · intro determined
    constructor
    · intro zero
      obtain ⟨other, different, same⟩ := zero.twin
      have equal := (requestArgs_eq_iff other stop start stop).mpr ⟨same, rfl⟩
      exact different (determined other stop equal).1
    · intro zero
      obtain ⟨other, different, same⟩ := zero.twin
      have equal := (requestArgs_eq_iff start other start stop).mpr ⟨rfl, same⟩
      exact different (determined start other equal).2
  · rintro ⟨nonzero, stopNonzero⟩ start' stop' equal
    obtain ⟨startSame, stopSame⟩ := (requestArgs_eq_iff start' stop' start stop).mp equal
    have first := (TimeSpecification.build_eq_iff start' start).mp startSame
    have last := (TimeSpecification.build_eq_iff stop' stop).mp stopSame
    exact ⟨first.resolve_right fun zeros => nonzero zeros.2,
      last.resolve_right fun zeros => stopNonzero zeros.2⟩

/-- The query of the whole trajectory, from the start to the end, has the arguments of the query
from the end to the start. -/
theorem requestArgs_ambiguous :
    let fromStart : TimeSpecification := ⟨.relativeToStart, 0, 0, by decide, by decide⟩
    let fromEnd : TimeSpecification := ⟨.relativeToEnd, 0, 0, by decide, by decide⟩
    requestArgs fromStart fromEnd = requestArgs fromEnd fromStart ∧ fromStart ≠ fromEnd := by
  intro fromStart fromEnd
  have builds : fromStart.build = fromEnd.build := by decide
  exact ⟨(requestArgs_eq_iff _ _ _ _).mpr ⟨builds, builds.symm⟩, by decide⟩

end RcDynamics
