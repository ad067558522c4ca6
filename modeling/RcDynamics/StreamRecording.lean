import RcDynamics.Listening
import RcDynamics.StreamTool

/-!
# What `rcdynamics_stream` records

The loop asks the receiver again and again. Each answer is a message or nothing, and the file is
the recording of these answers in their order: none is lost, none is recorded twice and none is
made up. Only what the last question throws and the first message, which the receiver has awaited,
are not in it.
-/

namespace RcDynamics

open Effect

/-- A question to a socket: its number, and the type of message that is expected. -/
structure Poll where
  number : Nat
  pbMsgType : String

/-- What a caller makes of the answer, unless it is an exception. -/
def Poll.message (env : Env) (poll : Poll) : Option Message :=
  match env.recvfrom poll.number with
  | .datagram bytes =>
    some (env.parseFromArray poll.pbMsgType (bytes.take DataReceiver.bufferSize)).2
  | .failed _ => none

/-- The messages among what the receiver has returned. -/
def messagesOf (env : Env) (polls : List Poll) : List Message :=
  (polls.map (Poll.message env)).reduceOption

/-- A recording that is continued. -/
theorem record_append (cntMsgs : BitVec 32) (early late : List (Option Message)) :
    record cntMsgs (early ++ late) = (do
      let first ← record cntMsgs early
      let second ← record (cntMsgs + BitVec.ofNat 32 early.reduceOption.length) late
      return first ++ second) := by
  induction early generalizing cntMsgs with
  | nil =>
    have none : cntMsgs + BitVec.ofNat 32 0 = cntMsgs := BitVec.add_zero cntMsgs
    simp only [List.nil_append, List.reduceOption_nil, List.length_nil, none, record]
    cases record cntMsgs late <;> rfl
  | cons msg early ih =>
    cases msg with
    | none =>
      simp only [List.cons_append, List.reduceOption_cons_of_none, record]
      exact ih cntMsgs
    | some msg =>
      have next : cntMsgs + 1 + BitVec.ofNat 32 early.reduceOption.length =
          cntMsgs + BitVec.ofNat 32 (early.reduceOption.length + 1) := by
        rw [BitVec.add_assoc, BitVec.add_comm 1, BitVec.ofNat_add]
        rfl
      simp only [List.cons_append, List.reduceOption_cons_of_some, List.length_cons, record, ih,
        next]
      split
      · cases Header.addMessage ⟨[], ""⟩ msg with
        | error e => rfl
        | ok header =>
          cases record (cntMsgs + 1) early with
          | error e => rfl
          | ok first =>
            cases record (cntMsgs + BitVec.ofNat 32 (early.reduceOption.length + 1)) late <;> rfl
      · cases record (cntMsgs + 1) early with
        | error e => rfl
        | ok first =>
          cases record (cntMsgs + BitVec.ofNat 32 (early.reduceOption.length + 1)) late <;> rfl

namespace RcdynamicsStream

open Program

section Records

variable {host : Host} {o : Options}

/-- What a process has recorded and counted is what the receiver returned to it. -/
structure Recorded (env : Env) (o : Options) (polls : List Poll) (p : Process) : Prop where
  rising : (polls.map Poll.number).Pairwise (· < ·)
  past : ∀ poll ∈ polls, poll.number < p.sys.world.tick
  file : if o.userSetOutFile then record 0 (polls.map (Poll.message env)) = .ok p.file
    else p.file = []
  count : p.cntMsgs = BitVec.ofNat 32 (messagesOf env polls).length
  limit : o.userSetMaxNumMsgs = true → (messagesOf env polls).length ≤ o.maxNumRecording.toNat

/-- The messages of one more question. -/
theorem messagesOf_append (env : Env) (polls : List Poll) (poll : Poll) :
    messagesOf env (polls ++ [poll]) = messagesOf env polls ++ messagesOf env [poll] := by
  unfold messagesOf
  rw [List.map_append, List.reduceOption_append]

/-- One question has at most one message. -/
theorem messagesOf_length_le (env : Env) (poll : Poll) : (messagesOf env [poll]).length ≤ 1 :=
  List.reduceOption_length_le [poll.message env]

/-- One more answer is recorded. -/
theorem Recorded.poll {env : Env} {polls : List Poll} {p q : Process}
    (recorded : Recorded env o polls p) (next : Poll) (new : p.sys.world.tick ≤ next.number)
    (past : next.number < q.sys.world.tick)
    (below : o.userSetMaxNumMsgs = true → p.cntMsgs < o.maxNumRecording)
    (written : if o.userSetOutFile then
        ∃ outputs, record p.cntMsgs [next.message env] = .ok outputs ∧ q.file = p.file ++ outputs
      else q.file = p.file)
    (counted : q.cntMsgs = p.cntMsgs + BitVec.ofNat 32 (messagesOf env [next]).length) :
    Recorded env o (polls ++ [next]) q where
  rising := by
    rw [List.map_append, List.pairwise_append]
    refine ⟨recorded.rising, List.pairwise_singleton _ _, ?_⟩
    intro number early last latest
    obtain ⟨poll, member, rfl⟩ := List.mem_map.mp early
    have before := recorded.past poll member
    rw [List.mem_singleton.mp latest]
    omega
  past := by
    intro poll member
    rcases List.mem_append.mp member with early | latest
    · have before := recorded.past poll early
      omega
    · rw [List.mem_singleton.mp latest]
      exact past
  file := by
    have earlier := recorded.file
    split_ifs at earlier written ⊢
    · obtain ⟨outputs, one, file⟩ := written
      have start : (0 : BitVec 32) + BitVec.ofNat 32 (messagesOf env polls).length = p.cntMsgs := by
        rw [recorded.count]
        exact BitVec.zero_add _
      unfold messagesOf at start
      rw [List.map_append, record_append, earlier, start, file]
      exact congrArg (fun late => late.map (p.file ++ ·)) one
    · rw [written, earlier]
  count := by
    rw [counted, recorded.count, messagesOf_append, List.length_append, BitVec.ofNat_add]
  limit := by
    intro limited
    have few := recorded.limit limited
    have one := messagesOf_length_le env next
    have small := o.maxNumRecording.isLt
    have under := BitVec.lt_def.mp (below limited)
    rw [recorded.count, BitVec.toNat_ofNat] at under
    rw [messagesOf_append, List.length_append]
    omega

/-- Besides, the receivers have been asked for these messages, and before and after that for
others. -/
structure Listened (env : Env) (o : Options) (first : List String) (polls : List Poll)
    (last : List String) (p : Process) : Prop extends Recorded env o polls p where
  asked : receives p.sys.world.trace = first ++ polls.map Poll.pbMsgType ++ last

/-- No receiver is asked, and nothing is recorded. -/
structure Later (p q : Process) : Prop where
  deaf : Deaf p.sys q.sys
  file : q.file = p.file
  cntMsgs : q.cntMsgs = p.cntMsgs

instance : Std.Refl Later := ⟨fun p => ⟨refl_of Deaf p.sys, rfl, rfl⟩⟩

instance : IsTrans Process Later where
  trans _ _ _ first second :=
    ⟨trans_of Deaf first.deaf second.deaf, second.file.trans first.file,
      second.cntMsgs.trans first.cntMsgs⟩

instance : Carries Later Deaf where
  sys _ _ deaf := ⟨deaf, rfl, rfl⟩
  console p _ := ⟨refl_of Deaf p.sys, rfl, rfl⟩
  looks p := ⟨refl_of Deaf p.sys, rfl, rfl⟩
  passes p _ := ⟨refl_of Deaf p.sys, rfl, rfl⟩

/-- What has been recorded stays so where nothing is recorded. -/
theorem Recorded.kept {env : Env} {polls : List Poll} {p q : Process}
    (recorded : Recorded env o polls p) (tick : p.sys.world.tick ≤ q.sys.world.tick)
    (file : q.file = p.file) (cntMsgs : q.cntMsgs = p.cntMsgs) : Recorded env o polls q where
  rising := recorded.rising
  past poll member := Nat.lt_of_lt_of_le (recorded.past poll member) tick
  file := by
    rw [file]
    exact recorded.file
  count := cntMsgs.trans recorded.count
  limit := recorded.limit

/-- What has been asked stays so too. -/
theorem Listened.later {env : Env} {polls : List Poll} {first last : List String} {p q : Process}
    (listened : Listened env o first polls last p) (later : Later p q) :
    Listened env o first polls last q where
  toRecorded := listened.toRecorded.kept later.deaf.tick later.file later.cntMsgs
  asked := later.deaf.receives.trans listened.asked

/-- A question without a record is the last one. -/
theorem Listened.asks {env : Env} {polls : List Poll} {first : List String} {p q : Process}
    (listened : Listened env o first polls [] p) (hears : Hears 1 p.sys q.sys)
    (file : q.file = p.file) (cntMsgs : q.cntMsgs = p.cntMsgs) :
    ∃ last, last.length ≤ 1 ∧ Listened env o first polls last q := by
  obtain ⟨last, few, trace⟩ := hears.receives
  refine ⟨last, few, listened.toRecorded.kept hears.tick file cntMsgs, ?_⟩
  rw [trace, listened.asked, List.append_nil]

section Loop

variable {first : List String} {polls : List Poll} {receiver : TrackedDataReceiver}

end Loop

/-- The receivers have been asked for what has been recorded, and besides for the first message at
most, and for one whose question has thrown. -/
def Faithful (env : Env) (o : Options) (p : Process) : Prop :=
  ∃ first polls last, first.length ≤ 1 ∧ last.length ≤ 1 ∧ Listened env o first polls last p

/-- No receiver has been asked. -/
abbrev Unheard (env : Env) (o : Options) (p : Process) : Prop := Listened env o [] [] [] p

/-- What is faithful stays so. -/
theorem Faithful.later {env : Env} {p q : Process} (faithful : Faithful env o p)
    (later : Later p q) : Faithful env o q := by
  obtain ⟨first, polls, last, once, few, listened⟩ := faithful
  exact ⟨first, polls, last, once, few, listened.later later⟩

/-- Where no receiver has been asked nothing is missing. -/
theorem Listened.faithful {env : Env} {p : Process} (unheard : Unheard env o p) :
    Faithful env o p := ⟨[], [], [], Nat.zero_le 1, Nat.zero_le 1, unheard⟩

/-- The call that makes the receiver asks it once at most. -/
theorem Listened.hears {env : Env} {p : Process} {s : Sys} (unheard : Unheard env o p)
    (hears : Hears 1 p.sys s) :
    ∃ first, first.length ≤ 1 ∧ Listened env o first [] [] { p with sys := s } := by
  have asked : Hears 1 p.sys ({ p with sys := s } : Process).sys := hears
  obtain ⟨first, few, listened⟩ := unheard.asks asked rfl rfl
  refine ⟨first, few, listened.toRecorded, ?_⟩
  rw [listened.asked]
  simp

end Records

end RcdynamicsStream

end RcDynamics
