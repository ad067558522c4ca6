import RcDynamics.Fuel
import RcDynamics.StreamTool

/-!
# How `rcdynamics_stream` ends

The program waits for the device and for messages without a bound of its own; a signal ends both
loops, each at its next look. It starts only with arguments that say what is to be received from
which device, and with a file that can be written.
-/

namespace RcDynamics

open Effect

namespace RcdynamicsStream

open Program

/-- A part of the program that uses no passes. -/
abbrev Bounded {α : Type} (m : Program α) : Prop := Throws (· ≠ Halt.running) m

section Parts

variable {α : Type}

/-- A call of the library. -/
theorem library_bounded (call : Call α) : Bounded (library call) := by
  intro p halt q ran
  obtain ⟨e, thrown, _⟩ := library_error ran
  rw [thrown]
  intro same
  cases same

/-- Changing the state of the program. -/
theorem modify_bounded (change : Process → Process) : Bounded (modify change : Program Unit) := by
  intro p halt q ran
  cases ran

/-- Printing. -/
theorem print_bounded (line : String) : Bounded (print line) := modify_bounded _

/-- Writing to the file. -/
theorem write_bounded (output : Output) : Bounded (write output) := modify_bounded _

/-- Looking at the state. -/
theorem get_bounded : Bounded (get : Program Process) := by
  intro p halt q ran
  cases ran

/-- Looking for a signal. -/
theorem caughtSignal_bounded (host : Host) : Bounded (caughtSignal host) := by
  intro p halt q ran
  rw [run_caughtSignal] at ran
  cases ran

/-- A handler. -/
theorem catching_bounded {body : Program α} {handle : Exn → Program α} (tried : Bounded body)
    (handled : ∀ e, Bounded (handle e)) : Bounded (catching body handle) := by
  apply Throws.tryCatch tried
  intro halt bounded
  cases halt with
  | thrown e =>
    dsimp only
    split
    · exact handled e
    · exact Throws.throw bounded
  | fatal e => exact Throws.throw bounded
  | running => exact Throws.throw bounded

/-- A handler around a part that settles. -/
theorem catching_settles {body more : Program α} {handle : Exn → Program α} {p : Process}
    (tried : Settles .running body more p) (handled : ∀ e, Bounded (handle e)) :
    Settles .running (catching body handle) (catching more handle) p := by
  apply tried.tryCatch
  intro halt q ran
  have other : halt ≠ .running := by
    rintro rfl
    exact tried.ends q ran
  have rethrown : Settles .running (throw halt : Program α) (throw halt) q :=
    .of_throws (Throws.throw other) q
  cases halt with
  | thrown e =>
    dsimp only
    split
    · exact .of_throws (handled e) q
    · exact rethrown
  | fatal e => exact rethrown
  | running => exact rethrown

/-- A block around a part that settles. -/
theorem block_settles {body more : Program α} {destroy : Program Unit} {p : Process}
    (inside : Settles .running body more p) (ended : Bounded destroy) :
    Settles .running (block body destroy) (block more destroy) p := by
  unfold block
  apply Settles.bind
  · apply inside.tryCatch
    intro halt q ran
    have other : halt ≠ .running := by
      rintro rfl
      exact inside.ends q ran
    split
    · exact .of_throws (ended.bind fun _ => Throws.throw other) q
    · exact .of_throws ((Throws.pure PUnit.unit).bind fun _ => Throws.throw other) q
  · intro a q _
    exact .of_throws (ended.bind fun _ => Throws.pure a) q

end Parts

section Signals

variable {host : Host} {o : Options}

/-- Starting the module. -/
theorem startAsked_bounded : Bounded (startAsked host o) := by
  have call {α : Type} (name : String) (value : α) : Bounded (do
      let _ ← library (RemoteInterface.callDynamicsService host.env name)
      return value : Program α) := (library_bounded _).bind fun _ => Throws.pure value
  unfold startAsked
  split
  · apply catching_bounded
    · exact (print_bounded _).bind fun _ => call "start_slam" true
    · intro _
      apply catching_bounded
      · exact (print_bounded _).bind fun _ => (print_bounded _).bind fun _ => call "start" true
      · exact fun e => (print_bounded _).bind fun _ => Throws.pure false
  · exact Throws.pure true

/-- Stopping the module. -/
theorem stopStarted_bounded : Bounded (stopStarted host o) := by
  unfold stopStarted
  split
  · apply catching_bounded
    · exact (print_bounded _).bind fun _ => (library_bounded _).bind fun _ => Throws.pure ()
    · exact fun e => print_bounded _
  · exact Throws.pure ()

/-- The report at the end. -/
theorem report_bounded : Bounded (report o) := by
  apply get_bounded.bind
  intro p
  dsimp only
  split
  · exact print_bounded _
  · exact print_bounded _

/-- The list of streams, when its last request is answered. -/
theorem listStreams_bounded (answered : host.unanswered = false) : Bounded (listStreams host) := by
  have state (node : String) : Bounded (library (RemoteInterface.getState host.env node)) :=
    library_bounded _
  unfold listStreams
  apply (library_bounded _).bind
  intro streams
  apply (print_bounded _).bind
  intro _
  apply Throws.bind
  · apply Throws.forM
    exact fun s => (library_bounded _).bind fun pbMsgType => print_bounded _
  intro _
  apply (state _).bind
  intro dynamicsState
  apply (print_bounded _).bind
  intro _
  apply (state _).bind
  intro slamState
  apply (print_bounded _).bind
  intro _
  apply (state _).bind
  intro stereoInsState
  apply (print_bounded _).bind
  intro _
  apply Throws.bind
  · unfold listTransform
    rw [answered, if_neg Bool.false_ne_true]
    apply catching_bounded
    · exact (library_bounded _).bind fun cam2imu => print_bounded _
    · intro e
      split
      · exact print_bounded _
      · exact print_bounded _
  · exact fun _ => print_bounded _

/-- Reading the clock. -/
theorem readClock_bounded (host : Host) : Bounded (readClock host) := by
  intro p halt q ran
  have read : (readClock host).run p =
      .ok (host.elapsed p.passes) { p with passes := p.passes + 1 } := rfl
  rw [read] at ran
  cases ran

/-- A pass of the recording loop. -/
theorem receiveOnce_bounded (receiver : TrackedDataReceiver) :
    Bounded (receiveOnce host o receiver) := by
  have headed (msg : Message) : Bounded (heading msg) := by
    unfold heading
    split
    · exact Throws.pure _
    · apply Throws.throw
      intro same
      cases same
  have written (msg : Message) : Bounded (writeHeader msg) := by
    apply get_bounded.bind
    intro p
    split
    · exact (headed msg).bind fun _ => write_bounded _
    · exact Throws.pure ()
  have shown (msg : Message) : Bounded (output host o msg) := by
    unfold output
    split
    · exact (written msg).bind fun _ => write_bounded _
    · exact print_bounded _
  apply (library_bounded _).bind
  intro pbMsgType
  apply (library_bounded _).bind
  intro msg
  split
  · exact (shown _).bind fun _ => modify_bounded _
  · exact print_bounded _

/-- How often the signal has been looked for never decreases. -/
def Watches (p q : Process) : Prop := p.looks ≤ q.looks

instance : Std.Refl Watches := ⟨fun p => Nat.le_refl p.looks⟩

instance : IsTrans Process Watches := ⟨fun _ _ _ first second => Nat.le_trans first second⟩

/-- Whatever a call does. -/
def Anything (_ _ : Sys) : Prop := True

/-- Every call does something. -/
theorem within_anything {α : Type} (call : Call α) (s : Sys) : Within Anything call s := trivial

instance : CarriesAll Watches Anything where
  sys p _ _ := Nat.le_refl p.looks
  console p _ := Nat.le_refl p.looks
  looks p := Nat.le_succ p.looks
  passes p _ := Nat.le_refl p.looks
  file p _ := Nat.le_refl p.looks
  cntMsgs p _ := Nat.le_refl p.looks

/-- A part of the program that looks for the signal keeps count. -/
theorem receiveOnce_watches (receiver : TrackedDataReceiver) (p : Process) :
    Within Watches (receiveOnce host o receiver) p :=
  receiveOnce_within host o receiver (within_anything _) (fun _ => within_anything _) p

variable {signalled : Nat}

/-- Once a signal has come every look finds it. -/
theorem caught_iff (signal : host.signal = some signalled) (look : Nat) :
    host.caught look = true ↔ signalled ≤ look := by
  unfold Host.caught
  rw [signal]
  exact decide_eq_true_iff

/-- A look that does not find it is early. -/
theorem early_of_uncaught (signal : host.signal = some signalled) {look : Nat}
    (found : host.caught look = false) : look < signalled := by
  by_contra late
  have caught : host.caught look = true := (caught_iff signal look).mpr (by omega)
  rw [found] at caught
  exact Bool.false_ne_true caught

/-- Waiting for the system settles with one pass more than looks are left before the signal. -/
theorem awaitSystem_settles (signal : host.signal = some signalled) {passes more : Nat}
    (larger : passes ≤ more) {p : Process} (enough : signalled < p.looks + passes)
    (some : 0 < passes) :
    Settles .running (awaitSystem host passes) (awaitSystem host more) p := by
  induction passes generalizing more p with
  | zero => exact absurd some (Nat.lt_irrefl 0)
  | succ passes ih =>
    cases more with
    | zero => exact absurd larger (Nat.not_succ_le_zero passes)
    | succ more =>
      unfold awaitSystem
      have looked : Settles .running (caughtSignal host) (caughtSignal host) p :=
        .of_throws (caughtSignal_bounded host) p
      apply looked.bind
      intro caught q ran
      cases ran
      cases found : host.caught p.looks with
      | true => exact .of_throws (Throws.pure ()) _
      | false =>
        have early : p.looks < signalled := early_of_uncaught signal found
        have left : 0 < passes := by omega
        apply (Settles.of_throws (library_bounded _) _).bind
        intro ready r checked
        have counted : p.looks + 1 ≤ r.looks := by
          have watches : Within Watches (library (RemoteInterface.checkSystemReady host.env))
              { p with looks := p.looks + 1 } := library_within (within_anything _ _)
          exact watches.of_ok checked
        cases ready with
        | true => exact .of_throws (Throws.pure ()) r
        | false =>
          apply (Settles.of_throws (print_bounded _) r).bind
          intro _ u ran
          cases ran
          apply ih (Nat.le_of_succ_le_succ larger) _ left
          change signalled < r.looks + passes
          omega

/-- So does the recording loop. -/
theorem receiveLoop_settles (signal : host.signal = some signalled)
    (receiver : TrackedDataReceiver) {passes more : Nat} (larger : passes ≤ more)
    (elapsedSecs : ℚ) {p : Process} (enough : signalled < p.looks + passes) (some : 0 < passes) :
    Settles .running (receiveLoop host o receiver passes elapsedSecs)
      (receiveLoop host o receiver more elapsedSecs) p := by
  induction passes generalizing more elapsedSecs p with
  | zero => exact absurd some (Nat.lt_irrefl 0)
  | succ passes ih =>
    cases more with
    | zero => exact absurd larger (Nat.not_succ_le_zero passes)
    | succ more =>
      unfold receiveLoop
      have looked : Settles .running (caughtSignal host) (caughtSignal host) p :=
        .of_throws (caughtSignal_bounded host) p
      apply looked.bind
      intro caught q ran
      cases ran
      apply (Settles.of_throws get_bounded _).bind
      intro q r ran
      cases ran
      cases found : host.caught p.looks with
      | true => exact .of_throws (Throws.pure ()) _
      | false =>
        have early : p.looks < signalled := early_of_uncaught signal found
        have left : 0 < passes := by omega
        split
        · exact .of_throws (Throws.pure ()) _
        apply (Settles.of_throws (receiveOnce_bounded receiver) _).bind
        intro _ u once
        have counted : p.looks + 1 ≤ u.looks := (receiveOnce_watches receiver _).of_ok once
        have timed : Settles .running (readClock host) (readClock host) u :=
          .of_throws (readClock_bounded host) u
        apply timed.bind
        intro later v ran
        cases ran
        apply ih (Nat.le_of_succ_le_succ larger) _ _ left
        change signalled < u.looks + passes
        omega

/-- Receiving a stream settles. -/
theorem stream_settles (signal : host.signal = some signalled) {passes more : Nat}
    (larger : passes ≤ more) (enough : signalled < passes) (p : Process) :
    Settles .running (stream host o passes) (stream host o more) p := by
  apply catching_settles
  · apply (Settles.of_throws (print_bounded _) p).bind
    intro _ p _
    apply (Settles.of_throws (library_bounded _) p).bind
    intro receiver p _
    apply block_settles
    · apply (Settles.of_throws (library_bounded _) p).bind
      intro _ p _
      apply (Settles.of_throws (print_bounded _) p).bind
      intro _ p _
      apply receiveLoop_settles signal receiver larger
      · omega
      · omega
    · exact library_bounded _
  · exact fun e => print_bounded _

/-- What `main` does settles. -/
theorem run_settles (signal : host.signal = some signalled)
    (answered : o.onlyListStreams = true → host.unanswered = false) {passes more : Nat}
    (larger : passes ≤ more) (enough : signalled < passes) (p : Process) :
    Settles .running (run host o passes) (run host o more) p := by
  have connected : Settles .running (connect host passes) (connect host more) p := by
    apply catching_settles
    · apply Settles.bind
      · apply awaitSystem_settles signal larger
        · omega
        · omega
      · exact fun _ p _ => .of_throws ((print_bounded _).bind fun _ => Throws.pure true) p
    · exact fun e => (print_bounded _).bind fun _ => Throws.pure false
  apply connected.bind
  intro found p _
  split
  · split
    · rename_i listing
      have listed := listStreams_bounded (answered listing)
      exact .of_throws (listed.bind fun _ => Throws.pure exitSuccess) p
    · apply (Settles.of_throws startAsked_bounded p).bind
      intro started p _
      split
      · apply (stream_settles signal larger enough p).bind
        intro _ p _
        have ending : Bounded (do
            stopStarted host o
            report o
            return exitSuccess : Program Int) :=
          stopStarted_bounded.bind fun _ => report_bounded.bind fun _ => Throws.pure exitSuccess
        exact .of_throws ending p
      · exact .of_throws (Throws.pure exitFailure) p
  · exact .of_throws (Throws.pure exitFailure) p

end Signals

/-- What `finish` makes of two runs that settle is the same, and ended. -/
theorem finish_settles {host : Host} {main more : Program Int} {p : Process}
    (settles : Settles .running main more p) :
    more.finish host p = main.finish host p ∧ ∀ q, main.finish host p ≠ .running q := by
  unfold Program.finish
  rw [settles.same]
  refine ⟨rfl, ?_⟩
  intro q
  cases ran : main.run p with
  | error halt r =>
    apply Ending.ofHalt_stopped
    rintro rfl
    exact settles.ends r ran
  | ok status r =>
    cases destroyed : (library (RemoteInterface.destroy host.env .aliased)).run r with
    | error halt u =>
      simp only [destroyed]
      exact Ending.ofHalt_stopped (library_bounded _ r halt u destroyed)
    | ok report u =>
      simp only [destroyed]
      exact fun same => by cases same

/-- **A signal ends the program.** Whatever the device answers or leaves unanswered, a signal that
the look with some number finds first ends the program: with more passes than that it is not still
running, and further passes change nothing. Only the list of streams waits for an answer without a
limit of time, and that one has to come. -/
theorem signal_ends (host : Host) (o : Options) {signalled : Nat}
    (signal : host.signal = some signalled)
    (answered : o.onlyListStreams = true → host.unanswered = false) {passes : Nat}
    (enough : signalled < passes) :
    (∀ process, start host o passes ≠ .running process) ∧
      ∀ more, passes ≤ more → start host o more = start host o passes := by
  have settles {more : Nat} (larger : passes ≤ more) (p : Process) :
      (run host o more).finish host p = (run host o passes).finish host p ∧
        ∀ q, (run host o passes).finish host p ≠ .running q :=
    finish_settles (run_settles signal answered larger enough p)
  constructor
  · intro process
    unfold start
    split
    · exact fun same => by cases same
    dsimp only
    split
    · exact fun same => by cases same
    · exact (settles (Nat.le_refl passes) _).2 process
  · intro more larger
    unfold start
    split
    · rfl
    dsimp only
    split
    · rfl
    · exact (settles larger _).1

/-- The user of that host ends the program at the fourth look, when it has recorded two messages
of the ten. -/
theorem signal_ends_pose :
    ∃ p, p.looks = 4 ∧ p.cntMsgs = 2 ∧
      ∀ more, 4 ≤ more → start obligingHost poseOptions more = .exited exitSuccess p := by
  have seen : (start obligingHost poseOptions 4).exit.any (fun (status, p) =>
      decide (status = exitSuccess ∧ p.looks = 4 ∧ p.cntMsgs = 2)) = true := by decide +kernel
  obtain ⟨status, p, ended, found⟩ := Ending.exited_of_any seen
  obtain ⟨rfl, looks, cntMsgs⟩ := of_decide_eq_true found
  refine ⟨p, looks, cntMsgs, fun more larger => ?_⟩
  have stopped :=
    (signal_ends obligingHost poseOptions rfl (fun _ => rfl) (by decide)).2 more larger
  exact stopped.trans ended

section Arguments

open CommandLine

variable {host : Host}

/-- The options say what to do with which device. -/
structure Options.Complete (o : Options) : Prop where
  device : o.userSetIp = true
  task : o.userSetStreamType = true ∨ o.onlyListStreams = true

/-- The options with the limit that is set when none is given. -/
def Options.limited (o : Options) : Options :=
  if !o.userSetMaxNumMsgs && !o.userSetMaxRecordingTime then { o with userSetMaxNumMsgs := true }
  else o

/-- Neither of two flags is set. -/
theorem neither_iff (first second : Bool) :
    (!first && !second) = true ↔ ¬ (first = true ∨ second = true) := by
  cases first <;> cases second <;> decide

/-- The checks pass exactly the complete options. -/
theorem checkOptions_eq_ok_iff {o checked : Options} :
    checkOptions o = .ok checked ↔ o.Complete ∧ o.limited = checked := by
  have passes (complete : o.Complete) : checkOptions o = .ok o.limited := by
    have named : ¬ (!o.userSetIp) = true := by
      rw [complete.device]
      decide
    have busy : ¬ (!o.userSetStreamType && !o.onlyListStreams) = true := by
      rw [neither_iff, not_not]
      exact complete.task
    unfold checkOptions Options.limited
    rw [if_neg named, if_neg busy]
    split
    · rfl
    · rfl
  constructor
  · intro passed
    have complete : o.Complete := by
      unfold checkOptions at passed
      split_ifs at passed with unnamed idle
      all_goals
        rw [neither_iff, not_not] at idle
        rw [Bool.not_eq_true', Bool.not_eq_false] at unnamed
        exact ⟨unnamed, idle⟩
    rw [passes complete] at passed
    cases passed
    exact ⟨complete, rfl⟩
  · rintro ⟨complete, rfl⟩
    exact passes complete

/-- A count that fits an `int`, which `atoi` returns. -/
def Options.Small (o : Options) : Prop :=
  o.maxNumRecording.toNat < 2 ^ 31 ∧ o.maxSecsRecording.toNat < 2 ^ 31

/-- What known words do to the options keeps the counts small. -/
theorem flag_small {o given : Options} {arguments : List String}
    (sets : Sets (flag host) o arguments given) (small : o.Small) : given.Small := by
  have each (word : String) : ∀ known ∈ flag host word, known.Keeps Options.Small := by
    unfold flag
    repeat' apply forall_mem_ite
    all_goals
      intro known among
      cases among
    · exact fun _ kept => kept
    · exact fun _ _ kept => kept
    · exact fun _ kept => kept
    · exact fun _ _ kept => kept
    · exact fun _ _ kept => kept
    · exact fun argument _ kept => ⟨countArgument_lt host argument, kept.2⟩
    · exact fun argument _ kept => ⟨kept.1, countArgument_lt host argument⟩
    · exact fun _ _ kept => kept
    · exact trivial
  exact sets.keeps each small

/-- Only one word asks for help. -/
theorem flag_help_iff {word : String} : flag host word = some .help ↔ word = "-h" := by
  constructor
  · intro known
    by_contra other
    have each : ∀ known ∈ flag host word, known ≠ .help := by
      unfold flag
      rw [if_neg other]
      repeat' apply forall_mem_ite
      all_goals
        intro known among
        cases among
      all_goals exact fun same => by cases same
    exact each _ known rfl
  · rintro rfl
    rfl

/-- The program declines to start. -/
def Declines (status : Int) (ending : Ending) : Prop :=
  ∃ console, ending = .declined status console

/-- With options that have passed the checks it declines only for its file. -/
theorem start_declines_iff {o : Options} {passes : Nat} {status : Int} :
    Declines status (start host o passes) ↔
      status = exitFailure ∧ o.userSetOutFile = true ∧ host.opens o.outFileName = false := by
  have finishes (p : Process) (console : List String) :
      (run host o passes).finish host p ≠ .declined status console := by
    unfold Program.finish
    split
    · exact Ending.ofHalt_started
    · split
      · exact fun same => by cases same
      · exact Ending.ofHalt_started
  unfold start
  split
  · rename_i closed
    rw [Bool.and_eq_true, Bool.not_eq_true'] at closed
    constructor
    · rintro ⟨console, same⟩
      cases same
      exact ⟨rfl, closed⟩
    · rintro ⟨rfl, _⟩
      exact ⟨_, rfl⟩
  · rename_i opened
    rw [Bool.and_eq_true, Bool.not_eq_true'] at opened
    constructor
    · rintro ⟨console, same⟩
      dsimp only at same
      split at same
      · cases same
      · exact absurd same (finishes _ console)
    · exact fun declined => absurd declined.2 opened

/-- The limit that is set does not touch the file. -/
theorem Options.limited_file (o : Options) :
    o.limited.userSetOutFile = o.userSetOutFile ∧ o.limited.outFileName = o.outFileName := by
  unfold Options.limited
  split
  · exact ⟨rfl, rfl⟩
  · exact ⟨rfl, rfl⟩

/-- Nor the counts. -/
theorem Options.Small.limited {o : Options} (small : o.Small) : o.limited.Small := by
  unfold Options.limited
  split
  · exact small
  · exact small

/-- With it there is a limit. -/
theorem Options.limited_limits (o : Options) :
    o.limited.userSetMaxNumMsgs = true ∨ o.limited.userSetMaxRecordingTime = true := by
  unfold Options.limited
  split
  · exact .inl rfl
  · rename_i given
    rwa [neither_iff, not_not] at given

/-- Complete options are started with. -/
theorem main_of_complete {arguments : List String} {passes : Nat} {o : Options}
    (sets : Sets (flag host) defaults arguments o) (complete : o.Complete) :
    main host arguments passes = start host o.limited passes := by
  unfold main
  rw [parse_eq_settings_iff.mpr sets]
  dsimp only
  rw [checkOptions_eq_ok_iff.mpr ⟨complete, rfl⟩]

/-- The program declines unless it is given complete options and can write its file. -/
theorem main_declines_iff {arguments : List String} {passes : Nat} :
    (∃ status, Declines status (main host arguments passes)) ↔
      ¬ ∃ o, Sets (flag host) defaults arguments o ∧ o.Complete ∧
        (o.userSetOutFile = true → host.opens o.outFileName = true) := by
  constructor
  · rintro ⟨status, declined⟩ ⟨o, sets, complete, writable⟩
    rw [main_of_complete sets complete, start_declines_iff, o.limited_file.1,
      o.limited_file.2] at declined
    have opened := writable declined.2.1
    rw [declined.2.2] at opened
    exact Bool.false_ne_true opened
  · intro refused
    unfold main
    cases parsed : parse (flag host) defaults arguments with
    | usage asked => exact ⟨_, _, rfl⟩
    | settings o =>
      dsimp only
      cases checked : checkOptions o with
      | error line => exact ⟨_, _, rfl⟩
      | ok passed =>
        -- The options have passed, so only the file is left to blame.
        obtain ⟨complete, rfl⟩ := checkOptions_eq_ok_iff.mp checked
        refine ⟨exitFailure, start_declines_iff.mpr ⟨rfl, ?_⟩⟩
        rw [o.limited_file.1, o.limited_file.2]
        by_contra writable
        apply refused
        refine ⟨o, parse_eq_settings_iff.mp parsed, complete, ?_⟩
        intro recording
        by_contra closed
        exact writable ⟨recording, Bool.eq_false_of_not_eq_true closed⟩

/-- It declines with success only to help. -/
theorem main_helps_iff {arguments : List String} {passes : Nat} :
    Declines exitSuccess (main host arguments passes) ↔
      ∃ before after o, arguments = before ++ "-h" :: after ∧
        Sets (flag host) defaults before o := by
  have failure : exitSuccess ≠ exitFailure := by decide
  constructor
  · rintro ⟨console, same⟩
    unfold main at same
    cases parsed : parse (flag host) defaults arguments with
    | usage asked =>
      rw [parsed] at same
      cases asked with
      | false => cases same
      | true =>
        obtain ⟨before, word, after, others, split, sets, known⟩ := parse_eq_help_iff.mp parsed
        rw [flag_help_iff.mp known] at split
        exact ⟨before, after, others, split, sets⟩
    | settings o =>
      rw [parsed] at same
      dsimp only at same
      cases checked : checkOptions o with
      | error line =>
        rw [checked] at same
        cases same
      | ok passed =>
        rw [checked] at same
        exact absurd (start_declines_iff.mp ⟨console, same⟩).1 failure
  · rintro ⟨before, after, others, split, sets⟩
    have asked : parse (flag host) defaults arguments = .usage true :=
      parse_eq_help_iff.mpr ⟨before, "-h", after, others, split, sets, flag_help_iff.mpr rfl⟩
    unfold main
    rw [asked]
    exact ⟨_, rfl⟩

/-- **When the program starts.** It starts exactly when its arguments are known words with their
values, name a device and say what to do with it, and its file can be written. Then it runs under a
limit of the messages or of the time, and the limits are numbers that an `int` can hold. It
declines with success exactly when help is asked for before anything is wrong. -/
theorem main_starts_iff (host : Host) (arguments : List String) (passes : Nat) :
    (∀ o, Sets (flag host) defaults arguments o → o.Complete →
      main host arguments passes = start host o.limited passes ∧ o.limited.Small ∧
        (o.limited.userSetMaxNumMsgs = true ∨ o.limited.userSetMaxRecordingTime = true)) ∧
    ((∃ status, Declines status (main host arguments passes)) ↔
      ¬ ∃ o, Sets (flag host) defaults arguments o ∧ o.Complete ∧
        (o.userSetOutFile = true → host.opens o.outFileName = true)) ∧
    (Declines exitSuccess (main host arguments passes) ↔
      ∃ before after o, arguments = before ++ "-h" :: after ∧
        Sets (flag host) defaults before o) := by
  refine ⟨?_, main_declines_iff, main_helps_iff⟩
  intro o sets complete
  have small : o.Small := flag_small sets ⟨by decide, by decide⟩
  exact ⟨main_of_complete sets complete, small.limited, o.limited_limits⟩

end Arguments

end RcdynamicsStream

end RcDynamics
