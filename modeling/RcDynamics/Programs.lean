import RcDynamics.Leaks
import RcDynamics.Recording

/-!
# Programs

A program of this repository makes one object, calls it, and handles some of the exceptions. Local
receivers are destroyed where their block ends, also while an exception leaves it; an exception
that no handler catches aborts the program, and then nothing is destroyed. When `main` returns the
registry of the library destroys the object. A loop that waits for the device or a signal may go
on: programs are run for a number of passes, and may still be running after them. They also may
wait for ever for an answer to a request without a limit of time.
-/

namespace RcDynamics

open Effect

/-- What a program runs on. -/
structure Host where
  env : Env
  /-- `argv[0]`. -/
  arg : String
  /-- The look at `caught_signal` that is the first to find it set, if a signal comes. -/
  signal : Option Nat
  /-- What `atoi` returns for a number beyond an `int`, which the C library leaves open. -/
  overflow : String → BitVec 32
  /-- A file of this name can be opened for writing. -/
  opens : String → Bool
  /-- `elapsed_secs.count()` after each pass of a loop. -/
  elapsed : Nat → ℚ
  /-- `DebugString` of a message of a stream. -/
  debugString : Message → String
  /-- `DebugString` of a frame. -/
  debugFrame : Frame → String
  /-- The request of `getCam2ImuTransform`, which is given no limit of time, is never answered. -/
  unanswered : Bool

/-- A look at `caught_signal` finds it set. -/
def Host.caught (host : Host) (look : Nat) : Bool :=
  match host.signal with
  | none => false
  | some first => decide (first ≤ look)

/-- The number at the beginning of a text, and zero without one. -/
def leadingNumber (text : String) : Int :=
  match scanDecimal text.toList with
  | some (value, _) => value
  | none => 0

/-- `atoi`. -/
def atoi (host : Host) (text : String) : Int :=
  if -2 ^ 31 ≤ leadingNumber text ∧ leadingNumber text < 2 ^ 31 then leadingNumber text
  else (host.overflow text).toInt

/-- `(unsigned int)std::max(0, atoi(…))`. -/
def countArgument (host : Host) (text : String) : BitVec 32 :=
  BitVec.ofInt 32 (max 0 (atoi host text))

/-- A count is never above the largest `int`. -/
theorem countArgument_lt (host : Host) (text : String) :
    (countArgument host text).toNat < 2 ^ 31 := by
  have upper : atoi host text < 2 ^ 31 := by
    unfold atoi
    split_ifs with small
    · exact small.2
    · have fits : (host.overflow text).toInt < 2 ^ 31 := BitVec.toInt_lt
      exact fits
  unfold countArgument
  rw [BitVec.toNat_ofInt]
  omega

/-- Why a program does not go on. -/
inductive Halt where
  | thrown (e : Exn)
  /-- Protobuf has ended the program. -/
  | fatal (e : ReflectionError)
  /-- The passes for which it is run are over, or it waits for an answer that never comes. -/
  | running
deriving DecidableEq

/-- An exception, which handlers catch and destructors see. -/
def Halt.isException : Halt → Bool
  | .thrown e => e.isException
  | _ => false

/-- The state of a program. -/
structure Process where
  sys : Sys
  /-- `cnt_msgs`. -/
  cntMsgs : BitVec 32
  /-- What is in the file. -/
  file : List Output
  /-- What has been printed. -/
  console : List String
  /-- How often `caught_signal` has been read. -/
  looks : Nat
  /-- How often the clock has been read. -/
  passes : Nat

/-- A part of a program. -/
abbrev Program := EStateM Halt Process

namespace Program

variable {α β : Type}

/-- A call of the library. -/
def library (call : Call α) : Program α := fun process =>
  match call.run process.sys with
  | .ok a sys => .ok a { process with sys := sys }
  | .error e sys => .error (.thrown e) { process with sys := sys }

/-- Print a line. -/
def print (line : String) : Program Unit :=
  modify fun process => { process with console := process.console ++ [line] }

/-- Write to the file. -/
def write (output : Output) : Program Unit :=
  modify fun process => { process with file := process.file ++ [output] }

/-- `caught_signal`. -/
def caughtSignal (host : Host) : Program Bool :=
  modifyGet fun process =>
    (host.caught process.looks, { process with looks := process.looks + 1 })

/-- `catch (exception&)`. -/
def catching (body : Program α) (handle : Exn → Program α) : Program α :=
  tryCatch body fun halt =>
    match halt with
    | .thrown e => if e.isException then handle e else throw halt
    | _ => throw halt

/-- A block with a local object, which is destroyed at its end. -/
def block (body : Program α) (destroy : Program Unit) : Program α := do
  let a ← tryCatch body fun halt => do
    if halt.isException then destroy
    throw halt
  destroy
  return a

end Program

/-- How a program ends. -/
inductive Ending where
  /-- It has declined to start, for its arguments or its file. -/
  | declined (status : Int) (console : List String)
  | exited (status : Int) (process : Process)
  /-- By an exception that nothing catches, or by protobuf. -/
  | aborted (halt : Halt) (process : Process)
  /-- In behaviour that the language leaves undefined. -/
  | undefined (process : Process)
  | running (process : Process)

/-- What holds of a program's status and state if it exits. -/
def Ending.Exits (P : Int → Process → Prop) : Ending → Prop
  | .exited status process => P status process
  | _ => True

/-- The status and the state of a program that has exited. -/
def Ending.exit : Ending → Option (Int × Process)
  | .exited status process => some (status, process)
  | _ => none

/-- A program of which something can be checked when it has exited has exited. -/
theorem Ending.exited_of_any {ending : Ending} {check : Int × Process → Bool}
    (checked : ending.exit.any check = true) :
    ∃ status process, ending = .exited status process ∧ check (status, process) = true := by
  cases ending with
  | exited status process => exact ⟨status, process, rfl, checked⟩
  | declined status console => cases checked
  | aborted halt process => cases checked
  | undefined process => cases checked
  | running process => cases checked

/-- The end of a program that stops where it is. -/
def Ending.ofHalt (halt : Halt) (process : Process) : Ending :=
  match halt with
  | .running => .running process
  | .fatal e => .aborted (.fatal e) process
  | .thrown e => if e.isException then .aborted halt process else .undefined process

/-- A new process with a new object. -/
def Process.begin (iface : RemoteInterface) (console : List String) : Process where
  sys := ⟨iface, ⟨0, [], []⟩⟩
  cntMsgs := 0
  file := []
  console := console
  looks := 0
  passes := 0

/-- Run `main` up to its return, and the destructor of the object after it. -/
def Program.finish (host : Host) (main : Program Int) (start : Process) : Ending :=
  match main.run start with
  | .error halt process => .ofHalt halt process
  | .ok status process =>
    match (Program.library (RemoteInterface.destroy host.env .aliased)).run process with
    | .ok report process => .exited status { process with console := process.console ++ report }
    | .error halt process => .ofHalt halt process

/-- How a program that stops where it is ends. -/
theorem Ending.ofHalt_cases (halt : Halt) (process : Process) :
    ofHalt halt process = .aborted halt process ∨ ofHalt halt process = .undefined process ∨
      halt = .running ∧ ofHalt halt process = .running process := by
  cases halt with
  | thrown e =>
    unfold ofHalt
    dsimp only
    split
    · exact .inl rfl
    · exact .inr (.inl rfl)
  | fatal e => exact .inl rfl
  | running => exact .inr (.inr ⟨rfl, rfl⟩)

/-- It does not exit. -/
theorem Ending.ofHalt_exits (P : Int → Process → Prop) (halt : Halt) (process : Process) :
    (Ending.ofHalt halt process).Exits P := by
  rcases ofHalt_cases halt process with ended | ended | ⟨_, ended⟩
  all_goals
    rw [ended]
    exact trivial

/-- It has started. -/
theorem Ending.ofHalt_started {halt : Halt} {process : Process} {status : Int}
    {console : List String} : Ending.ofHalt halt process ≠ .declined status console := by
  rcases ofHalt_cases halt process with ended | ended | ⟨_, ended⟩
  all_goals
    rw [ended]
    intro same
    cases same

/-- It is not running when it has not used up its passes. -/
theorem Ending.ofHalt_stopped {halt : Halt} {process other : Process} (stopped : halt ≠ .running) :
    Ending.ofHalt halt process ≠ .running other := by
  rcases ofHalt_cases halt process with ended | ended | ⟨running, _⟩
  · rw [ended]
    intro same
    cases same
  · rw [ended]
    intro same
    cases same
  · exact absurd running stopped

/-- A program exits when its `main` returns and the destructor does. -/
theorem Program.finish_exits {host : Host} {main : Program Int} {start : Process}
    {P : Int → Process → Prop}
    (holds : ∀ status p report q, main.run start = .ok status p →
      (Program.library (RemoteInterface.destroy host.env .aliased)).run p = .ok report q →
      P status { q with console := q.console ++ report }) :
    (main.finish host start).Exits P := by
  unfold Program.finish
  cases ran : main.run start with
  | error halt p => exact Ending.ofHalt_exits P halt p
  | ok status p =>
    cases destroyed : (Program.library (RemoteInterface.destroy host.env .aliased)).run p with
    | error halt q =>
      simp only [destroyed]
      exact Ending.ofHalt_exits P halt q
    | ok report q =>
      simp only [destroyed]
      exact holds status p report q ran destroyed

section Rules

variable {α β : Type}

/-- What holds of a state holds of the next. -/
def Keeps {σ : Type} (I : σ → Prop) (s t : σ) : Prop := I s → I t

instance {σ : Type} {I : σ → Prop} : Std.Refl (Keeps I) := ⟨fun _ => id⟩

instance {σ : Type} {I : σ → Prop} : IsTrans σ (Keeps I) :=
  ⟨fun _ _ _ first second => second ∘ first⟩

/-- What relates the objects and their surroundings relates processes. -/
def OnSys (R : Sys → Sys → Prop) (p q : Process) : Prop := R p.sys q.sys

instance {R : Sys → Sys → Prop} [Std.Refl R] : Std.Refl (OnSys R) := ⟨fun p => refl_of R p.sys⟩

instance {R : Sys → Sys → Prop} [IsTrans Sys R] : IsTrans Process (OnSys R) :=
  ⟨fun _ _ _ first second => trans_of R first second⟩

/-- A relation of processes that allows everything but recording, and of the library what another
relation allows. -/
class Carries (S : Process → Process → Prop) (R : outParam (Sys → Sys → Prop)) : Prop where
  sys : ∀ (p : Process) (s : Sys), R p.sys s → S p { p with sys := s }
  console : ∀ (p : Process) (console : List String), S p { p with console := console }
  looks : ∀ p : Process, S p { p with looks := p.looks + 1 }
  passes : ∀ (p : Process) (passes : Nat), S p { p with passes := passes }

/-- A relation of processes that allows recording too. -/
class CarriesAll (S : Process → Process → Prop) (R : outParam (Sys → Sys → Prop)) : Prop
    extends Carries S R where
  file : ∀ (p : Process) (file : List Output), S p { p with file := file }
  cntMsgs : ∀ (p : Process) (cntMsgs : BitVec 32), S p { p with cntMsgs := cntMsgs }

instance {R : Sys → Sys → Prop} [Std.Refl R] : CarriesAll (OnSys R) R where
  sys _ _ related := related
  console p _ := refl_of R p.sys
  looks p := refl_of R p.sys
  passes p _ := refl_of R p.sys
  file p _ := refl_of R p.sys
  cntMsgs p _ := refl_of R p.sys

namespace Program

/-- What a look at `caught_signal` finds. -/
theorem run_caughtSignal (host : Host) (p : Process) :
    (caughtSignal host).run p = .ok (host.caught p.looks) { p with looks := p.looks + 1 } := rfl

/-- A call that returns. -/
theorem run_library_ok {call : Call α} {p : Process} {a : α} {s : Sys}
    (ran : call.run p.sys = .ok a s) : (library call).run p = .ok a { p with sys := s } := by
  change library call p = _
  unfold library
  rw [ran]

/-- A call that throws. -/
theorem run_library_error {call : Call α} {p : Process} {e : Exn} {s : Sys}
    (ran : call.run p.sys = .error e s) :
    (library call).run p = .error (.thrown e) { p with sys := s } := by
  change library call p = _
  unfold library
  rw [ran]

/-- A call that has returned. -/
theorem library_ok {call : Call α} {p q : Process} {a : α} (ran : (library call).run p = .ok a q) :
    call.run p.sys = .ok a q.sys ∧ q = { p with sys := q.sys } := by
  cases called : call.run p.sys with
  | ok b s =>
    rw [run_library_ok called] at ran
    cases ran
    exact ⟨rfl, rfl⟩
  | error e s =>
    rw [run_library_error called] at ran
    cases ran

/-- A call that has thrown. -/
theorem library_error {call : Call α} {p q : Process} {halt : Halt}
    (ran : (library call).run p = .error halt q) :
    ∃ e, halt = .thrown e ∧ call.run p.sys = .error e q.sys ∧ q = { p with sys := q.sys } := by
  cases called : call.run p.sys with
  | ok b s =>
    rw [run_library_ok called] at ran
    cases ran
  | error e s =>
    rw [run_library_error called] at ran
    cases ran
    exact ⟨e, rfl, rfl, rfl⟩

/-- A call leaves everything but the object and its surroundings. -/
theorem final_library (call : Call α) (p : Process) :
    final ((library call).run p) = { p with sys := final (call.run p.sys) } := by
  cases called : call.run p.sys with
  | ok a s => rw [run_library_ok called]; rfl
  | error e s => rw [run_library_error called]; rfl

/-- A call is related as it is to its own states. -/
theorem library_onSys {R : Sys → Sys → Prop} {call : Call α} {p : Process}
    (within : Within R call p.sys) : Within (OnSys R) (library call) p := by
  unfold Within OnSys
  rw [final_library]
  exact within

/-- Writing to the file is carried where recording is. -/
theorem write_within {S : Process → Process → Prop} {R : Sys → Sys → Prop} [CarriesAll S R]
    (output : Output) (p : Process) : Within S (write output) p :=
  Within.of_run rfl (CarriesAll.file p _)

section Carried

variable {S : Process → Process → Prop} {R : Sys → Sys → Prop} [Carries S R]

/-- A call is carried when it is allowed from its own state. -/
theorem library_within {call : Call α} {p : Process} (within : Within R call p.sys) :
    Within S (library call) p := by
  unfold Within
  rw [final_library]
  exact Carries.sys p _ within

include R

/-- Printing is carried. -/
theorem print_within (line : String) (p : Process) : Within S (print line) p :=
  Within.of_run rfl (Carries.console p _)

/-- So is looking for a signal. -/
theorem caughtSignal_within (host : Host) (p : Process) : Within S (caughtSignal host) p :=
  Within.of_run rfl (Carries.looks p)

end Carried

variable {R : Process → Process → Prop} [Std.Refl R] [IsTrans Process R]

/-- A handler is judged where the body throws what it catches. -/
theorem catching_within {body : Program α} {handle : Exn → Program α} {p : Process}
    (within : Within R body p)
    (handled : ∀ e q, body.run p = .error (.thrown e) q → e.isException = true →
      Within R (handle e) q) : Within R (catching body handle) p := by
  apply within.tryCatch
  intro halt q ran
  cases halt with
  | thrown e =>
    dsimp only
    split_ifs with caught
    · exact handled e q ran caught
    · exact Within.throw _ q
  | fatal e => exact Within.throw _ q
  | running => exact Within.throw _ q

/-- A destructor is judged where its block ends. -/
theorem block_within {body : Program α} {destroy : Program Unit} {p : Process}
    (within : Within R body p)
    (returned : ∀ a q, body.run p = .ok a q → Within R destroy q)
    (thrown : ∀ halt q, body.run p = .error halt q → halt.isException = true →
      Within R destroy q) : Within R (block body destroy) p := by
  unfold block
  apply Within.bind
  · apply within.tryCatch
    intro halt q ran
    split_ifs with unwinds
    · exact (thrown halt q ran unwinds).bind fun _ q _ => Within.throw _ q
    · exact (Within.pure PUnit.unit q).bind fun _ q _ => Within.throw _ q
  · intro a q ran
    rw [run_tryCatch] at ran
    cases first : body.run p with
    | ok b r =>
      rw [first] at ran
      cases ran
      exact (returned a q first).bind fun _ q _ => Within.pure _ q
    | error halt r =>
      rw [first] at ran
      simp only at ran
      split_ifs at ran
      · rw [run_bind_eq_ok] at ran
        obtain ⟨_, _, _, thrown⟩ := ran
        cases thrown
      · cases ran

omit [Std.Refl R] [IsTrans Process R]

/-- A part with a handler that has returned. -/
theorem catching_ok {body : Program α} {handle : Exn → Program α} {p q : Process} {a : α}
    (ran : (catching body handle).run p = .ok a q) :
    body.run p = .ok a q ∨ ∃ e r, e.isException = true ∧ body.run p = .error (.thrown e) r ∧
      (handle e).run r = .ok a q := by
  unfold catching at ran
  rw [run_tryCatch] at ran
  cases tried : body.run p with
  | ok b r =>
    rw [tried] at ran
    exact .inl ran
  | error halt r =>
    rw [tried] at ran
    cases halt with
    | thrown e =>
      dsimp only at ran
      split at ran
      · rename_i caught
        exact .inr ⟨e, r, caught, rfl, ran⟩
      · cases ran
    | fatal e => cases ran
    | running => cases ran

/-- A block ends with the destructor, unless the program stops inside. -/
theorem block_final (body : Program α) (destroy : Program Unit) (p : Process) :
    final ((block body destroy).run p) = final (destroy.run (final (body.run p))) ∨
      ∃ halt q, halt.isException = false ∧ (block body destroy).run p = .error halt q := by
  unfold block
  rw [EStateM.run_bind, run_tryCatch]
  cases inside : body.run p with
  | ok a q =>
    left
    simp only [EStateM.run_bind, final_ok]
    cases destroy.run q with
    | ok _ r => rfl
    | error halt r => rfl
  | error halt q =>
    dsimp only
    cases unwinds : halt.isException with
    | true =>
      left
      rw [if_pos rfl, EStateM.run_bind, final_error]
      cases destroy.run q with
      | ok _ r => rfl
      | error halt r => rfl
    | false => exact .inr ⟨halt, q, unwinds, rfl⟩

end Program

end Rules

end RcDynamics
