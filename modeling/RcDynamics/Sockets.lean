import RcDynamics.FirstMessage
import RcDynamics.Frames

/-!
# Sockets and receivers

A receiver owns one socket from its construction to its destruction. A construction that throws
has no destructor to close its socket, so each of its exits has to: the one after a port that
cannot be bound does not. The balance of open sockets against receivers and lost sockets is kept
by every step of a run, and nothing is lost exactly in the runs without such an exit.
-/

namespace RcDynamics

open Effect

/-- `~DataReceiver`. -/
def DataReceiver.destroy (receiver : DataReceiver) : Call Unit := closeSocket receiver.sockfd

/-- A construction that begins in a state is given a valid address and a socket, but its port
cannot be bound. -/
def BindFails (env : Env) (s : Sys) (ipAddress : String) (port : BitVec 32) : Prop :=
  isValidIPAddress ipAddress = true ∧ env.socket s.world.tick = true ∧
    env.bind (s.world.tick + 1) ipAddress (port.setWidth 16) = none

/-- Whether the port cannot be bound can be asked. -/
instance (env : Env) (s : Sys) (ipAddress : String) (port : BitVec 32) :
    Decidable (BindFails env s ipAddress port) := inferInstanceAs (Decidable (_ ∧ _ ∧ _))

/-- What a construction does to the sockets: a receiver has the socket it opened, and a throw
leaves the sockets as they were unless the port could not be bound. -/
def ConstructSockets (env : Env) (s : Sys) (ipAddress : String) (port : BitVec 32) :
    EStateM.Result Exn Sys (DataReceiver × BitVec 32) → Prop
  | .ok built t => t.world.sockets = built.1.sockfd :: s.world.sockets ∧
      ¬BindFails env s ipAddress port
  | .error _ t => if BindFails env s ipAddress port
      then t.world.sockets = s.world.tick :: s.world.sockets
      else t.world.sockets = s.world.sockets

/-- The state after a question is asked and a socket is opened under its number. -/
def Sys.openSocket (s : Sys) : Sys :=
  { s with world := { s.world with
      tick := s.world.tick + 1, sockets := s.world.tick :: s.world.sockets } }

/-- A socket that the system gives is open. -/
theorem run_openSocket_ok {env : Env} {s : Sys} (given : env.socket s.world.tick = true) :
    (openSocket env).run s = .ok s.world.tick s.openSocket := by
  unfold RcDynamics.openSocket
  rw [run_bind_of_ok (run_tick s), if_pos given]
  rfl

/-- One that it refuses changes nothing. -/
theorem run_openSocket_error {env : Env} {s : Sys} (refused : env.socket s.world.tick ≠ true) :
    ∃ e t, (openSocket env).run s = .error e t ∧ SameSockets s t := by
  unfold RcDynamics.openSocket
  rw [run_bind_of_ok (run_tick s), if_neg refused]
  exact ⟨_, _, rfl, rfl⟩

/-- Every construction is of this kind. -/
theorem DataReceiver.construct_sockets (env : Env) (ipAddress : String) (port : BitVec 32)
    (s : Sys) :
    ConstructSockets env s ipAddress port ((DataReceiver.construct env ipAddress port).run s) := by
  unfold DataReceiver.construct
  by_cases valid : isValidIPAddress ipAddress = true
  · rw [if_neg (by simp [valid])]
    by_cases given : env.socket s.world.tick = true
    · rw [run_bind_of_ok (run_openSocket_ok given), run_bind_of_ok (run_tick _)]
      cases bound : env.bind s.openSocket.world.tick ipAddress (port.setWidth 16) with
      | none => exact (if_pos ⟨valid, given, bound⟩).mpr rfl
      | some boundPort =>
        have fits : ¬BindFails env s ipAddress port := fun fails => by
          have failed := fails.2.2
          exact absurd (bound.symm.trans failed) (Option.some_ne_none boundPort)
        dsimp only
        by_cases zero : port = 0
        · rw [if_pos zero, run_bind_of_ok (run_tick _)]
          split
          · exact ⟨rfl, fits⟩
          · exact (if_neg fits).mpr (List.erase_cons_head s.world.tick s.world.sockets)
        · rw [if_neg zero]
          exact ⟨rfl, fits⟩
    · have fits : ¬BindFails env s ipAddress port := fun fails => given fails.2.1
      obtain ⟨e, t, ran, same⟩ := run_openSocket_error given
      rw [run_bind_of_error ran]
      exact (if_neg fits).mpr same
  · have fits : ¬BindFails env s ipAddress port := fun fails => valid fails.1
    rw [if_pos (by simpa using valid)]
    exact (if_neg fits).mpr rfl

/-- A program that makes and destroys receivers. -/
structure Pool where
  sys : Sys
  /-- The receivers alive, the oldest first. -/
  alive : List DataReceiver

namespace Pool

/-- What the program does in one step: `new DataReceiver`, or the destruction of the receiver at a
place. -/
inductive Use where
  | construct (ipAddress : String) (port : BitVec 32)
  | destroy (index : Nat)

/-- Before its first step no socket is open. -/
def begin (s : Sys) : Pool := ⟨{ s with world := { s.world with sockets := [] } }, []⟩

/-- One step; an exception is caught. -/
def exec (env : Env) (pool : Pool) : Use → Pool
  | .construct ipAddress port =>
    match (DataReceiver.construct env ipAddress port).run pool.sys with
    | .ok (receiver, _) t => ⟨t, pool.alive ++ [receiver]⟩
    | .error _ t => ⟨t, pool.alive⟩
  | .destroy index =>
    match pool.alive[index]? with
    | none => pool
    | some receiver => ⟨final (receiver.destroy.run pool.sys), pool.alive.eraseIdx index⟩

/-- A run. -/
def run (env : Env) (pool : Pool) (uses : List Use) : Pool := uses.foldl (exec env) pool

/-- The sockets open. -/
def sockets (pool : Pool) : List Nat := pool.sys.world.sockets

/-- A step that leaves a socket behind. -/
def Leaks (env : Env) (pool : Pool) : Use → Prop
  | .construct ipAddress port => BindFails env pool.sys ipAddress port
  | .destroy _ => False

/-- Whether a step leaves a socket behind can be asked. -/
instance (env : Env) (pool : Pool) : (use : Use) → Decidable (pool.Leaks env use)
  | .construct ipAddress port => inferInstanceAs (Decidable (BindFails env pool.sys ipAddress port))
  | .destroy _ => inferInstanceAs (Decidable False)

/-- The steps of a run that leave a socket behind. -/
def leaks (env : Env) (pool : Pool) : List Use → Nat
  | [] => 0
  | use :: uses => (if pool.Leaks env use then 1 else 0) + leaks env (pool.exec env use) uses

/-- The open sockets are those of the receivers alive and the lost ones. -/
def Balanced (pool : Pool) (lost : List Nat) : Prop :=
  pool.sockets.Perm (lost ++ pool.alive.map DataReceiver.sockfd)

/-- Nothing is open and nothing is lost before the first step. -/
theorem begin_balanced (s : Sys) : (begin s).Balanced [] := List.Perm.refl []

/-- A receiver that is made is alive. -/
theorem exec_construct_ok {env : Env} {pool : Pool} {ipAddress : String} {port : BitVec 32}
    {built : DataReceiver × BitVec 32} {t : Sys}
    (ran : (DataReceiver.construct env ipAddress port).run pool.sys = .ok built t) :
    pool.exec env (.construct ipAddress port) = ⟨t, pool.alive ++ [built.1]⟩ := by
  simp only [exec, ran]

/-- A construction that throws makes no receiver. -/
theorem exec_construct_error {env : Env} {pool : Pool} {ipAddress : String} {port : BitVec 32}
    {e : Exn} {t : Sys}
    (ran : (DataReceiver.construct env ipAddress port).run pool.sys = .error e t) :
    pool.exec env (.construct ipAddress port) = ⟨t, pool.alive⟩ := by
  simp only [exec, ran]

/-- A construction keeps the balance, with one more lost socket when it leaks. -/
theorem construct_balanced (env : Env) {pool : Pool} {lost : List Nat}
    (balanced : pool.Balanced lost) (ipAddress : String) (port : BitVec 32) :
    ∃ more, (pool.exec env (.construct ipAddress port)).Balanced (more ++ lost) ∧
      more.length = if BindFails env pool.sys ipAddress port then 1 else 0 := by
  have built := DataReceiver.construct_sockets env ipAddress port pool.sys
  cases ran : (DataReceiver.construct env ipAddress port).run pool.sys with
  | ok result t =>
    rw [ran] at built
    obtain ⟨opened, fits⟩ := built
    rw [exec_construct_ok ran]
    refine ⟨[], ?_, (if_neg fits).symm⟩
    unfold Balanced sockets at balanced ⊢
    rw [List.nil_append, opened, List.map_append, ← List.append_assoc]
    exact (balanced.cons result.1.sockfd).trans (List.perm_append_singleton _ _).symm
  | error e t =>
    rw [ran] at built
    unfold ConstructSockets at built
    rw [exec_construct_error ran]
    unfold Balanced sockets at balanced ⊢
    split_ifs at built ⊢ with fails
    · refine ⟨[pool.sys.world.tick], ?_, rfl⟩
      rw [built]
      exact balanced.cons pool.sys.world.tick
    · refine ⟨[], ?_, rfl⟩
      rw [built]
      exact balanced

/-- A destruction keeps the balance. -/
theorem destroy_balanced (env : Env) {pool : Pool} {lost : List Nat}
    (balanced : pool.Balanced lost) (index : Nat) :
    (pool.exec env (.destroy index)).Balanced lost := by
  cases place : pool.alive[index]? with
  | none =>
    simp only [exec, place]
    exact balanced
  | some receiver =>
    simp only [exec, place]
    obtain ⟨bound, rfl⟩ := List.getElem?_eq_some_iff.mp place
    have taken := (List.getElem_cons_eraseIdx_perm bound).map DataReceiver.sockfd
    have front := (balanced.trans (taken.symm.append_left lost)).trans List.perm_middle
    have closed : (pool.sockets.erase pool.alive[index].sockfd).Perm
        (lost ++ (pool.alive.eraseIdx index).map DataReceiver.sockfd) := by
      simpa using front.erase pool.alive[index].sockfd
    exact closed

/-- A step keeps the balance. -/
theorem exec_balanced (env : Env) {pool : Pool} {lost : List Nat} (balanced : pool.Balanced lost)
    (use : Use) :
    ∃ more, (pool.exec env use).Balanced (more ++ lost) ∧
      more.length = if pool.Leaks env use then 1 else 0 := by
  cases use with
  | construct ipAddress port => exact construct_balanced env balanced ipAddress port
  | destroy index => exact ⟨[], destroy_balanced env balanced index, rfl⟩

/-- A run keeps the balance: the lost sockets are as many as the steps that leak. -/
theorem run_balanced (env : Env) {pool : Pool} {lost : List Nat} (balanced : pool.Balanced lost)
    (uses : List Use) :
    ∃ more, (pool.run env uses).Balanced (more ++ lost) ∧
      more.length = pool.leaks env uses := by
  induction uses generalizing pool lost with
  | nil => exact ⟨[], balanced, rfl⟩
  | cons use uses ih =>
    obtain ⟨first, stepped, firstLength⟩ := exec_balanced env balanced use
    obtain ⟨rest, ran, restLength⟩ := ih stepped
    refine ⟨rest ++ first, ?_, ?_⟩
    · rw [List.append_assoc]
      exact ran
    · rw [List.length_append, leaks, firstLength, restLength]
      omega

/-- As many sockets are open as there are receivers alive and steps that have leaked. -/
theorem length_sockets (env : Env) (s : Sys) (uses : List Use) :
    ((begin s).run env uses).sockets.length =
      ((begin s).run env uses).alive.length + (begin s).leaks env uses := by
  obtain ⟨lost, balanced, counted⟩ := run_balanced env (begin_balanced s) uses
  have lengths := balanced.length_eq
  rw [List.append_nil, List.length_append, List.length_map] at lengths
  omega

/-- The leaks of a run are those of its two parts. -/
theorem leaks_append (env : Env) (pool : Pool) (before after : List Use) :
    pool.leaks env (before ++ after) =
      pool.leaks env before + (pool.run env before).leaks env after := by
  induction before generalizing pool with
  | nil => exact (Nat.zero_add _).symm
  | cons use before ih =>
    rw [List.cons_append, leaks, leaks, ih, Nat.add_assoc]
    rfl

/-- Nothing has leaked exactly when no step has. -/
theorem leaks_eq_zero_iff (env : Env) (pool : Pool) (uses : List Use) :
    pool.leaks env uses = 0 ↔
      ∀ before use after, uses = before ++ use :: after →
        ¬(pool.run env before).Leaks env use := by
  constructor
  · rintro none before use after rfl leak
    rw [leaks_append, leaks, if_pos leak] at none
    omega
  · intro sound
    induction uses generalizing pool with
    | nil => rfl
    | cons use uses ih =>
      have first : ¬pool.Leaks env use := sound [] use uses rfl
      have rest := ih (pool.exec env use) fun before later after same =>
        sound (use :: before) later after (by rw [same]; rfl)
      rw [leaks, rest, if_neg first]

/-- In every state of a run as many sockets are open as receivers are alive, exactly when no step
of the run leaks. -/
theorem sockets_eq_alive_iff (env : Env) (s : Sys) (uses : List Use) :
    (∀ before after, uses = before ++ after →
      ((begin s).run env before).sockets.length = ((begin s).run env before).alive.length) ↔
    ∀ before use after, uses = before ++ use :: after →
      ¬((begin s).run env before).Leaks env use := by
  rw [← leaks_eq_zero_iff]
  constructor
  · intro equal
    have counted := length_sockets env s uses
    rw [equal uses [] (List.append_nil uses).symm] at counted
    omega
  · rintro sound before after rfl
    have counted := length_sockets env s before
    rw [leaks_append] at sound
    omega

end Pool

/-- The construction of a tracked receiver does to the sockets what that of its base does. -/
theorem TrackedDataReceiver.construct_sockets (env : Env) (ipAddress : String) (port : BitVec 32)
    (stream : String) (s : Sys) :
    (∀ receiver out t,
      (TrackedDataReceiver.construct env ipAddress port stream).run s = .ok (receiver, out) t →
        t.world.sockets = receiver.sockfd :: s.world.sockets ∧ ¬BindFails env s ipAddress port) ∧
    ∀ e t, (TrackedDataReceiver.construct env ipAddress port stream).run s = .error e t →
      if BindFails env s ipAddress port then t.world.sockets = s.world.tick :: s.world.sockets
      else t.world.sockets = s.world.sockets := by
  have built := DataReceiver.construct_sockets env ipAddress port s
  unfold TrackedDataReceiver.construct
  constructor
  · intro receiver out t ran
    obtain ⟨base, v, constructed, wrapped⟩ := run_bind_eq_ok.mp ran
    rw [constructed] at built
    cases wrapped
    exact built
  · intro e t ran
    rcases run_bind_eq_error.mp ran with failed | ⟨base, v, _, wrapped⟩
    · rw [failed] at built
      exact built
    · cases wrapped

/-- The destruction of a receiver that returns has closed its socket. -/
theorem TrackedDataReceiver.destroy_sockets {env : Env} {receiver : TrackedDataReceiver}
    {s t : Sys} (destroyed : (receiver.destroy env).run s = .ok () t) :
    t.world.sockets = s.world.sockets.erase receiver.sockfd := by
  unfold TrackedDataReceiver.destroy at destroyed
  obtain ⟨_, u, removed, closed⟩ := run_bind_eq_ok.mp destroyed
  have same : SameSockets s u := by
    refine Within.of_ok (Within.tryCatch ?_ fun e t _ => ?_) removed
    · exact RemoteInterface.deleteDestinationFromStream_allowed env receiver.stream
        (SameSockets.allows _).converses s
    · split
      · exact Within.pure () t
      · exact Within.throw e t
  cases closed
  rw [← same]

namespace RemoteInterface

variable (env : Env)

/-- A call to `createReceiverForStream` gets as far as to a socket whose port cannot be bound. -/
def ReceiverBindFails (stream destInterface : String) (destPort : BitVec 32) (s : Sys) : Prop :=
  ∃ t address, (checkStreamTypeAvailable env stream).run s = .ok () t ∧
    getThisHostsIP (env.getifaddrs t.world.tick) t.iface.visardAddrs destInterface =
      some address ∧
    BindFails env { t with world := { t.world with tick := t.world.tick + 1 } } address destPort

/-- Whether the port cannot be bound is known once the stream has been checked and the address of
this host has been found. -/
theorem receiverBindFails_iff {stream destInterface address : String} {destPort : BitVec 32}
    {s t : Sys} (checked : (checkStreamTypeAvailable env stream).run s = .ok () t)
    (host : getThisHostsIP (env.getifaddrs t.world.tick) t.iface.visardAddrs destInterface =
      some address) :
    ReceiverBindFails env stream destInterface destPort s ↔
      BindFails env { t with world := { t.world with tick := t.world.tick + 1 } } address
        destPort := by
  constructor
  · rintro ⟨u, other, passed, found, fails⟩
    rw [checked] at passed
    cases passed
    rw [host] at found
    cases found
    exact fails
  · exact fun fails => ⟨t, address, checked, host, fails⟩

/-- What opening a receiver does to the sockets is what its construction does. -/
theorem openReceiver_sockets (stream destInterface : String) (destPort : BitVec 32) (s : Sys) :
    (∀ receiver destination t,
      (openReceiver env stream destInterface destPort).run s = .ok (receiver, destination) t →
        t.world.sockets = receiver.sockfd :: s.world.sockets ∧
          ¬ReceiverBindFails env stream destInterface destPort s) ∧
    ∀ e t, (openReceiver env stream destInterface destPort).run s = .error e t →
      (ReceiverBindFails env stream destInterface destPort s ∧
          ∃ lost, t.world.sockets = lost :: s.world.sockets) ∨
        ¬ReceiverBindFails env stream destInterface destPort s ∧ SameSockets s t := by
  have checking := checkStreamTypeAvailable_allowed (SameSockets.allows fun _ => True).converses
    env (fun _ _ _ => trivial) (fun _ _ _ => trivial) stream s
  cases checked : (checkStreamTypeAvailable env stream).run s with
  | error e u =>
    have fits : ¬ReceiverBindFails env stream destInterface destPort s := by
      rintro ⟨t, _, passed, _⟩
      rw [checked] at passed
      cases passed
    have stopped : (openReceiver env stream destInterface destPort).run s = .error e u :=
      run_bind_of_error checked
    rw [stopped]
    refine ⟨fun _ _ _ ran => (nomatch ran), fun e' t ran => ?_⟩
    cases ran
    exact Or.inr ⟨fits, checking.of_error checked⟩
  | ok _ u =>
    have before : u.world.sockets = s.world.sockets := checking.of_ok checked
    cases host : getThisHostsIP (env.getifaddrs u.world.tick) u.iface.visardAddrs destInterface with
    | none =>
      have fits : ¬ReceiverBindFails env stream destInterface destPort s := by
        rintro ⟨t, _, passed, found, _⟩
        rw [checked] at passed
        cases passed
        rw [host] at found
        cases found
      obtain ⟨e, failed⟩ := run_openReceiver_nowhere env checked host
      rw [failed]
      refine ⟨fun _ _ _ ran => (nomatch ran), fun e' t ran => ?_⟩
      cases ran
      exact Or.inr ⟨fits, before⟩
    | some address =>
      rw [receiverBindFails_iff env checked host, run_openReceiver_address env checked host]
      obtain ⟨built, failed⟩ := TrackedDataReceiver.construct_sockets env address destPort stream
        { u with world := { u.world with tick := u.world.tick + 1 } }
      rw [← before]
      constructor
      · intro receiver destination t ran
        obtain ⟨⟨made, port⟩, v, constructed, wrapped⟩ := run_bind_eq_ok.mp ran
        cases wrapped
        exact built receiver port t constructed
      · intro e t ran
        rcases run_bind_eq_error.mp ran with thrown | ⟨made, v, _, wrapped⟩
        · have left := failed e t thrown
          split_ifs at left with fails
          · exact Or.inl ⟨fails, _, left⟩
          · have same : t.world.sockets = u.world.sockets := left
            exact Or.inr ⟨fails, same.trans before⟩
        · cases wrapped

/-- A call to `createReceiverForStream` leaves one more socket open when it returns, and none more
when it throws, exactly when it does not get as far as to a port that cannot be bound. -/
theorem createReceiverForStream_sockets_iff (stream destInterface : String)
    (destPort : BitVec 32) (s : Sys) :
    (final ((createReceiverForStream env stream destInterface destPort).run
        s)).world.sockets.length =
      s.world.sockets.length + (if returned ((createReceiverForStream env stream destInterface
        destPort).run s) then 1 else 0) ↔
      ¬ReceiverBindFails env stream destInterface destPort s := by
  have opening := openReceiver_sockets env stream destInterface destPort s
  cases opened : (openReceiver env stream destInterface destPort).run s with
  | error e t =>
    rw [createReceiverForStream_eq, run_bind_of_error opened]
    rcases opening.2 e t opened with ⟨fails, lost, more⟩ | ⟨fits, same⟩
    · simp [more, fails, returned]
    · have same : t.world.sockets = s.world.sockets := same
      simp [same, fits, returned]
  | ok result t =>
    obtain ⟨receiver, destination⟩ := result
    obtain ⟨more, fits⟩ := opening.1 receiver destination t opened
    have waiting := establish_allowed env stream (SameSockets.allows (Names destination))
      receiver t
    refine iff_of_true ?_ fits
    cases waited : (establish env receiver stream destination).run t with
    | ok _ u =>
      have same : u.world.sockets = t.world.sockets := waiting.of_ok waited
      rw [createReceiverForStream_eq, run_bind_of_ok opened]
      dsimp only
      rw [run_bind_of_ok (run_unwinding_eq_ok.mpr waited)]
      simp [returned, same, more]
    | error e u =>
      have same : u.world.sockets = t.world.sockets := waiting.of_error waited
      obtain ⟨v, destroyed, thrown⟩ := run_createReceiverForStream_error env opened waited
      have closed := TrackedDataReceiver.destroy_sockets destroyed
      rw [thrown]
      simp [returned, closed, same, more]

end RemoteInterface

/-- The sockets open are as many as the receivers alive, in every state of a run of constructions
and destructions and after every call to `createReceiverForStream`, exactly when no port fails to
be bound. -/
theorem sockets_exact_iff (env : Env) :
    (∀ s uses,
      (∀ before after, uses = before ++ after →
        ((Pool.begin s).run env before).sockets.length =
          ((Pool.begin s).run env before).alive.length) ↔
      ∀ before use after, uses = before ++ use :: after →
        ¬((Pool.begin s).run env before).Leaks env use) ∧
    ∀ stream destInterface destPort s,
      (final ((RemoteInterface.createReceiverForStream env stream destInterface destPort).run
          s)).world.sockets.length =
        s.world.sockets.length + (if returned ((RemoteInterface.createReceiverForStream env stream
          destInterface destPort).run s) then 1 else 0) ↔
      ¬RemoteInterface.ReceiverBindFails env stream destInterface destPort s :=
  ⟨Pool.sockets_eq_alive_iff env, RemoteInterface.createReceiverForStream_sockets_iff env⟩

/-- A device on a host all of whose ports are in use. -/
def busyDevice : Env := { obligingDevice with bind := fun _ _ _ => none }

/-- On a busy port every attempt leaves a socket open, with no receiver to close it. -/
theorem busyDevice_loses_sockets :
    ((Pool.begin (Session.begin "192.168.0.10" 5000).sys).run busyDevice
        [.construct "192.168.0.5" 40000]).sockets.length ≠
      ((Pool.begin (Session.begin "192.168.0.10" 5000).sys).run busyDevice
        [.construct "192.168.0.5" 40000]).alive.length ∧
      (Session.after busyDevice "192.168.0.10" 5000
        [.createReceiverForStream "pose" "" 40000, .createReceiverForStream "pose" "" 40000,
          .createReceiverForStream "pose" "" 40000]).sys.world.sockets.length = 3 ∧
      (Session.after busyDevice "192.168.0.10" 5000
        [.createReceiverForStream "pose" "" 40000, .createReceiverForStream "pose" "" 40000,
          .createReceiverForStream "pose" "" 40000]).receivers = [] := by
  refine ⟨by decide +kernel, by decide +kernel, by decide +kernel⟩

end RcDynamics
