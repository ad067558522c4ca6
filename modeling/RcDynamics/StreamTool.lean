import RcDynamics.CommandLine
import RcDynamics.Datagrams
import RcDynamics.Programs

/-!
# The program `rcdynamics_stream`

It lists the streams of a device, or receives the messages of one stream and prints or records
them, until there are enough of them, a time has passed or a signal comes. It may start the
dynamics module before and stop it after that.
-/

namespace RcDynamics

namespace RcdynamicsStream

open Effect Program

/-- The options of the program. -/
structure Options where
  outFileName : String
  visardIp : String
  networkIface : String
  streamName : String
  maxNumRecording : BitVec 32
  maxSecsRecording : BitVec 32
  userAutostart : Bool
  userSetOutFile : Bool
  userSetMaxNumMsgs : Bool
  userSetMaxRecordingTime : Bool
  userSetIp : Bool
  userSetStreamType : Bool
  onlyListStreams : Bool
deriving DecidableEq

/-- The options before the arguments are read. -/
def defaults : Options where
  outFileName := ""
  visardIp := ""
  networkIface := ""
  streamName := ""
  maxNumRecording := 50
  maxSecsRecording := 5
  userAutostart := false
  userSetOutFile := false
  userSetMaxNumMsgs := false
  userSetMaxRecordingTime := false
  userSetIp := false
  userSetStreamType := false
  onlyListStreams := false

/-- The words that the program knows. -/
def flag (host : Host) (p : String) : Option (CommandLine.Flag Options) :=
  if p = "-l" then some (.switch fun o => { o with onlyListStreams := true })
  else if p = "-s" then
    some (.value fun argument o => { o with streamName := argument, userSetStreamType := true })
  else if p = "-a" then some (.switch fun o => { o with userAutostart := true })
  else if p = "-i" then some (.value fun argument o => { o with networkIface := argument })
  else if p = "-v" then
    some (.value fun argument o => { o with visardIp := argument, userSetIp := true })
  else if p = "-n" then
    some (.value fun argument o =>
      { o with maxNumRecording := countArgument host argument, userSetMaxNumMsgs := true })
  else if p = "-t" then
    some (.value fun argument o =>
      { o with maxSecsRecording := countArgument host argument, userSetMaxRecordingTime := true })
  else if p = "-o" then
    some (.value fun argument o => { o with outFileName := argument, userSetOutFile := true })
  else if p = "-h" then some .help
  else none

/-- `printUsage`. -/
def printUsage (arg : String) : String :=
  "\nLists available rcdynamics data streams of the specified rc_visard IP, " ++
    "\nor requests a data stream and either prints received messages or records " ++
    "\nthem as csv-file, see -o option." ++ "\n\nUsage: \n" ++ arg ++
    " -v <rcVisardIP> -l | -s <stream> [-a] [-i <networkInterface>]" ++
    " [-n <maxNumData>][-t <maxRecTimeSecs>][-o <output_file>]"

/-- The checks of the options, and the limit that is set when none is given. -/
def checkOptions (o : Options) : Except String Options :=
  if !o.userSetIp then .error "Please specify rc_visard IP."
  else if !o.userSetStreamType && !o.onlyListStreams then .error "Please specify stream type."
  else if !o.userSetMaxNumMsgs && !o.userSetMaxRecordingTime then
    .ok { o with userSetMaxNumMsgs := true }
  else .ok o

/-- For all streams except `imu` the module has to be started. -/
def Options.starts (o : Options) : Bool := o.userAutostart && o.streamName != "imu"

section Main

variable (host : Host) (o : Options)

/-- The loop that waits for the system. -/
def awaitSystem : Nat → Program Unit
  | 0 => throw .running
  | passes + 1 => do
    let caught ← caughtSignal host
    if caught then return ()
    else
      let ready ← library (RemoteInterface.checkSystemReady host.env)
      if ready then return ()
      else
        print "... system not yet ready. Trying again."
        awaitSystem passes

/-- The first `try` block. -/
def connect (passes : Nat) : Program Bool :=
  catching
    (do
      awaitSystem host passes
      print "... connected!"
      return true)
    fun e => do
      print ("ERROR! Could not connect to rc_dynamics module on rc_visard: " ++ e.what)
      return false

/-- `left << setw(width)`: a text filled up with blanks. -/
def setw (width : Nat) (text : String) : String :=
  text ++ String.ofList (List.replicate (width - text.utf8ByteSize) ' ')

/-- One line of the list of streams. -/
def listStream (width : Nat) (s : String) : Program Unit := do
  let pbMsgType ← library (RemoteInterface.getPbMsgTypeOfStream host.env s)
  print (setw width s ++ pbMsgType)

/-- The last part of the list: the transformation from the camera to the IMU. -/
def listTransform : Program Unit :=
  -- The default timeout of 0 ms is no limit: without an answer the call does not return.
  if host.unanswered then throw .running
  else
    catching
      (do
        let cam2imu ← library (RemoteInterface.getCam2ImuTransform host.env 0)
        print ("\ncam2imu transformation: \n" ++ host.debugFrame cam2imu))
      fun
        | .notAvailable _ => print ("\nWARN: Could not retrieve cam2imu transformation from " ++
            "rc_visard. Feature is not available in that image version.")
        | e =>
          print ("\nERROR: Could not retrieve cam2imu transformation from rc_visard: " ++ e.what)

/-- The branch that lists the streams. -/
def listStreams : Program Unit := do
  let streams ← library (RemoteInterface.getAvailableStreams host.env)
  let firstColumn := "Available streams:"
  let width := streams.foldl (fun width s => max width s.utf8ByteSize) firstColumn.utf8ByteSize + 5
  print (setw width firstColumn ++ "Protobuf message types:")
  forM streams (listStream host width)
  let dynamicsState ← library (RemoteInterface.getDynamicsState host.env)
  print ("\nrc_dynamics is in state: " ++ dynamicsState)
  let slamState ← library (RemoteInterface.getSlamState host.env)
  print ("rc_slam is in state: " ++ slamState)
  let stereoInsState ← library (RemoteInterface.getStereoInsState host.env)
  print ("rc_stereo_ins is in state: " ++ stereoInsState)
  listTransform host
  print ""

/-- Start the module: with SLAM, and without when that throws. -/
def autostart : Program Bool :=
  catching
    (do
      print "starting SLAM on rc_visard..."
      let _ ← library (RemoteInterface.startSlam host.env)
      return true)
    fun _ =>
      catching
        (do
          print "SLAM not available!"
          print "starting stereo INS on rc_visard..."
          let _ ← library (RemoteInterface.start host.env)
          return true)
        fun e => do
          print ("ERROR! Could not start rc_dynamics module on rc_visard: " ++ e.what)
          return false

/-- A header of a message, unless protobuf ends the program. -/
def heading (msg : Message) : Program Header :=
  match Header.addMessage ⟨[], ""⟩ msg with
  | .ok h => pure h
  | .error e => throw (.fatal e)

/-- The header, before the first line. -/
def writeHeader (msg : Message) : Program Unit := do
  let p ← get
  if p.cntMsgs = 0 then
    let h ← heading msg
    write (.header h)
  else return ()

/-- A received message is recorded or printed. -/
def output (msg : Message) : Program Unit :=
  if o.userSetOutFile then do
    writeHeader msg
    write (.line (Line.addMessage ⟨[]⟩ msg))
  else print ("received " ++ o.streamName ++ " msg:\n" ++ host.debugString msg)

/-- What is done with a received message. -/
def process (msg : Message) : Program Unit := do
  output host o msg
  modify fun p => { p with cntMsgs := p.cntMsgs + 1 }

/-- `elapsed_secs = system_clock::now() - start`, as `count()`. -/
def readClock : Program ℚ :=
  modifyGet fun p => (host.elapsed p.passes, { p with passes := p.passes + 1 })

/-- The limits of the loop, after `caught_signal`. -/
def Options.goesOn (cntMsgs : BitVec 32) (elapsedSecs : ℚ) : Bool :=
  (!o.userSetMaxNumMsgs || decide (cntMsgs < o.maxNumRecording)) &&
    (!o.userSetMaxRecordingTime || decide (elapsedSecs < o.maxSecsRecording.toNat))

/-- One pass of the recording loop. -/
def receiveOnce (receiver : TrackedDataReceiver) : Program Unit := do
  let pbMsgType ← library (RemoteInterface.getPbMsgTypeOfStream host.env o.streamName)
  let msg ← library (receiver.receive host.env pbMsgType)
  match msg with
  | some msg => process host o msg
  | none => print "did not receive any data during last 100 ms."

/-- The recording loop. -/
def receiveLoop (receiver : TrackedDataReceiver) : Nat → ℚ → Program Unit
  | 0, _ => throw .running
  | passes + 1, elapsedSecs => do
    -- `caught_signal` is the first operand of the condition.
    let caught ← caughtSignal host
    let p ← get
    if caught || !o.goesOn p.cntMsgs elapsedSecs then return ()
    else
      receiveOnce host o receiver
      let elapsedSecs ← readClock host
      receiveLoop receiver passes elapsedSecs

/-- The block of the receiver. -/
def receiveStream (passes : Nat) : Program Unit := do
  print ("Initializing " ++ o.streamName ++ " data stream...")
  let receiver ← library
    (RemoteInterface.createReceiverForStream host.env o.streamName o.networkIface 0)
  block
    (do
      library (receiver.setTimeout host.env 100)
      print ("Listening for " ++ o.streamName ++ " messages...")
      receiveLoop host o receiver passes 0)
    (library (receiver.destroy host.env))

/-- Receiving, with the handler around it. -/
def stream (passes : Nat) : Program Unit :=
  catching (receiveStream host o passes) fun e =>
    print ("Caught exception during streaming, stopping: " ++ e.what)

/-- Stop the module. -/
def stopModule : Program Unit :=
  catching
    (do
      print "stopping rc_dynamics module on rc_visard..."
      let _ ← library (RemoteInterface.stop host.env)
      return ())
    fun e => print ("Caught exception: " ++ e.what)

/-- The module is stopped when it was to be started. -/
def stopStarted : Program Unit := if o.starts then stopModule host else pure ()

/-- The module is started when that is asked for. -/
def startAsked : Program Bool := if o.starts then autostart host else pure true

/-- What is printed at the end. -/
def report : Program Unit := do
  let p ← get
  let count := toString p.cntMsgs.toNat
  if o.userSetOutFile then
    print ("Recorded " ++ count ++ " " ++ o.streamName ++ " messages to '" ++ o.outFileName ++ "'.")
  else print ("Received  " ++ count ++ " " ++ o.streamName ++ " messages.")

/-- `EXIT_SUCCESS`. -/
def exitSuccess : Int := 0

/-- `EXIT_FAILURE`. -/
def exitFailure : Int := 1

/-- The part of `main` that receives a stream. -/
def receive (passes : Nat) : Program Int := do
  let started ← startAsked host o
  if started then
    stream host o passes
    stopStarted host o
    report o
    return exitSuccess
  else return exitFailure

/-- The rest of `main`, after the object exists. -/
def run (passes : Nat) : Program Int := do
  let connected ← connect host passes
  if connected then
    if o.onlyListStreams then
      listStreams host
      return exitSuccess
    else receive host o passes
  else return exitFailure

/-- The timeout of requests, when `create` is not given one. -/
def requestsTimeout : Int := 5000

/-- `main`, with the options that have passed the checks. -/
def start (passes : Nat) : Ending :=
  if o.userSetOutFile && !host.opens o.outFileName then
    .declined exitFailure ["Could not open file '" ++ o.outFileName ++ "' for writing!"]
  else
    let process := Process.begin (RemoteInterface.initial o.visardIp requestsTimeout)
      ["connecting to rc_visard " ++ o.visardIp ++ "..."]
    match RemoteInterface.construct o.visardIp requestsTimeout with
    | .error e => .aborted (.thrown e) process
    | .ok _ => (run host o passes).finish host process

end Main

/-- `main`. -/
def main (host : Host) (arguments : List String) (passes : Nat) : Ending :=
  match CommandLine.parse (flag host) defaults arguments with
  | .usage asked => .declined (if asked then exitSuccess else exitFailure) [printUsage host.arg]
  | .settings o =>
    match checkOptions o with
    | .error line => .declined exitFailure [line, printUsage host.arg]
    | .ok o => start host o passes

/-- The answer of a service that has entered a state. -/
def acceptance (state : String) : Json :=
  .object [("response", .object [("accepted", .boolean true), ("current_state", .string state)])]

/-- A device that acknowledges everything, starts and stops its module, and delivers one datagram
after another. -/
def startingDevice : Env :=
  { deliveringDevice numberDecoding [8, 5] (.mk []) with
    parse := fun text =>
      if text = (Resource.service "rc_dynamics" "start_slam").path then
        some (acceptance "RUNNING_WITH_SLAM")
      else if text = (Resource.service "rc_dynamics" "stop").path then some (acceptance "IDLE")
      else obligingDevice.parse text }

/-- A host with that device, whose user ends a program at the fourth look: the first is before the
device is asked whether it is ready, and the next ones are before a message is received. -/
def obligingHost : Host where
  env := startingDevice
  arg := "rcdynamics_stream"
  signal := some 3
  overflow _ := 0
  opens _ := true
  elapsed passes := passes
  debugString _ := ""
  debugFrame _ := ""
  unanswered := false

/-- The options for a recording of ten poses of a module that is to be started. -/
def poseOptions : Options :=
  { defaults with
    visardIp := "192.168.0.10"
    userSetIp := true
    streamName := "pose"
    userSetStreamType := true
    userAutostart := true
    maxNumRecording := 10
    userSetMaxNumMsgs := true
    outFileName := "pose.csv"
    userSetOutFile := true }

section Rules

variable (host : Host) (o : Options)

section Carried

variable {S : Process → Process → Prop} {R : Sys → Sys → Prop}
variable [Std.Refl S] [IsTrans Process S] [Carries S R]

/-- Waiting for the system does what its checks do. -/
theorem awaitSystem_within
    (checked : ∀ s, Within R (RemoteInterface.checkSystemReady host.env) s) (passes : Nat)
    (p : Process) : Within S (awaitSystem host passes) p := by
  induction passes generalizing p with
  | zero => exact Within.throw _ p
  | succ passes ih =>
    unfold awaitSystem
    apply (caughtSignal_within host p).bind
    intro caught p _
    split
    · exact Within.pure () p
    apply (library_within (checked p.sys)).bind
    intro ready p _
    split
    · exact Within.pure () p
    · exact (print_within _ p).bind fun _ p _ => ih p

/-- So does connecting. -/
theorem connect_within (checked : ∀ s, Within R (RemoteInterface.checkSystemReady host.env) s)
    (passes : Nat) (p : Process) : Within S (connect host passes) p := by
  apply catching_within
  · apply (awaitSystem_within host checked passes p).bind
    intro _ p _
    exact (print_within _ p).bind fun _ p _ => Within.pure true p
  · intro e p _ _
    exact (print_within _ p).bind fun _ p _ => Within.pure false p

/-- Starting the module does what its services do. -/
theorem startAsked_within
    (called : ∀ name s, Within R (RemoteInterface.callDynamicsService host.env name) s)
    (p : Process) : Within S (startAsked host o) p := by
  have call {α : Type} (name : String) (value : α) (p : Process) :
      Within S (do
        let _ ← library (RemoteInterface.callDynamicsService host.env name)
        return value : Program α) p :=
    (library_within (called name p.sys)).bind fun _ p _ => Within.pure value p
  unfold startAsked
  split
  · apply catching_within
    · exact (print_within _ p).bind fun _ p _ => call "start_slam" true p
    · intro _ p _ _
      apply catching_within
      · apply (print_within _ p).bind
        intro _ p _
        exact (print_within _ p).bind fun _ p _ => call "start" true p
      · intro e p _ _
        exact (print_within _ p).bind fun _ p _ => Within.pure false p
  · exact Within.pure true p

/-- So does stopping it. -/
theorem stopStarted_within
    (called : ∀ name s, Within R (RemoteInterface.callDynamicsService host.env name) s)
    (p : Process) : Within S (stopStarted host o) p := by
  unfold stopStarted
  split
  · apply catching_within
    · apply (print_within _ p).bind
      intro _ p _
      apply (library_within (called "stop" p.sys)).bind
      intro _ p _
      exact Within.pure () p
    · exact fun e p _ _ => print_within _ p
  · exact Within.pure () p

include R in
/-- The report at the end is printed. -/
theorem report_within (p : Process) : Within S (report o) p := by
  have read : Within S (get : Program Process) p := Within.of_run rfl (refl_of S p)
  apply read.bind
  intro q p _
  dsimp only
  split
  · exact print_within _ p
  · exact print_within _ p

/-- Listing the streams does what its queries do. -/
theorem listStreams_within
    (listed : ∀ s, Within R (RemoteInterface.getAvailableStreams host.env) s)
    (typed : ∀ stream s, Within R (RemoteInterface.getPbMsgTypeOfStream host.env stream) s)
    (entered : ∀ node s, Within R (RemoteInterface.getState host.env node) s)
    (measured : ∀ s, Within R (RemoteInterface.getCam2ImuTransform host.env 0) s) (p : Process) :
    Within S (listStreams host) p := by
  have state (node : String) (p : Process) :
      Within S (library (RemoteInterface.getState host.env node)) p :=
    library_within (entered node p.sys)
  unfold listStreams
  apply (library_within (listed p.sys)).bind
  intro streams p _
  apply (print_within _ p).bind
  intro _ p _
  apply Within.bind
  · apply Within.forM
    intro s _ p
    apply (library_within (typed s p.sys)).bind
    intro pbMsgType p _
    exact print_within _ p
  intro _ p _
  apply (state _ p).bind
  intro dynamicsState p _
  apply (print_within _ p).bind
  intro _ p _
  apply (state _ p).bind
  intro slamState p _
  apply (print_within _ p).bind
  intro _ p _
  apply (state _ p).bind
  intro stereoInsState p _
  apply (print_within _ p).bind
  intro _ p _
  apply Within.bind
  · unfold listTransform
    split
    · exact Within.throw _ p
    apply catching_within
    · apply (library_within (measured p.sys)).bind
      intro cam2imu p _
      exact print_within _ p
    · intro e p _ _
      split
      · exact print_within _ p
      · exact print_within _ p
  · exact fun _ p _ => print_within _ p

end Carried

section Received

variable {S : Process → Process → Prop} {R : Sys → Sys → Prop}
variable [Std.Refl S] [IsTrans Process S] [CarriesAll S R]

include R in
/-- Processing a message is carried where recording is. -/
theorem process_within (msg : Message) (p : Process) : Within S (process host o msg) p := by
  have headed (p : Process) : Within S (heading msg) p := by
    unfold heading
    split
    · exact Within.pure _ p
    · exact Within.throw _ p
  have written (p : Process) : Within S (writeHeader msg) p := by
    have read : Within S (get : Program Process) p := Within.of_run rfl (refl_of S p)
    apply read.bind
    intro q p _
    split
    · exact (headed p).bind fun _ p _ => write_within _ p
    · exact Within.pure () p
  have shown : Within S (output host o msg) p := by
    unfold output
    split
    · exact (written p).bind fun _ p _ => write_within _ p
    · exact print_within _ p
  apply shown.bind
  intro _ p _
  exact Within.of_run rfl (CarriesAll.cntMsgs p _)

/-- A pass of the loop does what its two calls do. -/
theorem receiveOnce_within (receiver : TrackedDataReceiver)
    (typed : ∀ s, Within R (RemoteInterface.getPbMsgTypeOfStream host.env o.streamName) s)
    (received : ∀ pbMsgType s, Within R (receiver.receive host.env pbMsgType) s) (p : Process) :
    Within S (receiveOnce host o receiver) p := by
  apply (library_within (typed p.sys)).bind
  intro pbMsgType p _
  apply (library_within (received pbMsgType p.sys)).bind
  intro msg p _
  split
  · exact process_within host o _ p
  · exact print_within _ p

/-- So does the loop. -/
theorem receiveLoop_within (receiver : TrackedDataReceiver)
    (typed : ∀ s, Within R (RemoteInterface.getPbMsgTypeOfStream host.env o.streamName) s)
    (received : ∀ pbMsgType s, Within R (receiver.receive host.env pbMsgType) s) (passes : Nat)
    (elapsedSecs : ℚ) (p : Process) :
    Within S (receiveLoop host o receiver passes elapsedSecs) p := by
  induction passes generalizing elapsedSecs p with
  | zero => exact Within.throw _ p
  | succ passes ih =>
    have read (p : Process) : Within S (get : Program Process) p :=
      Within.of_run rfl (refl_of S p)
    have timed (p : Process) : Within S (readClock host) p :=
      Within.of_run rfl (Carries.passes p _)
    unfold receiveLoop
    apply (caughtSignal_within host p).bind
    intro caught p _
    apply (read p).bind
    intro q p _
    split
    · exact Within.pure () p
    apply (receiveOnce_within host o receiver typed received p).bind
    intro _ p _
    apply (timed p).bind
    intro later p _
    exact ih later p

/-- Receiving a stream does what its calls do, the destructor of the receiver included. -/
theorem stream_within
    (created : ∀ s, Within R
      (RemoteInterface.createReceiverForStream host.env o.streamName o.networkIface 0) s)
    (set : ∀ (receiver : TrackedDataReceiver) ms s, Within R (receiver.setTimeout host.env ms) s)
    (typed : ∀ s, Within R (RemoteInterface.getPbMsgTypeOfStream host.env o.streamName) s)
    (received : ∀ (receiver : TrackedDataReceiver) pbMsgType s,
      Within R (receiver.receive host.env pbMsgType) s)
    (destroyed : ∀ (receiver : TrackedDataReceiver) s, Within R (receiver.destroy host.env) s)
    (passes : Nat) (p : Process) :
    Within S (stream host o passes) p := by
  apply catching_within
  · apply (print_within _ p).bind
    intro _ p _
    apply (library_within (created p.sys)).bind
    intro receiver p _
    have ends (p : Process) : Within S (library (receiver.destroy host.env)) p :=
      library_within (destroyed receiver p.sys)
    apply block_within
    · apply (library_within (set receiver 100 p.sys)).bind
      intro _ p _
      apply (print_within _ p).bind
      intro _ p _
      exact receiveLoop_within host o receiver typed (received receiver) passes 0 p
    · exact fun _ p _ => ends p
    · exact fun _ p _ _ => ends p
  · exact fun e p _ _ => print_within _ p

end Received

end Rules

end RcdynamicsStream

end RcDynamics
