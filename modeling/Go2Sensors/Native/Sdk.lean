import Mathlib.Data.Fintype.Basic
import Go2Sensors.ForStd.Workers
import Go2Sensors.Native.Live

/-!
# `Start` and `Stop`

An SDK object has up to four threads: one processes, one receives or reads a capture file, and
one asks for the calibration. `Start` and `Stop` of the SDK, of `PandarGeneral_Internal` and of
`PcapReader` call each other; here each of them is the list of what it does to the flags and to
the threads. Whoever calls them takes these steps one by one, while the threads take theirs. A
thread looks at its flag at the head of its loop. The call to the lidar returns: the last thread
ends with the one step that loads what it got.
-/

namespace Hesai

open Workers

/-- The threads of an SDK object. -/
inductive Worker where
  /-- `lidar_process_thr_` -/
  | process
  /-- `lidar_recv_thr_` -/
  | receive
  /-- `parse_thr_` -/
  | parse
  /-- `get_calibration_thr_` -/
  | calibration
deriving DecidableEq

instance : Fintype Worker where
  elems := {.process, .receive, .parse, .calibration}
  complete w := by cases w <;> decide

/-! ## The calls -/

/-- `PcapReader::stop`. The flag is `loop`. -/
def pcapReaderStop : List (Command Worker) := [.enable .parse false, .join .parse]

/-- `PcapReader::start`. -/
def pcapReaderStart : List (Command Worker) :=
  pcapReaderStop ++ [.enable .parse true, .create .parse]

/-- `PandarGeneral_Internal::Stop`. Without sockets there is a `pcap_reader_`. -/
def internalStop (connectLidar : Bool) : List (Command Worker) :=
  [.enable .receive false, .enable .process false, .join .process, .join .receive] ++
    if connectLidar then [] else pcapReaderStop

/-- `PandarGeneral_Internal::Start`. -/
def internalStart (connectLidar : Bool) : List (Command Worker) :=
  internalStop connectLidar ++ [.enable .receive true, .enable .process true, .create .process] ++
    if connectLidar then [.create .receive] else pcapReaderStart

/-- `PandarGeneralSDK::Stop`. -/
def sdkStop (connectLidar : Bool) : List (Command Worker) :=
  internalStop connectLidar ++ [.enable .calibration false, .join .calibration]

/-- `PandarGeneralSDK::Start`. -/
def sdkStart (connectLidar : Bool) : List (Command Worker) :=
  sdkStop connectLidar ++ internalStart connectLidar ++
    [.enable .calibration true, .create .calibration]

/-- The threads that end on their own: `GetCalibrationFromDevice` does not look at
    `enable_get_calibration_thr_`. -/
def isLone : Worker → Bool
  | .calibration => true
  | .process | .receive | .parse => false

/-! ## Steps -/

variable {F : Type} [CFloat F]

/-- An SDK object. -/
structure SdkState (F : Type) where
  live : ReplayState F
  running : Worker → Bool
  enabled : Worker → Bool
  /-- what is left of the call of `Start` or `Stop` -/
  call : List (Command Worker)
  /-- what happened: the processing threads that were created and joined, and their turns -/
  history : List (LifecycleOp F)

/-- A constructed object. -/
def SdkState.init (tables : CalibrationTables F) : SdkState F where
  live := ReplayState.init tables []
  running _ := false
  enabled _ := false
  call := []
  history := []

/-- A step of the thread that calls `Start` and `Stop`, or of a thread of the object. -/
inductive SdkOp (F : Type) where
  /-- `Start` or `Stop` is called -/
  | call (start : Bool)
  /-- the next step of the call -/
  | owner
  /-- the next step of `ProcessLiarPacket` -/
  | process
  /-- a turn of `RecvTask` -/
  | receive (time : F) (stale : Nat → UInt8) (outcome : PollOutcome)
  /-- a turn of `parsePcap`, `none` at the end of the file -/
  | parse (time : F) (stale : Nat → UInt8) (record : Option PcapRecord)
  /-- `GetCalibrationFromDevice` after the call to the lidar -/
  | calibrate (localFile : LocalFile) (result : CallResult)

/-- The processing thread is at the head of its loop. -/
def ReplayState.atHead (s : ReplayState F) : Bool := s.turn.isEmpty && decide (s.ring.pc = .poll)

/-- A new processing thread: its local variables are constructed. -/
def ReplayState.newThread (s : ReplayState F) : ReplayState F :=
  { s with driver := { s.driver with outMsg := PPointCloud.empty, scan := [] } }

/-- The next step of the call. A `join` waits for the end of the thread. -/
def sdkOwner (s : SdkState F) : SdkState F :=
  match s.call with
  | [] => s
  | .enable w on :: call => { s with enabled := Function.update s.enabled w on, call }
  | .join w :: call =>
    if s.running w then s
    else { s with
      call
      history := if w = .process then s.history ++ [.stop] else s.history }
  | .create w :: call =>
    { s with
      live := if w = .process then s.live.newThread else s.live
      running := Function.update s.running w true
      call
      history := if w = .process then s.history ++ [.start] else s.history }

/-- The end of a thread. -/
def SdkState.finish (s : SdkState F) (w : Worker) : SdkState F :=
  { s with running := Function.update s.running w false }

/-- A step of the processing thread. -/
def sdkProcess (cfg : Config F) (s : SdkState F) : SdkState F :=
  if s.running .process then
    if s.live.atHead && !s.enabled .process then s.finish .process
    else
      { s with
        live := replayProcess cfg s.live
        -- the packet of the turn that begins
        history := s.history ++
          if s.live.turn.isEmpty && decide (s.live.ring.pc = .move)
          then s.live.ring.taken.getLast?.toList.map .turn else [] }
  else s

/-- A turn of a thread that looks at its flag first. -/
def sdkTurn (cfg : Config F) (env : LoadEnv F) (w : Worker) (s : SdkState F) (op : LiveOp F) :
    SdkState F :=
  if s.running w then
    if s.enabled w then { s with live := liveStep cfg env s.live op } else s.finish w
  else s

/-- A step. -/
def sdkStep (cfg : Config F) (env : LoadEnv F) (connectLidar : Bool) (s : SdkState F) :
    SdkOp F → SdkState F
  -- a call is made when the one before has returned
  | .call start =>
    if s.call = [] then
      { s with call := if start then sdkStart connectLidar else sdkStop connectLidar }
    else s
  | .owner => sdkOwner s
  | .process => sdkProcess cfg s
  | .receive time stale outcome => sdkTurn cfg env .receive s (.receive time stale outcome)
  | .parse time stale (some record) => sdkTurn cfg env .parse s (.capture time stale record)
  | .parse _ _ none => if s.running .parse then s.finish .parse else s
  | .calibrate localFile result =>
    if s.running .calibration then
      { s.finish .calibration with live := liveStep cfg env s.live (.calibrate localFile result) }
    else s

end Hesai
