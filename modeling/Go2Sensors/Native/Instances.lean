import Go2Sensors.ForStd.Sharing
import Go2Sensors.Native.Process

/-!
# Several objects, and one object started again

`last_azimuth_` and the stamp belong to an object, the cloud and the scan to the thread
that `Start` creates, and the points to the translation unit. Two objects in one process
each have a thread of their own; what a thread does to the points in one go is to emit a
frame, or to process a block (`InstanceStep`).
-/

namespace Hesai

variable {F : Type} [CFloat F]

/-! ## The steps of a thread -/

/-- A step of the processing thread of an object. -/
inductive InstanceStep (F : Type) where
  /-- take a packet from the ring -/
  | take (packet : PandarPacket F)
  /-- `scan->packets.push_back(rawpacket)` -/
  | keep (packet : PandarPacket F)
  /-- emit the frame, if the azimuth starts a new one -/
  | emission (pkt : ParsedPacket) (azimuth : Nat)
  /-- the `Calc` function for a block -/
  | block (pkt : ParsedPacket) (blockid azimuth : Nat)
  /-- set the frame id -/
  | finish

/-- What a step does. -/
def instanceStep (cfg : Config F) (s : DriverState F) : InstanceStep F → DriverState F
  | .take packet => { s with dPktTimestamp := packet.stamp }
  | .keep packet => { s with scan := s.scan ++ [rawPacket packet] }
  | .emission pkt azimuth =>
    if isFrameCut cfg.startAngle s.lastAzimuth azimuth then cutFrame cfg pkt.laserNumber s else s
  | .block pkt blockid azimuth =>
    { s with
      store := pkt.calcPoints cfg s.calibration s.dPktTimestamp blockid s.store
      lastAzimuth := azimuth }
  | .finish => { s with outMsg := { s.outMsg with frameId := cfg.frameId, height := 1 } }

/-- The steps of the block loop, from block `blockid` on. -/
def loopSteps (F : Type) (pkt : ParsedPacket) :
    (blocks : List LidarBlock) → (blockid : Nat) → List (InstanceStep F)
  | [], _ => []
  | block :: blocks, blockid =>
    .emission pkt block.azimuth :: .block pkt blockid block.azimuth ::
      loopSteps F pkt blocks (blockid + 1)

/-- The steps of a turn of `ProcessLiarPacket`. -/
def turnSteps (cfg : Config F) (packet : PandarPacket F) : List (InstanceStep F) :=
  .take packet ::
    match parsePacket cfg packet with
    | none => []
    | some pkt => .keep packet :: loopSteps F pkt pkt.blocks 0 ++ [.finish]

/-! ## Objects in one process -/

/-- The static variables are a part of the state of every object. -/
def staticVariables : Sharing.Part (DriverState F) (PointStore F) where
  get s := s.store
  put s store := { s with store }
  get_put _ _ := rfl
  put_put _ _ _ := rfl
  put_get _ := rfl

/-- The objects of a process. -/
abbrev Process (ι F : Type) := Sharing.System ι (DriverState F) (PointStore F)

/-- Constructed objects, each with its calibration. -/
def Process.init {ι : Type} (calib : ι → Calibration F) : Process ι F :=
  ⟨fun i => DriverState.init (calib i), PointStore.init⟩

/-- A step of one object of the process. -/
def processStep {ι : Type} [DecidableEq ι] (cfg : ι → Config F) :
    Process ι F → ι × InstanceStep F → Process ι F :=
  Sharing.System.step staticVariables fun i => instanceStep (cfg i)

/-! ## `Start` and `Stop` -/

/-- An object, and whether its processing thread exists. -/
structure Lifecycle (F : Type) where
  driver : DriverState F
  running : Bool

/-- A call of `Start` or `Stop`, or a turn of the thread with the next packet of the ring. -/
inductive LifecycleOp (F : Type) where
  | start
  | stop
  | turn (packet : PandarPacket F)

/-- A thread that is stopped finishes its turn first, so that calls and turns do not
    overlap. A new thread has a new cloud and a new scan. -/
def lifecycleStep (cfg : Config F) (s : Lifecycle F) : LifecycleOp F → Lifecycle F
  | .start => ⟨{ s.driver with outMsg := PPointCloud.empty, scan := [] }, true⟩
  | .stop => { s with running := false }
  -- without a thread there are no turns
  | .turn packet =>
    if s.running then { s with driver := processLiarPacket cfg s.driver packet } else s

/-- A constructed object. -/
def Lifecycle.init (calib : Calibration F) : Lifecycle F := ⟨DriverState.init calib, false⟩

/-- The packets of the turns, if there is a thread at the beginning or not. -/
def turnPackets : (running : Bool) → List (LifecycleOp F) → List (PandarPacket F)
  | _, [] => []
  | _, .start :: ops => turnPackets true ops
  | _, .stop :: ops => turnPackets false ops
  | running, .turn packet :: ops =>
    if running then packet :: turnPackets running ops else turnPackets running ops

end Hesai
