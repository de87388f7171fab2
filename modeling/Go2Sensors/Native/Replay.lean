import Go2Sensors.Native.Correction
import Go2Sensors.Native.Init
import Go2Sensors.Native.Input
import Go2Sensors.Native.Instances
import Go2Sensors.Native.PacketsBuffer

/-!
# Replaying a recording

The scans that an instance published are given to `PushScanPacket` of another one, whose
processing thread is running. Packets go through the ring; the first correction packet
replaces the tables while the thread may be anywhere in its turn. A step of the replay is
the next message of `PushScanPacket` or the next step of the thread, in any order.
-/

namespace Hesai

open CFloat (ofRat)

variable {F : Type} [CFloat F]

/-- A cell of the ring before the first push. -/
instance : Inhabited (PandarPacket F) := ⟨⟨ofRat 0, fun _ => 0, 0⟩⟩

/-- An instance that replays a recording. -/
structure ReplayState (F : Type) where
  /-- the messages that are not pushed yet -/
  todo : List PandarPacketMsg
  ring : RingState (PandarPacket F)
  /-- the rest of the turn that the processing thread is in -/
  turn : List (InstanceStep F)
  driver : DriverState F
  correction : CorrectionState F

/-- A constructed instance with running threads. -/
def ReplayState.init (tables : CalibrationTables F) (messages : List PandarPacketMsg) :
    ReplayState F where
  todo := messages
  ring := RingState.init
  turn := []
  driver := DriverState.init tables.toCalibration
  correction := ⟨tables, false⟩

/-- A step of the caller of `PushScanPacket` or of the processing thread. -/
inductive ReplayOp where
  /-- the next message. `stale` is what the packet on the stack holds before, `memory` what
      follows the text of a correction. -/
  | push (stale : Nat → UInt8) (memory : List UInt8)
  | process

/-- The loop body of `PushScanPacket`, without a local correction file. After undefined
    behaviour nothing more is pushed. -/
def replayPush (env : LoadEnv F) (stale : Nat → UInt8) (memory : List UInt8)
    (s : ReplayState F) : ReplayState F :=
  match s.todo with
  | [] => s
  | msg :: todo =>
    match pushPacket stale s.correction.gotLidarCorrectionFlag msg with
    | .pushed pkt => { s with todo, ring := s.ring.pushStep pkt }
    -- a correction file
    | .nothing =>
      match pushCorrection env memory none s.correction msg with
      | some correction => { s with todo, correction }
      | none => { s with todo := [] }
    | .undefined => { s with todo := [] }

/-- The next step of `ProcessLiarPacket`: a step of its turn with the tables as they are
    now, or else a step at the ring. -/
def replayProcess (cfg : Config F) (s : ReplayState F) : ReplayState F :=
  match s.turn with
  | e :: turn =>
    { s with
      turn
      driver := instanceStep cfg
        { s.driver with calibration := s.correction.tables.toCalibration } e }
  | [] =>
    { s with
      ring := s.ring.consumerStep
      -- the turn begins once the read iterator has passed the packet
      turn := if s.ring.pc = .move then s.ring.taken.getLast?.toList.flatMap (turnSteps cfg)
        else [] }

/-- A step of the replay. -/
def replayStep (cfg : Config F) (env : LoadEnv F) (s : ReplayState F) : ReplayOp → ReplayState F
  | .push stale memory => replayPush env stale memory s
  | .process => replayProcess cfg s

end Hesai
