import Go2Sensors.Native.Replay
import Go2Sensors.Native.TcpClient

/-!
# A running instance

After `Start` an instance has a processing thread, one source of packets (the sockets, a
capture file, or the caller of `PushScanPacket`), and a thread that asks the lidar for its
calibration (`GetCalibrationFromDevice`). None of them waits for another: a calibration is
loaded while the processing thread is anywhere in its turn. A load is one step here, and so
is a block: `LoadCorrectionFile` takes no lock, and a load in the middle of a block, which
may then take the sine of an angle from one table and the cosine from another, is not
among these runs.
-/

namespace Hesai

variable {F : Type} [CFloat F]

/-- `GetCalibrationFromDevice`, from what `TcpCommandGetLidarCalibration` returned. The file
    at `correction_file_path_` is read if the lidar gave no calibration. -/
def getCalibrationFromDevice (env : LoadEnv F) (localFile : LocalFile) (result : CallResult)
    (s : CorrectionState F) : CorrectionState F :=
  let s := match result.buffer with
    | some buffer =>
      if result.ret = 0 then
        let loaded := loadCorrectionFile env s.tables (cString buffer [])
        ⟨loaded.tables, loaded.ret = 0 || s.gotLidarCorrectionFlag⟩
      else s
    | none => s
  if s.gotLidarCorrectionFlag then s
  else match localFile with
    -- "Open correction file failed": here the flag stays as it is
    | none => s
    | some (content, memory) =>
      let loaded := loadCorrectionFile env s.tables (cString content memory)
      ⟨loaded.tables, loaded.ret = 0⟩

/-- A step of one of the threads of an instance, or of the caller of `PushScanPacket`. -/
inductive LiveOp (F : Type) where
  /-- a turn of `RecvTask` -/
  | receive (time : F) (stale : Nat → UInt8) (outcome : PollOutcome)
  /-- a turn of `parsePcap` -/
  | capture (time : F) (stale : Nat → UInt8) (record : PcapRecord)
  /-- the next message of `PushScanPacket` -/
  | push (stale : Nat → UInt8) (memory : List UInt8)
  /-- the rest of `GetCalibrationFromDevice` after the call to the lidar -/
  | calibrate (localFile : LocalFile) (result : CallResult)
  /-- the next step of `ProcessLiarPacket` -/
  | process

/-- What becomes of the input of a step. -/
def LiveOp.input (s : ReplayState F) : LiveOp F → Ingested F
  | receive time stale outcome => recvTask time stale outcome
  | capture time stale record => parsePcap time stale record
  | push stale _ =>
    match s.todo with
    | [] => .nothing
    | msg :: _ => pushPacket stale s.correction.gotLidarCorrectionFlag msg
  | calibrate _ _ | process => .nothing

/-- `PushLiDARData`, if there is a packet. -/
def ingest (s : ReplayState F) : Ingested F → ReplayState F
  | .pushed pkt => { s with ring := s.ring.pushStep pkt }
  | .nothing | .undefined => s

/-- A step of an instance. -/
def liveStep (cfg : Config F) (env : LoadEnv F) (s : ReplayState F) : LiveOp F → ReplayState F
  | .receive time stale outcome => ingest s (recvTask time stale outcome)
  | .capture time stale record => ingest s (parsePcap time stale record)
  | .push stale memory => replayPush env stale memory s
  | .calibrate localFile result =>
    { s with correction := getCalibrationFromDevice env localFile result s.correction }
  | .process => replayProcess cfg s

end Hesai
