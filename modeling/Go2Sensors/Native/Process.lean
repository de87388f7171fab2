import Go2Sensors.Native.Calc

/-!
# The processing thread

`ProcessLiarPacket` takes packet after packet from the ring. A packet of a known
length is parsed and its raw bytes are kept for the scan message; then, block by
block, the azimuth decides whether the frame under construction is complete
(`isFrameCut`), a complete frame is handed to the callback (`emitBackMessege`), and
the points of the block are added. One turn of the loop is `processLiarPacket`, and
a run of the thread is `run`.
-/

namespace Hesai

open CFloat (ofRat toInt)

variable {F : Type} [CFloat F]

/-! ## State -/

/-- What one call of `pcl_callback_` is given. The timestamp is the one of
    `cld->points[0]`, `none` if there is no such point. -/
structure Frame (F : Type) where
  cloud : PPointCloud F
  timestamp : Option F
  scan : List PandarPacketMsg

/-- The state of an instance and of its processing thread. -/
structure DriverState (F : Type) where
  lastAzimuth : Nat
  dPktTimestamp : F
  calibration : Calibration F
  /-- the static variables -/
  store : PointStore F
  /-- the local variable `outMsg` -/
  outMsg : PPointCloud F
  /-- `scan->packets` -/
  scan : List PandarPacketMsg
  /-- the calls of `pcl_callback_`, oldest first -/
  published : List (Frame F)

/-- The static variables at program start. -/
def PointStore.init : PointStore F where
  pointCloudList := fun _ => []
  pointCloud := fun _ => ⟨ofRat 0, ofRat 0, ofRat 0, 0, ofRat 0, 0⟩
  iPointCloudIndex := 0
  written := []

/-- A constructed instance whose processing thread is at the head of its loop. -/
def DriverState.init (calib : Calibration F) : DriverState F where
  lastAzimuth := 0
  dPktTimestamp := ofRat 0
  calibration := calib
  store := PointStore.init
  outMsg := PPointCloud.empty
  scan := []
  published := []

/-! ## Packet messages -/

/-- The raw packet as a message, for a packet of at most `ETHERNET_MTU` bytes: the copy of
    a larger one reads past the end of `data` (`processTurn`). -/
def rawPacket (packet : PandarPacket F) : PandarPacketMsg where
  stampSec := CFloat.floor packet.stamp
  stampNanosec :=
    toInt ((packet.stamp - ofRat (CFloat.floor packet.stamp)) * ofRat 1000000000)
  data := bytes packet.data packet.size
  size := packet.size

/-- The calibration table as text. -/
def correctionContent (calib : Calibration F) (laserNumber : Int) : String :=
  (List.range laserNumber.toNat).foldl (fun content i =>
    content ++ toString (i + 1) ++ "," ++ CFloat.print (calib.elevAngleMap i) ++ "," ++
      CFloat.print (calib.horizatalAzimuthOffsetMap i) ++ "\n") "Laser id,Elevation,Azimuth\n"

/-- `SaveCorrectionFile`: the text after a header of eight bytes that ends in its
    length, high byte first. The header is not counted in `size`. -/
def saveCorrectionFile (calib : Calibration F) (laserNumber : Int) : PandarPacketMsg :=
  let content := (correctionContent calib laserNumber).toUTF8.data.toList
  let length := content.length
  { stampSec := 0
    stampNanosec := 0
    data := [0x47, 0x74, 0x05, 0x00, UInt8.ofNat (length >>> 24), UInt8.ofNat (length >>> 16),
      UInt8.ofNat (length >>> 8), UInt8.ofNat length] ++ content
    size := length }

/-! ## Frames -/

/-- Does the block of azimuth `azimuth` start a new frame? The gap of a decreasing
    azimuth is `0`. -/
def isFrameCut (startAngle lastAzimuth azimuth : Nat) : Bool :=
  -- the modular gap of the source is commented out
  let azimuthGap := if lastAzimuth > azimuth then 0 else azimuth - lastAzimuth
  lastAzimuth != azimuth && azimuthGap < 600 &&
    ((lastAzimuth > azimuth && startAngle ≤ azimuth) ||
      (lastAzimuth < startAngle && startAngle ≤ azimuth))

/-- The cloud of a frame: the rings one after the other, or the filled part of
    `PointCloud`, up to `Config.maxIndex`. -/
def fillCloud (cfg : Config F) (chLaserNumber : Int) (st : PointStore F) (cld : PPointCloud F) :
    PPointCloud F :=
  if cfg.pclType ≠ 0 then
    (List.range chLaserNumber.toNat).foldl (fun cld i =>
      (st.pointCloudList i).foldl PPointCloud.pushBack cld) cld
  else
    -- `cld->points.assign(PointCloud.begin(), PointCloud.begin() + iPointCloudIndex)`
    let points := (List.range st.iPointCloudIndex).map st.pointCloud
    { cld with points, width := toUInt32 points.length, height := 1 }

/-- The end of `EmitBackMessege` in structured mode, for ring `i`. -/
def clearRing (s : DriverState F) (i : Nat) : DriverState F :=
  { s with
    store := { s.store with pointCloudList := Function.update s.store.pointCloudList i [] }
    outMsg := { s.outMsg with points := [], width := 0, height := 1 } }

/-- `EmitBackMessege`. -/
def emitBackMessege (cfg : Config F) (chLaserNumber : Int) (s : DriverState F) :
    DriverState F :=
  let cld := fillCloud cfg chLaserNumber s.store s.outMsg
  let s := if cfg.pclType ≠ 0 then s
    else { s with store := { s.store with iPointCloudIndex := 0 } }
  let s := { s with
    outMsg := cld
    published := s.published ++ [⟨cld, cld.points.head?.map PPoint.timestamp, s.scan⟩] }
  -- only structured mode clears the cloud: the unstructured one is overwritten next time
  if cfg.pclType ≠ 0 then (List.range chLaserNumber.toNat).foldl clearRing s else s

/-- `pcl_callback_ && (iPointCloudIndex > 0 || PointCloudList[0].size() > 0)`. -/
def canEmit (cfg : Config F) (st : PointStore F) : Bool :=
  cfg.pclCallback && (st.iPointCloudIndex > 0 || (st.pointCloudList 0).length > 0)

/-- A complete frame goes out with the raw packets and the calibration. -/
def cutFrame (cfg : Config F) (laserNumber : Int) (s : DriverState F) : DriverState F :=
  if canEmit cfg s.store then
    let s := { s with scan := s.scan ++ [saveCorrectionFile s.calibration laserNumber] }
    let s := emitBackMessege cfg laserNumber s
    { s with scan := [] }
  else s

/-! ## Packets -/

/-- The parsed packet of each of the five branches of `ProcessLiarPacket`. -/
inductive ParsedPacket where
  | pandar40P (pkt : Pandar40PPacket)
  | l64 (pkt : LidarPacket)
  | l20 (pkt : LidarPacket)
  | qt (pkt : LidarPacket)
  | xt (pkt : LidarPacket)
deriving DecidableEq

/-- The branch for the length of the packet, up to its parser. `none` where the
    driver goes on to the next packet. -/
def parsePacket (cfg : Config F) (packet : PandarPacket F) : Option ParsedPacket :=
  if packet.size = packetSize ∨ packet.size = packetSize + seqNumSize then
    (parseRawData packet.data packet.size).val.map .pandar40P
  else if packet.size = hsLidarL64Packet6Size ∨ packet.size = hsLidarL64Packet7Size ∨
      packet.size = hsLidarL64Packet6WithoutUDPSeqSize ∨
      packet.size = hsLidarL64Packet7WithoutUDPSeqSize then
    (parseL64Data cfg.charSigned packet.data packet.size).val.map .l64
  else if packet.size = hsLidarL20PacketSize then
    (parseL20Data cfg.charSigned packet.data packet.size).val.map .l20
  else if packet.size = hsLidarQTPacketSize ∨
      packet.size = hsLidarQTPacketWithoutUDPSeqSize then
    (parseQTData cfg.charSigned packet.data packet.size).val.map .qt
  else if (packet.size = hsLidarXTPacketSize ∧
        (cfg.lidarType = "XT" ∨ cfg.lidarType = "PandarXT-32")) ∨
      (packet.size = hsLidarXT16PacketSize ∧ cfg.lidarType = "PandarXT-16") ∨
      (packet.size = hsLidarXTMPacketSize ∧ cfg.lidarType = "PandarXTM") then
    (parseXTData cfg.charSigned packet.data packet.size).val.map .xt
  else none

namespace ParsedPacket

/-- `LASER_COUNT` or `header.chLaserNumber`. -/
def laserNumber : ParsedPacket → Int
  | pandar40P _ => laserCount
  | l64 pkt | l20 pkt | qt pkt | xt pkt => pkt.header.chLaserNumber

/-- The blocks that the loop visits. -/
def blocks : ParsedPacket → List LidarBlock
  | pandar40P pkt => pkt.blocks
  | l64 pkt | l20 pkt | qt pkt | xt pkt => pkt.blocks

/-- The `Calc` function of the branch. -/
def calcPoints (cfg : Config F) (calib : Calibration F) (dPktTimestamp : F) :
    ParsedPacket → Nat → PointStore F → PointStore F
  | pandar40P pkt, blockid => calcPointXYZIT cfg calib dPktTimestamp pkt blockid
  | l64 pkt, blockid =>
    calcL64PointXYZIT cfg calib dPktTimestamp pkt blockid pkt.header.chLaserNumber
  | l20 pkt, blockid =>
    calcL20PointXYZIT cfg calib dPktTimestamp pkt blockid pkt.header.chLaserNumber
  | qt pkt, blockid =>
    calcQTPointXYZIT cfg calib dPktTimestamp pkt blockid pkt.header.chLaserNumber
  | xt pkt, blockid =>
    calcXTPointXYZIT cfg calib dPktTimestamp pkt blockid pkt.header.chLaserNumber

end ParsedPacket

/-- The body of the block loop. -/
def processBlock (cfg : Config F) (pkt : ParsedPacket) (blockid azimuth : Nat)
    (s : DriverState F) : DriverState F :=
  let s := if isFrameCut cfg.startAngle s.lastAzimuth azimuth
    then cutFrame cfg pkt.laserNumber s else s
  { s with
    store := pkt.calcPoints cfg s.calibration s.dPktTimestamp blockid s.store
    lastAzimuth := azimuth }

/-- The block loop, from block `blockid` on. -/
def processBlocks (cfg : Config F) (pkt : ParsedPacket) :
    (blocks : List LidarBlock) → (blockid : Nat) → DriverState F → DriverState F
  | [], _, s => s
  | block :: blocks, blockid, s =>
    processBlocks cfg pkt blocks (blockid + 1) (processBlock cfg pkt blockid block.azimuth s)

/-- One turn of the loop of `ProcessLiarPacket`, where it is defined. -/
def processLiarPacket (cfg : Config F) (s : DriverState F) (packet : PandarPacket F) :
    DriverState F :=
  let s := { s with dPktTimestamp := packet.stamp }
  match parsePacket cfg packet with
  -- "continue": the packet is not even kept for the scan
  | none => s
  | some pkt =>
    let s := { s with scan := s.scan ++ [rawPacket packet] }
    let s := processBlocks cfg pkt pkt.blocks 0 s
    -- set for the next frame: those of this packet are already out
    { s with outMsg := { s.outMsg with frameId := cfg.frameId, height := 1 } }

/-- The packets of a run, in the order in which they are taken from the ring. -/
def run (cfg : Config F) (s : DriverState F) (packets : List (PandarPacket F)) :
    DriverState F :=
  packets.foldl (processLiarPacket cfg) s

/-! ## The variable `rawpacket` -/

/-- The state together with `rawpacket`, which is declared before the loop and so
    outlives a turn. -/
structure LoopState (F : Type) extends DriverState F where
  rawpacket : PandarPacketMsg

/-- One turn of the loop, with what it leaves in `rawpacket`. `none` is undefined behaviour:
    `memcpy` takes `size` bytes out of `data` before the size is looked at. -/
def processTurn (cfg : Config F) (s : LoopState F) (packet : PandarPacket F) :
    Option (LoopState F) :=
  if packet.size ≤ ethernetMTU then
    let s := { s with rawpacket := rawPacket packet, dPktTimestamp := packet.stamp }
    match parsePacket cfg packet with
    | none => some s
    | some pkt =>
      let s := { s with scan := s.scan ++ [s.rawpacket] }
      let d := processBlocks cfg pkt pkt.blocks 0 s.toDriverState
      let outMsg := { d.outMsg with frameId := cfg.frameId, height := 1 }
      some { s with toDriverState := { d with outMsg } }
  else none

/-- The turns of a run. -/
def runTurns (cfg : Config F) (s : LoopState F) (packets : List (PandarPacket F)) :
    Option (LoopState F) :=
  packets.foldlM (processTurn cfg) s

end Hesai
