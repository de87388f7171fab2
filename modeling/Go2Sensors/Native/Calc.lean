import Mathlib.Logic.Function.Basic
import Go2Sensors.Native.Parse

/-!
# From units to points

The five `Calc*PointXYZIT` functions: the loop over the lasers of a block, the skip
test, the coordinates and the timestamp of a point, and where the point is stored.
A product or sum of two `float`s is a `float`: it is written `toFloat (a * b)`,
the product rounded.

`PointCloud`, `PointCloudList` and `iPointCloudIndex` are static variables of the
translation unit, shared by all instances of the driver: they form a record of their
own, `PointStore`.
-/

namespace Hesai

open CFloat (ofRat toFloat toInt)

variable {F : Type} [CFloat F]

/-! ## Tables and parameters -/

/-- The tables that `Init` fills once. -/
structure Tables (F : Type) where
  sinAzimuthMap : Int → F
  cosAzimuthMap : Int → F
  sinAzimuthMapH : Int → F
  cosAzimuthMapH : Int → F
  sinAzimuthMapB : Int → F
  cosAzimuthMapB : Int → F
  block40OffsetSingle : Nat → F
  block40OffsetDual : Nat → F
  laser40Offset : Nat → F
  block64OffsetSingle : Nat → F
  block64OffsetDual : Nat → F
  laser64Offset : Nat → F
  block20OffsetSingle : Nat → F
  block20OffsetDual : Nat → F
  laser20AOffset : Nat → F
  laser20BOffset : Nat → F
  blockQTOffsetSingle : Nat → F
  blockQTOffsetDual : Nat → F
  laserQTOffset : Nat → F
  blockXTOffsetSingle : Nat → F
  blockXTOffsetDual : Nat → F
  blockXTOffsetTriple : Nat → F
  laserXTOffset : Nat → F

/-- The tables that `LoadCorrectionFile` replaces. -/
structure Calibration (F : Type) where
  /-- `General_elev_angle_map_` -/
  elevAngleMap : Nat → F
  /-- `General_horizatal_azimuth_offset_map_` -/
  horizatalAzimuthOffsetMap : Nat → F
  sinElevationMap : Nat → F
  cosElevationMap : Nat → F

/-- The parameters of an instance and of the platform. -/
structure Config (F : Type) where
  /-- is `char` signed? -/
  charSigned : Bool
  /-- is `pcl_callback_` set? -/
  pclCallback : Bool
  startAngle : Nat
  pclType : Int
  lidarType : String
  frameId : String
  timestampType : String
  coordinateCorrectionFlag : Bool
  tzSecond : Int
  /-- `mktime`, in the time zone of the process -/
  mktime : Tm → Int
  tables : Tables F

/-! ## Where points go -/

def maxPointCloudNum : Nat := 1000000

/-- The static variables that hold the points of the frame under construction. -/
structure PointStore (F : Type) where
  pointCloudList : Nat → List (PPoint F)
  pointCloud : Nat → PPoint F
  /-- an `int`, which is defined up to `Config.maxIndex` -/
  iPointCloudIndex : Nat
  /-- the indices at which `PointCloud` was written so far -/
  written : List Nat

/-- How far the index may count: in unstructured mode each point needs a cell, and in
    structured mode, where the QT branch counts all points ever stored, it is an `int`.
    What the code does beyond is undefined. -/
def Config.maxIndex (cfg : Config F) : Nat :=
  if cfg.pclType = 0 then maxPointCloudNum else 2 ^ 31 - 1

/-- `PointCloud[iPointCloudIndex] = point`. A write past the end is undefined: here it leaves
    its index in `written` and changes no cell. -/
def PointStore.write (st : PointStore F) (point : PPoint F) : PointStore F :=
  { st with
    pointCloud := if st.iPointCloudIndex < maxPointCloudNum
      then Function.update st.pointCloud st.iPointCloudIndex point else st.pointCloud
    written := st.written ++ [st.iPointCloudIndex] }

/-- `iPointCloudIndex++`. -/
def PointStore.advance (st : PointStore F) : PointStore F :=
  { st with iPointCloudIndex := st.iPointCloudIndex + 1 }

/-- `PointCloudList[i].push_back(point)`. -/
def PointStore.pushRing (st : PointStore F) (i : Nat) (point : PPoint F) : PointStore F :=
  { st with
    pointCloudList := Function.update st.pointCloudList i (st.pointCloudList i ++ [point]) }

/-- The end of the laser loop in `CalcPointXYZIT`, `CalcL64PointXYZIT`,
    `CalcL20PointXYZIT` and `CalcXTPointXYZIT`. -/
def storePoint (pclType : Int) (i : Nat) (point : PPoint F) (st : PointStore F) : PointStore F :=
  if pclType ≠ 0 then st.pushRing i point else (st.write point).advance

/-- The end of the laser loop in `CalcQTPointXYZIT`: the `else` has no braces, so the
    index advances in both modes. -/
def storePointQT (pclType : Int) (i : Nat) (point : PPoint F) (st : PointStore F) :
    PointStore F :=
  (if pclType ≠ 0 then st.pushRing i point else st.write point).advance

/-- `unit.distance <= 0.1 || unit.distance > 200.0`. -/
def LidarUnit.isWrong (unit : LidarUnit) : Bool :=
  unit.distance ≤ 1 / 10 || unit.distance > 200

/-- The loop over the lasers of a block that the five functions share. -/
def calcLoop (laserNumber : Int) (block : LidarBlock) (point : Nat → LidarUnit → PPoint F)
    (store : Nat → PPoint F → PointStore F → PointStore F) (st : PointStore F) : PointStore F :=
  (List.range laserNumber.toNat).foldl (fun st i =>
    let unit := block.units.getD i default
    /- skip wrong points -/
    if unit.isWrong then st else store i (point i unit) st) st

/-! ## Coordinates -/

/-- The coordinates of a point. -/
structure Xyz (F : Type) where
  x : F
  y : F
  z : F

/-- The azimuth of laser `i` in hundredths of a degree, with its horizontal offset. -/
def laserAzimuth (calib : Calibration F) (i azimuth : Nat) : Int :=
  let azimuth :=
    toInt (toFloat (toFloat (calib.horizatalAzimuthOffsetMap i * ofRat 100) + ofRat azimuth))
  -- at most one turn is added or taken away, whatever the offset
  let azimuth := if azimuth < 0 then azimuth + 36000 else azimuth
  if azimuth ≥ 36000 then azimuth - 36000 else azimuth

/-- The coordinates without correction: `y` is the forward axis. -/
def calcXYZ (tables : Tables F) (calib : Calibration F) (i : Nat) (azimuth : Int)
    (distance : Rat) : Xyz F :=
  let xyDistance := toFloat (ofRat distance * calib.cosElevationMap i)
  { x := toFloat (xyDistance * tables.sinAzimuthMap azimuth)
    y := toFloat (xyDistance * tables.cosAzimuthMap azimuth)
    z := toFloat (ofRat distance * calib.sinElevationMap i) }

/-- `HS_LIDAR_QT_COORDINATE_CORRECTION_ODOG`. -/
def qtCorrectionOdog : F := ofRat (298 / 10000000)

/-- `HS_LIDAR_QT_COORDINATE_CORRECTION_ODOT`. -/
def qtCorrectionOdot : F := ofRat (72 / 10000000)

/-- Is the candidate behind the optical centre? -/
def isBackward (tables : Tables F) (calib : Calibration F) (i : Nat) (azimuth : Int)
    (p : Xyz F) : Bool :=
  CFloat.nonpos <|
    (p.x + qtCorrectionOdot) * calib.cosElevationMap i * tables.sinAzimuthMap azimuth +
      (p.y - qtCorrectionOdog) * calib.cosElevationMap i * tables.cosAzimuthMap azimuth +
        toFloat (p.z * calib.sinElevationMap i)

/-- The QT correction on a beam with an elevation: the two points of the beam at the
    measured distance are the roots of a quadratic equation in `z`. -/
def qtElevated (tables : Tables F) (calib : Calibration F) (i : Nat) (azimuth : Int)
    (distance : Rat) : Xyz F :=
  let sinE := calib.sinElevationMap i
  let cosE := calib.cosElevationMap i
  let sinA := tables.sinAzimuthMap azimuth
  let cosA := tables.cosAzimuthMap azimuth
  let c := toFloat ((qtCorrectionOdog * qtCorrectionOdog + qtCorrectionOdot * qtCorrectionOdot -
    ofRat distance * ofRat distance) * sinE * sinE)
  let b := toFloat (toFloat (toFloat (ofRat 2 * sinE) * cosE) *
    (qtCorrectionOdog * cosA - qtCorrectionOdot * sinA))
  let root := toFloat (CFloat.sqrt (toFloat (toFloat (b * b) - toFloat (ofRat 4 * c))))
  let onBeam := fun z : F =>
    { x := toFloat (toFloat (toFloat (toFloat (z * sinA) * cosE) / sinE) - qtCorrectionOdot)
      y := toFloat (toFloat (toFloat (toFloat (z * cosA) * cosE) / sinE) + qtCorrectionOdog)
      z : Xyz F }
  -- the other root if this one lies behind the lidar
  let p := onBeam (toFloat (toFloat (-b + root) / ofRat 2))
  if isBackward tables calib i azimuth p then onBeam (toFloat (toFloat (-b - root) / ofRat 2))
  else p

/-- The QT correction on a horizontal beam: the equation is in `y`. -/
def qtHorizontal (tables : Tables F) (calib : Calibration F) (i : Nat) (azimuth : Int)
    (distance : Rat) : Xyz F :=
  let tanAzimuth := toFloat (tables.sinAzimuthMap azimuth / tables.cosAzimuthMap azimuth)
  let c := toFloat ((qtCorrectionOdog * tanAzimuth + qtCorrectionOdot) *
    (qtCorrectionOdog * tanAzimuth + qtCorrectionOdot) - ofRat distance * ofRat distance)
  let a := toFloat (ofRat 1 + toFloat (tanAzimuth * tanAzimuth))
  let b := toFloat (toFloat (ofRat (-2) * tanAzimuth) *
    (qtCorrectionOdog * tanAzimuth + qtCorrectionOdot))
  let root := toFloat (CFloat.sqrt (toFloat (toFloat (b * b) -
    toFloat (toFloat (ofRat 4 * a) * c))))
  let onBeam := fun y : F =>
    { x := toFloat ((y - qtCorrectionOdog) * tanAzimuth - qtCorrectionOdot)
      y
      z := ofRat 0 : Xyz F }
  let p := onBeam (toFloat (toFloat (-b + root) / toFloat (ofRat 2 * a)))
  if isBackward tables calib i azimuth p
  then onBeam (toFloat (toFloat (-b - root) / toFloat (ofRat 2 * a))) else p

/-- The QT correction on a horizontal beam along the `x` axis. -/
def qtSideways (tables : Tables F) (calib : Calibration F) (i : Nat) (azimuth : Int)
    (distance : Rat) : Xyz F :=
  let root := CFloat.sqrt (ofRat distance * ofRat distance - qtCorrectionOdog * qtCorrectionOdog)
  let p : Xyz F := { x := toFloat root, y := toFloat qtCorrectionOdog, z := ofRat 0 }
  if isBackward tables calib i azimuth p then { p with x := toFloat (-root) } else p

/-- The coordinates in `CalcQTPointXYZIT`. -/
def calcQTXYZ (cfg : Config F) (calib : Calibration F) (i : Nat) (azimuth : Int)
    (distance : Rat) : Xyz F :=
  if cfg.coordinateCorrectionFlag then
    if CFloat.nonzero (calib.sinElevationMap i) then
      qtElevated cfg.tables calib i azimuth distance
    else if CFloat.nonzero (cfg.tables.cosAzimuthMap azimuth) then
      qtHorizontal cfg.tables calib i azimuth distance
    else qtSideways cfg.tables calib i azimuth distance
  else calcXYZ cfg.tables calib i azimuth distance

/-- The coordinates in `CalcXTPointXYZIT`: the axes are turned by a quarter. -/
def calcXTXYZ (cfg : Config F) (calib : Calibration F) (i : Nat) (azimuth : Int)
    (distance : Rat) : Xyz F :=
  let sinE := calib.sinElevationMap i
  let cosE := calib.cosElevationMap i
  let sinA := cfg.tables.sinAzimuthMap azimuth
  let cosA := cfg.tables.cosAzimuthMap azimuth
  if cfg.coordinateCorrectionFlag then
    -- `abs(int(General_horizatal_azimuth_offset_map_[i] * 100))`
    let k : Int := (toInt (toFloat (calib.horizatalAzimuthOffsetMap i * ofRat 100))).natAbs
    let distance := toFloat (ofRat distance -
      toFloat (toFloat (cfg.tables.cosAzimuthMapH k * cosE) -
        toFloat (cfg.tables.sinAzimuthMapB k * cosE)))
    let xyDistance := toFloat (distance * cosE)
    { x := -toFloat (toFloat (toFloat (xyDistance * cosA) + cfg.tables.sinAzimuthMapB azimuth) +
        cfg.tables.cosAzimuthMapH azimuth)
      y := toFloat (toFloat (toFloat (xyDistance * sinA) - cfg.tables.cosAzimuthMapB azimuth) +
        cfg.tables.sinAzimuthMapH azimuth)
      z := toFloat (distance * sinE) }
  else
    let xyDistance := toFloat (ofRat distance * cosE)
    { x := -toFloat (xyDistance * cosA)
      y := toFloat (xyDistance * sinA)
      z := toFloat (ofRat distance * sinE) }

/-! ## Timestamps -/

/-- `unix_second`, from the UTC time of the packet. -/
def unixSecond (cfg : Config F) (t : Tm) : F := ofRat (cfg.mktime t + cfg.tzSecond)

/-- The sum of a block offset and a laser offset, in seconds. -/
def fireOffset (blockOffset laserOffset : F) : F :=
  toFloat (blockOffset + laserOffset) / ofRat 1000000

/-- The point timestamp: the time the packet was received, or the time in the packet. -/
def pointTimestamp (cfg : Config F) (pktTimestamp : F) (lidarTimestamp : F) : F :=
  if cfg.timestampType = "realtime" then pktTimestamp else lidarTimestamp

/-- The time in a Pandar40 packet, less the offset. -/
def timestamp40P (cfg : Config F) (pkt : Pandar40PPacket) (blockid i : Nat) : F :=
  let timestamp := unixSecond cfg pkt.t + ofRat pkt.usec / ofRat 1000000
  if pkt.echo = 0x39 then
    timestamp - fireOffset (cfg.tables.block40OffsetDual blockid) (cfg.tables.laser40Offset i)
  else
    timestamp - fireOffset (cfg.tables.block40OffsetSingle blockid) (cfg.tables.laser40Offset i)

/-- The time in a header-driven packet. -/
def packetTime (cfg : Config F) (pkt : LidarPacket) : F :=
  unixSecond cfg (toTm pkt.addtime) + ofRat pkt.timestamp / ofRat 1000000

/-- The time in a Pandar64 packet, less the offset. -/
def timestampL64 (cfg : Config F) (pkt : LidarPacket) (blockid i : Nat) : F :=
  if pkt.echo = 0x39 then
    packetTime cfg pkt -
      fireOffset (cfg.tables.block64OffsetDual blockid) (cfg.tables.laser64Offset i)
  else
    packetTime cfg pkt -
      fireOffset (cfg.tables.block64OffsetSingle blockid) (cfg.tables.laser64Offset i)

/-- The time in a Pandar20 packet, less the offset of the lidar type. -/
def timestampL20 (cfg : Config F) (pkt : LidarPacket) (blockid i : Nat) : F :=
  let blockOffset := if pkt.echo = 0x39 then cfg.tables.block20OffsetDual blockid
    else cfg.tables.block20OffsetSingle blockid
  if cfg.lidarType = "Pandar20A" then
    packetTime cfg pkt - fireOffset blockOffset (cfg.tables.laser20AOffset i)
  else if cfg.lidarType = "Pandar20B" then
    packetTime cfg pkt - fireOffset blockOffset (cfg.tables.laser20BOffset i)
  else packetTime cfg pkt

/-- The time in a QT packet, plus the offset. -/
def timestampQT (cfg : Config F) (pkt : LidarPacket) (blockid i : Nat) : F :=
  if pkt.echo = 0x05 then
    packetTime cfg pkt +
      fireOffset (cfg.tables.blockQTOffsetDual blockid) (cfg.tables.laserQTOffset i)
  else
    packetTime cfg pkt +
      fireOffset (cfg.tables.blockQTOffsetSingle blockid) (cfg.tables.laserQTOffset i)

/-- The time in an XT packet, plus the offset. -/
def timestampXT (cfg : Config F) (pkt : LidarPacket) (blockid i : Nat) : F :=
  if pkt.echo = 0x3d then
    packetTime cfg pkt +
      fireOffset (cfg.tables.blockXTOffsetTriple blockid) (cfg.tables.laserXTOffset i)
  else if pkt.echo = 0x39 ∨ pkt.echo = 0x3b ∨ pkt.echo = 0x3c then
    packetTime cfg pkt +
      fireOffset (cfg.tables.blockXTOffsetDual blockid) (cfg.tables.laserXTOffset i)
  else
    packetTime cfg pkt +
      fireOffset (cfg.tables.blockXTOffsetSingle blockid) (cfg.tables.laserXTOffset i)

/-! ## The five functions -/

/-- The point of laser `i`. -/
def makePoint (xyz : Int → Rat → Xyz F) (calib : Calibration F) (azimuth : Nat) (timestamp : F)
    (i : Nat) (unit : LidarUnit) : PPoint F :=
  let p := xyz (laserAzimuth calib i azimuth) unit.distance
  { x := p.x, y := p.y, z := p.z, intensity := unit.intensity, timestamp, ring := i }

section Calc

variable (cfg : Config F) (calib : Calibration F) (pktTimestamp : F)

/-- The point of a unit in `CalcPointXYZIT`. -/
def point40P (pkt : Pandar40PPacket) (blockid i : Nat) (unit : LidarUnit) : PPoint F :=
  makePoint (calcXYZ cfg.tables calib i) calib (pkt.blocks.getD blockid default).azimuth
    (pointTimestamp cfg pktTimestamp (timestamp40P cfg pkt blockid i)) i unit

/-- The point of a unit in `CalcL64PointXYZIT`. -/
def pointL64 (pkt : LidarPacket) (blockid i : Nat) (unit : LidarUnit) : PPoint F :=
  makePoint (calcXYZ cfg.tables calib i) calib (pkt.blocks.getD blockid default).azimuth
    (pointTimestamp cfg pktTimestamp (timestampL64 cfg pkt blockid i)) i unit

/-- The point of a unit in `CalcL20PointXYZIT`. -/
def pointL20 (pkt : LidarPacket) (blockid i : Nat) (unit : LidarUnit) : PPoint F :=
  makePoint (calcXYZ cfg.tables calib i) calib (pkt.blocks.getD blockid default).azimuth
    (pointTimestamp cfg pktTimestamp (timestampL20 cfg pkt blockid i)) i unit

/-- The point of a unit in `CalcQTPointXYZIT`. -/
def pointQT (pkt : LidarPacket) (blockid i : Nat) (unit : LidarUnit) : PPoint F :=
  makePoint (calcQTXYZ cfg calib i) calib (pkt.blocks.getD blockid default).azimuth
    (pointTimestamp cfg pktTimestamp (timestampQT cfg pkt blockid i)) i unit

/-- The point of a unit in `CalcXTPointXYZIT`. -/
def pointXT (pkt : LidarPacket) (blockid i : Nat) (unit : LidarUnit) : PPoint F :=
  makePoint (calcXTXYZ cfg calib i) calib (pkt.blocks.getD blockid default).azimuth
    (pointTimestamp cfg pktTimestamp (timestampXT cfg pkt blockid i)) i unit

/-- `CalcPointXYZIT`. -/
def calcPointXYZIT (pkt : Pandar40PPacket) (blockid : Nat) :
    PointStore F → PointStore F :=
  calcLoop laserCount (pkt.blocks.getD blockid default)
    (point40P cfg calib pktTimestamp pkt blockid) (storePoint cfg.pclType)

/-- `CalcL64PointXYZIT`. -/
def calcL64PointXYZIT (pkt : LidarPacket) (blockid : Nat) (chLaserNumber : Int) :
    PointStore F → PointStore F :=
  calcLoop chLaserNumber (pkt.blocks.getD blockid default)
    (pointL64 cfg calib pktTimestamp pkt blockid) (storePoint cfg.pclType)

/-- `CalcL20PointXYZIT`. -/
def calcL20PointXYZIT (pkt : LidarPacket) (blockid : Nat) (chLaserNumber : Int) :
    PointStore F → PointStore F :=
  calcLoop chLaserNumber (pkt.blocks.getD blockid default)
    (pointL20 cfg calib pktTimestamp pkt blockid) (storePoint cfg.pclType)

/-- `CalcQTPointXYZIT`. -/
def calcQTPointXYZIT (pkt : LidarPacket) (blockid : Nat) (chLaserNumber : Int) :
    PointStore F → PointStore F :=
  calcLoop chLaserNumber (pkt.blocks.getD blockid default)
    (pointQT cfg calib pktTimestamp pkt blockid) (storePointQT cfg.pclType)

/-- `CalcXTPointXYZIT`. -/
def calcXTPointXYZIT (pkt : LidarPacket) (blockid : Nat) (chLaserNumber : Int) :
    PointStore F → PointStore F :=
  calcLoop chLaserNumber (pkt.blocks.getD blockid default)
    (pointXT cfg calib pktTimestamp pkt blockid) (storePoint cfg.pclType)

end Calc

end Hesai
