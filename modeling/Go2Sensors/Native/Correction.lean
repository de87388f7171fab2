import Go2Sensors.ForStd.BigEndian
import Go2Sensors.ForStd.Decimal
import Go2Sensors.ForStd.TextStream
import Go2Sensors.Native.Calc
import Go2Sensors.Native.Input

/-!
# The correction text

`LoadCorrectionFile` reads the calibration from a text of one header line and a row for
each laser: number, elevation and azimuth offset. The text comes from the lidar, from a
file, or from the correction packet of a recorded scan (`PushScanPacket`), where it is
taken from an array that is not terminated. What uninitialised variables and the memory
after an array hold is given from outside.
-/

namespace Hesai

open BigEndian (ofBytesBE)
open CFloat (ofRat toFloat)

variable {F : Type} [CFloat F]

/-! ## Tables -/

/-- The tables together with the size of `m_sin_elevation_map_` and
    `m_cos_elevation_map_`, which are always resized together. -/
structure CalibrationTables (F : Type) extends Calibration F where
  elevationSize : Nat

/-- What the compiler and the C library fix: the variables that `LoadCorrectionFile` does
    not initialise, and the sine and cosine of an angle in degrees. -/
structure LoadEnv (F : Type) where
  /-- the array `elev_angle` -/
  elevAngle : Nat → F
  /-- the array `azimuthOffset` -/
  azimuthOffset : Nat → F
  /-- `elev` when a row is reached -/
  elev : Nat → F
  /-- `azimuth` when a row is reached -/
  azimuth : Nat → F
  /-- `sinf(degreeToRadian(x))` -/
  sinDegree : F → F
  /-- `cosf(degreeToRadian(x))` -/
  cosDegree : F → F

/-! ## Rows -/

/-- The three variables that a line is read into. -/
structure CorrectionRow (F : Type) where
  lineId : Int
  elev : F
  azimuth : F

/-- The line of row number `row`, field by field. -/
def parseRow (env : LoadEnv F) (row : Nat) (line : List Char) : CorrectionRow F :=
  let ss : IStringStream := ⟨line, true⟩
  let (_, subline, ss) := ss.getline ',' []
  let lineId := (Decimal.scanInt subline).store 0
  -- where the line has no further field `subline` stays as it is
  let (_, subline, ss) := ss.getline ',' subline
  let elev := ((Decimal.scanDouble subline).map ofRat).store (env.elev row)
  let (_, subline, _) := ss.getline ',' subline
  let azimuth := ((Decimal.scanDouble subline).map ofRat).store (env.azimuth row)
  ⟨lineId, elev, azimuth⟩

/-- `lineCounter` and the two arrays of 64 cells. A store past their end is recorded like
    any other. -/
structure RowArrays (F : Type) where
  lineCounter : Nat
  elevAngle : Nat → F
  azimuthOffset : Nat → F
  /-- the indices stored to so far -/
  stored : List Nat

/-- `elev_angle[i] = elev; azimuthOffset[i] = azimuth`. -/
def RowArrays.store (rows : RowArrays F) (i : Nat) (elev azimuth : F) : RowArrays F :=
  { rows with
    elevAngle := Function.update rows.elevAngle i elev
    azimuthOffset := Function.update rows.azimuthOffset i azimuth
    stored := rows.stored ++ [i] }

/-- The loop over the lines. -/
def rowLoop (env : LoadEnv F) (ifs : IStringStream) (line : List Char) (rows : RowArrays F) :
    RowArrays F :=
  match hline : ifs.getline '\n' line with
  | (false, _, _) => rows
  | (true, line, ifs') =>
    -- "min length is len(0,0,0)"
    if line.length < 5 then rows
    else
      let rows := { rows with lineCounter := rows.lineCounter + 1 }
      let row := parseRow env rows.lineCounter line
      -- the counter has already been advanced
      if row.lineId ≠ rows.lineCounter then rows
      else rowLoop env ifs' line (rows.store (row.lineId - 1).toNat row.elev row.azimuth)
termination_by ifs.rest.length
decreasing_by exact IStringStream.rest_lt_of_getline hline

/-! ## `LoadCorrectionFile` -/

/-- What a call of `LoadCorrectionFile` returns and leaves, with the indices of the row
    arrays that it stored to and that it copied from. -/
structure Loaded (F : Type) where
  ret : Int
  tables : CalibrationTables F
  stored : List Nat
  copied : List Nat

/-- The loop that copies `lineCounter` rows into the tables. -/
def copyRows (env : LoadEnv F) (tables : CalibrationTables F) (rows : RowArrays F) :
    CalibrationTables F where
  elevAngleMap i :=
    if i < rows.lineCounter then toFloat (rows.elevAngle i) else tables.elevAngleMap i
  horizatalAzimuthOffsetMap i :=
    if i < rows.lineCounter then toFloat (rows.azimuthOffset i)
    else tables.horizatalAzimuthOffsetMap i
  sinElevationMap i :=
    if i < rows.lineCounter then env.sinDegree (toFloat (rows.elevAngle i))
    else tables.sinElevationMap i
  cosElevationMap i :=
    if i < rows.lineCounter then env.cosDegree (toFloat (rows.elevAngle i))
    else tables.cosElevationMap i
  elevationSize := rows.lineCounter

/-- `LoadCorrectionFile`. -/
def loadCorrectionFile (env : LoadEnv F) (tables : CalibrationTables F)
    (correctionContent : List Char) : Loaded F :=
  let ifs : IStringStream := ⟨correctionContent, true⟩
  -- first line "Laser id,Elevation,Azimuth"
  let (_, line, ifs) := ifs.getline '\n' []
  let rows := rowLoop env ifs line ⟨0, env.elevAngle, env.azimuthOffset, []⟩
  { ret := 0
    tables := copyRows env tables rows
    stored := rows.stored
    copied := List.range rows.lineCounter }

/-! ## `PushScanPacket` -/

/-- The tables and `got_lidar_correction_flag`. -/
structure CorrectionState (F : Type) where
  tables : CalibrationTables F
  gotLidarCorrectionFlag : Bool

/-- `std::string(buffer)` for an array that is followed by `memory` and then by a zero
    byte. -/
def cString (buffer memory : List UInt8) : List Char :=
  ((buffer ++ memory).takeWhile (· != 0)).map fun b => Char.ofNat b.toNat

/-- The local correction file and the memory after the array it is read into, `none` if
    the file cannot be opened. -/
abbrev LocalFile := Option (List UInt8 × List UInt8)

/-- The part of the branch for a correction file that reads the packet. `none` is undefined
    behaviour: a read past the end of the data, or an array of negative length. -/
def loadFromPacket (env : LoadEnv F) (memory : List UInt8) (s : CorrectionState F)
    (msg : PandarPacketMsg) : Option (CorrectionState F) :=
  match msg.data with
  | _ :: _ :: _ :: _ :: b4 :: b5 :: b6 :: b7 :: text =>
    let correctionLenth := ofBytesBE b4 b5 b6 b7
    if correctionLenth = msg.size then
      if text.length < msg.size ∨ 2 ^ 31 ≤ msg.size then none
      else
        let loaded := loadCorrectionFile env s.tables (cString (text.take msg.size) memory)
        some ⟨loaded.tables, loaded.ret = 0⟩
    -- "Load correction file from rosbag failed"
    else some s
  | _ => none

/-- The part that falls back to the local file. -/
def loadFromLocalFile (env : LoadEnv F) (localFile : LocalFile) (s : CorrectionState F) :
    CorrectionState F :=
  match localFile with
  | none => { s with gotLidarCorrectionFlag := true }
  | some (content, memory) =>
    ⟨(loadCorrectionFile env s.tables (cString content memory)).tables, true⟩

/-- The branch of `PushScanPacket` for a correction file. -/
def pushCorrection (env : LoadEnv F) (memory : List UInt8) (localFile : LocalFile)
    (s : CorrectionState F) (msg : PandarPacketMsg) : Option (CorrectionState F) :=
  if s.gotLidarCorrectionFlag then some s
  else
    (loadFromPacket env memory s msg).map fun s =>
      if s.gotLidarCorrectionFlag then s else loadFromLocalFile env localFile s

/-- `PushScanPacket`, as far as the tables and the flag are concerned. That the copies of the
    other messages are defined is left to `pushPacket`. -/
def pushScanCorrection (env : LoadEnv F) (memory : List UInt8) (localFile : LocalFile) :
    CorrectionState F → List PandarPacketMsg → Option (CorrectionState F)
  | s, [] => some s
  | s, msg :: scan =>
    match isCorrectionFile msg.data with
    | none => none
    | some true =>
      (pushCorrection env memory localFile s msg).bind fun s =>
        pushScanCorrection env memory localFile s scan
    | some false => pushScanCorrection env memory localFile s scan

end Hesai
