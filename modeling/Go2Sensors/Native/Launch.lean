import Mathlib.Data.Rat.Floor
import Mathlib.Data.Rat.Sqrt
import Go2Sensors.Native.Correction
import Go2Sensors.Native.Process

/-!
# The driver as the launch file starts it

Exact arithmetic in place of floating point, the parameters of `hesai_lidar_launch.py`
(a PandarXT-16, start angle `0`, time of reception), and packets of this lidar. The
model evaluates on these values.
-/

namespace Hesai

/-- Exact arithmetic, but for the square root. -/
instance : CFloat Rat where
  ofRat := id
  toFloat := id
  toInt q := if 0 ≤ q then ⌊q⌋ else -⌊-q⌋
  floor q := ⌊q⌋
  sqrt := Rat.sqrt
  nonpos q := q ≤ 0
  nonzero q := q ≠ 0
  print q := String.ofList (Decimal.ofRat q).format

/-- Tables of zeros. -/
def Tables.zero : Tables Rat :=
  ⟨fun _ => 0, fun _ => 0, fun _ => 0, fun _ => 0, fun _ => 0, fun _ => 0, fun _ => 0,
    fun _ => 0, fun _ => 0, fun _ => 0, fun _ => 0, fun _ => 0, fun _ => 0, fun _ => 0,
    fun _ => 0, fun _ => 0, fun _ => 0, fun _ => 0, fun _ => 0, fun _ => 0, fun _ => 0,
    fun _ => 0, fun _ => 0⟩

/-- A calibration without angles. -/
def Calibration.zero : Calibration Rat :=
  ⟨fun _ => 0, fun _ => 0, fun _ => 0, fun _ => 0⟩

/-- Variables that hold `99` before they are set. The sine and the cosine are those of
    small angles. -/
def LoadEnv.launch : LoadEnv Rat :=
  ⟨fun _ => 99, fun _ => 99, fun _ => 99, fun _ => 99, fun x => x / 57, fun _ => 1⟩

/-- The parameters of `hesai_lidar_launch.py`. -/
def launchConfig : Config Rat where
  charSigned := true
  pclCallback := true
  startAngle := 0
  pclType := 0
  lidarType := "PandarXT-16"
  frameId := "rslidar"
  timestampType := "realtime"
  coordinateCorrectionFlag := false
  tzSecond := 0
  mktime := fun _ => 0
  tables := Tables.zero

/-- A packet of a PandarXT-16 in the format of its parser: eight blocks of sixteen
    units, the distance unit is 4 mm. -/
def xt16Packet (azimuth : Nat → Nat) (range : Nat → Nat) : PandarPacket Rat where
  stamp := 0
  size := hsLidarXT16PacketSize
  data i :=
    let block := (i - hsLidarXTHeadSize) / 66
    let offset := (i - hsLidarXTHeadSize) % 66
    let laser := (offset - 2) / 4
    UInt8.ofNat <|
      if i = 0 then 0xEE else if i = 1 then 0xFF
      else if i = 6 then 16 else if i = 7 then 8 else if i = 9 then 4
      else if i < hsLidarXTHeadSize ∨ 8 ≤ block then 0
      else if offset = 0 then azimuth block % 256 else if offset = 1 then azimuth block / 256
      else if (offset - 2) % 4 = 0 then range laser % 256
      else if (offset - 2) % 4 = 1 then range laser / 256
      else 0

end Hesai
