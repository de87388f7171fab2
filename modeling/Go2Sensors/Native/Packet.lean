import Mathlib.Algebra.Group.Nat.Defs
import Mathlib.Algebra.Ring.Int.Defs
import Mathlib.Data.Rat.Defs

/-!
# Packets, points and clouds

The data that the driver moves around: the packet of the ring (`PandarPacket_s`),
the packet and scan messages (`hesai_lidar/msg`), the point and the cloud
(`PPoint`, `PPointCloud`), and the parsed packets of the five lidar families.

Two modelling decisions are made here. The `float` and `double` arithmetic of the
driver is left abstract (`CFloat`), so that everything proved holds for IEEE
arithmetic as well as for exact arithmetic. A measured distance is the exact
rational that the driver computes in `double`: a whole number of millimetres. The
product with `0.004` of `ParseRawData` can be off by one unit in the last place, but
no distance is moved across `0.1` or `200`, the only two values that it is ever
compared with.
-/

namespace Hesai

/-- The operations on `float` and `double` that the driver uses. -/
class CFloat (F : Type) extends Add F, Sub F, Mul F, Div F, Neg F where
  /-- literals, integers and distances -/
  ofRat : Rat → F
  /-- `static_cast<float>` -/
  toFloat : F → F
  /-- `static_cast<int>` and `int(..)` -/
  toInt : F → Int
  /-- `floor` -/
  floor : F → Int
  sqrt : F → F
  /-- `x <= 0` -/
  nonpos : F → Bool
  /-- `x != 0` -/
  nonzero : F → Bool
  /-- `std::ostream << x` -/
  print : F → String

/-- A member of a packet structure of type `char`: signed on the PC, unsigned on
    the arm64 dock. -/
def toChar (charSigned : Bool) (byte : Nat) : Int :=
  if charSigned && byte ≥ 128 then (byte : Int) - 256 else byte

/-- Conversion to a 32-bit unsigned integer. -/
def toUInt32 (n : Int) : Nat := (n % 2 ^ 32).toNat

/-! ## The ring's packet and the message types -/

/-- `ETHERNET_MTU`, the length of `PandarPacket_s::data`. -/
abbrev ethernetMTU : Nat := 1500

/-- `PandarPacket_s`. A read past the end of `data` reads whatever memory follows. -/
structure PandarPacket (F : Type) where
  stamp : F
  data : Nat → UInt8
  size : Nat

/-- `memcpy` of the first `n` bytes of `data`. -/
def bytes (data : Nat → UInt8) (n : Nat) : List UInt8 := (List.range n).map data

/-- `hesai_lidar/msg/PandarPacket`. -/
structure PandarPacketMsg where
  stampSec : Int
  stampNanosec : Int
  data : List UInt8
  size : Nat
deriving DecidableEq

/-! ## Points and clouds -/

/-- `PPoint`. -/
structure PPoint (F : Type) where
  x : F
  y : F
  z : F
  intensity : Nat
  timestamp : F
  ring : Nat
deriving DecidableEq

/-- `PPointCloud`, with the part of its header that the driver sets. -/
structure PPointCloud (F : Type) where
  frameId : String
  points : List (PPoint F)
  width : Nat
  height : Nat

/-- A default-constructed cloud. -/
def PPointCloud.empty {F : Type} : PPointCloud F := ⟨"", [], 0, 0⟩

/-- `pcl::PointCloud::push_back`: the cloud becomes unorganised. -/
def PPointCloud.pushBack {F : Type} (cld : PPointCloud F) (point : PPoint F) : PPointCloud F :=
  { cld with
    points := cld.points ++ [point]
    width := toUInt32 (cld.points.length + 1)
    height := 1 }

/-! ## Parsed packets

The four header-driven families have packet structures that differ only in their
array bounds, in the protocol bytes of the header and in `confidence`. -/

/-- `HS_LIDAR_*_Unit` and `Pandar40PUnit`. -/
structure LidarUnit where
  distance : Rat
  intensity : Nat
  confidence : Nat
deriving DecidableEq, Inhabited

/-- `HS_LIDAR_*_Block` and `Pandar40PBlock`. -/
structure LidarBlock where
  azimuth : Nat
  units : List LidarUnit
deriving DecidableEq, Inhabited

/-- `HS_LIDAR_*_Header`. -/
structure LidarHeader where
  sob : Nat
  chProtocolMajor : Int
  chProtocolMinor : Int
  chLaserNumber : Int
  chBlockNumber : Int
  chReturnType : Int
  chDisUnit : Int
deriving DecidableEq

/-- `HS_LIDAR_*_Packet`. -/
structure LidarPacket where
  header : LidarHeader
  blocks : List LidarBlock
  timestamp : Nat
  echo : Nat
  addtime : List Nat
deriving DecidableEq

/-- The fields of `struct tm` that the driver sets. -/
structure Tm where
  tmYear : Int
  tmMon : Int
  tmMday : Int
  tmHour : Int
  tmMin : Int
  tmSec : Int
deriving DecidableEq

/-- `Pandar40PPacket`. -/
structure Pandar40PPacket where
  blocks : List LidarBlock
  t : Tm
  usec : Nat
  echo : Nat
deriving DecidableEq

end Hesai
