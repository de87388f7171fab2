import Go2Sensors.Native.Calc
import Go2Sensors.Native.Input

/-!
# GPS datagrams

A datagram of `GPS_PACKET_SIZE` bytes is not a packet of the lidar: `RecvTask` takes the date
out of it and hands the time to the callback. The fields of the date are two ASCII digits each,
low digit first.
-/

namespace Hesai

open CFloat (ofRat)

/-- `PandarGPS`. -/
structure PandarGPS where
  flag : Nat
  year : Nat
  month : Nat
  day : Nat
  second : Nat
  minute : Nat
  hour : Nat
  fineTime : Nat
deriving DecidableEq

/-- `(recvbuf[index] & 0xff - 0x30) + (recvbuf[index + 1] & 0xff - 0x30) * 10`. The difference
    binds tighter than the `&`. -/
def gpsField (recvbuf : Nat → UInt8) (index : Nat) : Nat :=
  ((recvbuf index).toNat &&& (0xff - 0x30)) + ((recvbuf (index + 1)).toNat &&& (0xff - 0x30)) * 10

/-- `ParseGPS`. -/
def parseGPS (recvbuf : Nat → UInt8) (size : Nat) : Option PandarGPS :=
  if size ≠ gpsPacketSize then none
  else
    some {
      flag := (recvbuf 0).toNat ||| (recvbuf 1).toNat <<< 8
      year := gpsField recvbuf 2
      month := gpsField recvbuf 4
      day := gpsField recvbuf 6
      second := gpsField recvbuf 8
      minute := gpsField recvbuf 10
      hour := gpsField recvbuf 12
      fineTime := (recvbuf 14).toNat ||| (recvbuf 15).toNat <<< 8 |||
        (recvbuf 16).toNat <<< 16 ||| (recvbuf 17).toNat <<< 24 }

/-- The calendar fields in `ProcessGps`. -/
def PandarGPS.toTm (gpsMsg : PandarGPS) : Tm where
  tmYear := gpsMsg.year + 100
  tmMon := (gpsMsg.month : Int) - 1
  tmMday := gpsMsg.day
  tmHour := gpsMsg.hour
  tmMin := gpsMsg.minute
  tmSec := gpsMsg.second

variable {F : Type} [CFloat F]

/-- `ProcessGps`: what the callback is called with, if there is one. -/
def processGps (cfg : Config F) (gpsCallback : Bool) (gpsMsg : PandarGPS) : Option F :=
  if gpsCallback then some (ofRat (cfg.mktime gpsMsg.toTm + cfg.tzSecond)) else none

/-- The call of the GPS callback in a turn of `RecvTask`, if there is one. -/
def recvTaskGps (cfg : Config F) (gpsCallback : Bool) (time : F) (stale : Nat → UInt8)
    (outcome : PollOutcome) : Option F :=
  match getPacket time stale outcome with
  | .pushed pkt =>
    if pkt.size = gpsPacketSize then
      (parseGPS pkt.data pkt.size).bind (processGps cfg gpsCallback)
    else none
  | .nothing | .undefined => none

end Hesai
