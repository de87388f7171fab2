import Go2Sensors.Native.Input
import Go2Sensors.Native.Parse

/-!
# The pace of a capture

`parsePcap` hands packet after packet of a capture to its callback, and after every `gap`
packets it waits until as much time has passed on the clock of the host as on the clock of
the lidar. The bytes of that clock are found by the type of the lidar (`initTimeIndexMap`);
the format of the packet is not looked at.

Times are in microseconds. They are of type `int64_t`, and no time that `mktime` and
`gettimeofday` return comes near its bounds. `count` and `last_time` are not initialised.
-/

namespace Hesai

/-! ## The clock in a packet -/

/-- `m_iTsIndex` and `m_iUTCIndex`. -/
structure PcapReader where
  tsIndex : Nat
  utcIndex : Nat
deriving DecidableEq

/-- `initTimeIndexMap`. -/
def initTimeIndexMap : List (String × PcapReader) :=
  [("Pandar40P", ⟨1250, 1256⟩), ("Pandar40M", ⟨1250, 1256⟩), ("Pandar64", ⟨1182, 1188⟩),
    ("PandarQT", ⟨1056, 1062⟩), ("Pandar20A", ⟨1258, 1264⟩), ("Pandar20B", ⟨1258, 1264⟩),
    ("PandarXT-32", ⟨1071, 1065⟩), ("PandarXT-16", ⟨559, 553⟩), ("PandarXTM", ⟨811, 805⟩)]

/-- The constructor of `PcapReader`. -/
def PcapReader.new (frameId : String) : PcapReader :=
  (initTimeIndexMap.lookup frameId).getD ⟨0, 0⟩

/-- The bytes of the clock: the UTC time and the microseconds. -/
def PcapReader.readClock (reader : PcapReader) (packet : Nat → UInt8) :
    Traced Access (List Nat × Nat) := do
  let utc ← readAddtime packet reader.utcIndex
  let usec ← readUInt32LE packet reader.tsIndex
  pure (utc, usec)

/-- `t`. The parsers add 100 to the year, the reader does not. -/
def toPcapTm (utc : List Nat) : Tm where
  tmYear := utc.getD 0 0
  tmMon := (utc.getD 1 0 : Int) - 1
  tmMday := utc.getD 2 0
  tmHour := utc.getD 3 0
  tmMin := utc.getD 4 0
  tmSec := utc.getD 5 0

/-- `pkt_ts`. The microseconds are put together as an `int`. -/
def PcapReader.pktTs (mktime : Tm → Int) (reader : PcapReader) (packet : Nat → UInt8) : Int :=
  let (utc, usec) := (reader.readClock packet).val
  mktime (toPcapTm utc) * 1000000 + Int.bmod usec (2 ^ 32)

/-! ## The loop -/

/-- `gap`. -/
def gap : Int := 100

/-- `struct timeval`. -/
structure Timeval where
  tvSec : Int
  tvUsec : Int

/-- The time that is asked for. -/
def Timeval.usec (t : Timeval) : Int := t.tvSec * 1000000 + t.tvUsec

/-- The variables of the loop. -/
structure PcapState where
  count : Int
  lastPktTs : Int
  lastTime : Int
  /-- the clock of the host when the last turn came to its end, if `select` returns after
      exactly the time it was asked for -/
  resumed : Int

/-- What a turn of the loop meets. -/
structure PcapTurn where
  /-- the packet, and the memory after it -/
  packet : Nat → UInt8
  /-- the clock of the host when the callback gets the packet -/
  released : Int
  /-- the clock of the host at `gettimeofday` -/
  currentTime : Int

/-- What is done after `gap` packets. -/
def PcapState.pace (s : PcapState) (pktTs currentTime : Int) : PcapState :=
  if s.lastPktTs = 0 then
    { s with lastPktTs := pktTs, lastTime := currentTime, resumed := currentTime }
  else
    let sleepTime := (pktTs - s.lastPktTs) - (currentTime - s.lastTime)
    let waitTime : Timeval := ⟨sleepTime / 1000000, sleepTime % 1000000⟩
    { s with
      lastPktTs := pktTs
      lastTime := currentTime + sleepTime
      resumed := if sleepTime > 0 then currentTime + waitTime.usec else currentTime }

/-- One turn of the loop. -/
def pcapTurn (mktime : Tm → Int) (reader : PcapReader) (s : PcapState) (turn : PcapTurn) :
    PcapState :=
  let s := { s with count := s.count + 1, resumed := turn.released }
  if s.count ≥ gap ∧ reader.utcIndex ≠ 0 then
    { s with count := 0 }.pace (reader.pktTs mktime turn.packet) turn.currentTime
  else s

/-- The loop is entered with `last_pkt_ts = 0`. -/
def PcapState.init (count lastTime now : Int) : PcapState := ⟨count, 0, lastTime, now⟩

end Hesai
