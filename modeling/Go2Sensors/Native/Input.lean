import Go2Sensors.ForStd.BigEndian
import Go2Sensors.ForStd.Buffer
import Go2Sensors.Native.Packet

/-!
# The three inputs

Packets reach the ring from the sockets (`Input::getPacket`, `RecvTask`), from a pcap
file (`parsePcap`, `FillPacket`) and from a recorded scan message
(`PushScanPacket`). Each of them fills a `PandarPacket` on the stack, whose `data` is
not initialised: `stale` is what the array holds before.
-/

namespace Hesai

open BigEndian (ofBytesBE)
open CFloat (ofRat)
open Buffer (overlay memcpy)

variable {F : Type}

/-- What becomes of one input. -/
inductive Ingested (F : Type) where
  /-- no packet -/
  | nothing
  /-- `PushLiDARData(pkt)` -/
  | pushed (pkt : PandarPacket F)
  /-- undefined behaviour: a copy or a read outside of its array, or a variable that
      was never set -/
  | undefined

/-- `GPS_PACKET_SIZE`. -/
abbrev gpsPacketSize : Nat := 512

/-- Conversion of an `int` to the `size_t` of `memcpy`. -/
def toSizeT (n : Int) : Nat := (n % 2 ^ 64).toNat

/-! ## Sockets -/

/-- `EWOULDBLOCK`. -/
abbrev ewouldblock : Nat := 11

/-- What `recvfrom` finds: a datagram, or an error with its `errno`. -/
inductive Recv where
  | datagram (payload : List UInt8)
  | error (errno : Nat)

/-- `revents` of a socket after `poll`, and what reading the socket then gives. -/
structure PollFd where
  pollin : Bool
  pollerr : Bool
  pollhup : Bool
  pollnval : Bool
  recv : Recv

/-- An outcome of `poll` on one or two sockets. With two sockets `fds[0]` is the one
    for GPS and `fds[1]` the one of the lidar. -/
structure PollOutcome where
  retval : Int
  fd0 : PollFd
  fd1 : Option PollFd

/-- `fds`. -/
def PollOutcome.fds (outcome : PollOutcome) : List PollFd :=
  outcome.fd0 :: outcome.fd1.toList

/-- `recvfrom` with a buffer of `ETHERNET_MTU` bytes: `nbytes`, `errno` and the buffer. A
    datagram that is too long is cut off. -/
def recvfrom (stale : Nat → UInt8) : Recv → Int × Nat × (Nat → UInt8)
  | .datagram payload =>
    let received := payload.take ethernetMTU
    (received.length, 0, overlay stale received)
  | .error errno => (-1, errno, stale)

/-- `Input::getPacket`, with `nothing` for the return value `-1`. -/
def getPacket (time : F) (stale : Nat → UInt8) (outcome : PollOutcome) : Ingested F :=
  if outcome.retval < 0 then .nothing
  else if outcome.retval = 0 then .nothing
  else if outcome.fd0.pollerr || outcome.fd0.pollhup || outcome.fd0.pollnval then .nothing
  else match outcome.fds.find? (·.pollin) with
    -- `nbytes` is tested without a value
    | none => .undefined
    | some fd =>
      let (nbytes, errno, data) := recvfrom stale fd.recv
      -- with `EWOULDBLOCK` control goes on, and the size becomes `(uint32_t)(-1)`
      if nbytes < 0 ∧ errno ≠ ewouldblock then .nothing
      else .pushed ⟨time, data, toUInt32 nbytes⟩

/-- One turn of the loop of `RecvTask`. -/
def recvTask (time : F) (stale : Nat → UInt8) (outcome : PollOutcome) : Ingested F :=
  match getPacket time stale outcome with
  | .pushed pkt => if pkt.size = gpsPacketSize then .nothing else .pushed pkt
  | .nothing => .nothing
  | .undefined => .undefined

/-! ## Capture files -/

/-- `PKT_HEADER_SIZE`. -/
abbrev pktHeaderSize : Nat := 42

/-- A UDP record of a pcap file: the frame on the wire, with its UDP payload somewhere
    inside, and the two length fields of the record header. -/
structure PcapRecord where
  frame : List UInt8
  payload : List UInt8
  payload_infix : payload <:+: frame
  caplen : Nat
  len : UInt32

/-- `packetBuf`: the bytes of the frame that were captured. -/
def PcapRecord.packetBuf (record : PcapRecord) : List UInt8 :=
  record.frame.take record.caplen

/-- `pktHeader->len - PKT_HEADER_SIZE`, computed without sign and stored in an `int`. -/
def PcapRecord.pktSize (record : PcapRecord) : Int :=
  Int.bmod (record.len.toNat - pktHeaderSize) (2 ^ 32)

/-- `FillPacket`. -/
def fillPacket (buf : List UInt8) (len : Int) (timestamp : F) (stale : Nat → UInt8) :
    Ingested F :=
  -- the length is neither compared with the captured bytes nor with the array
  if len ≠ gpsPacketSize then
    match memcpy ethernetMTU stale buf (toSizeT len) with
    | none => .undefined
    | some data => .pushed ⟨timestamp, data, toUInt32 len⟩
  else .nothing

/-- One turn of the loop of `parsePcap`. -/
def parsePcap (time : F) (stale : Nat → UInt8) (record : PcapRecord) : Ingested F :=
  fillPacket (record.packetBuf.drop pktHeaderSize) record.pktSize time stale

/-! ## Scan messages -/

/-- `data[0] == 0x47 && data[1] == 0x74`, `none` if it reads past the end. -/
def isCorrectionFile : List UInt8 → Option Bool
  | [] => none
  | b0 :: rest => if b0 = 0x47 then rest.head?.map (· == 0x74) else some false

/-- Does the branch of a correction file stay inside the data? It reads the length field, and
    if this is the size of the message, as many bytes after it into an array of that length. -/
def PandarPacketMsg.correctionReadable (msg : PandarPacketMsg) : Bool :=
  match msg.data with
  | _ :: _ :: _ :: _ :: b4 :: b5 :: b6 :: b7 :: text =>
    ofBytesBE b4 b5 b6 b7 ≠ msg.size || (msg.size ≤ text.length && msg.size < 2 ^ 31)
  | _ => false

/-- The loop body of `PushScanPacket`. The branch of a correction file pushes nothing: it loads
    the calibration, or does not even read it once one is loaded. -/
def pushPacket [CFloat F] (stale : Nat → UInt8) (gotLidarCorrectionFlag : Bool)
    (msg : PandarPacketMsg) : Ingested F :=
  match isCorrectionFile msg.data with
  | none => .undefined
  | some true => if gotLidarCorrectionFlag || msg.correctionReadable then .nothing else .undefined
  | some false =>
    match memcpy ethernetMTU stale msg.data msg.size with
    | none => .undefined
    | some data =>
      .pushed ⟨ofRat msg.stampSec + ofRat msg.stampNanosec / ofRat 1000000000, data, msg.size⟩

/-- `PushScanPacket`, message by message. The flag is set after the first correction file,
    whether that one could be loaded or the local file was taken in its place. -/
def pushScanPacket [CFloat F] (stale : Nat → UInt8) :
    (gotLidarCorrectionFlag : Bool) → List PandarPacketMsg → List (Ingested F)
  | _, [] => []
  | got, msg :: scan =>
    pushPacket stale got msg ::
      pushScanPacket stale (got || isCorrectionFile msg.data == some true) scan

end Hesai
