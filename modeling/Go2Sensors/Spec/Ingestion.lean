import Go2Sensors.Native.Input
import Go2Sensors.Native.Launch

/-!
# What the inputs push

A packet is faithful if it holds the bytes of its source and nothing else
(`Faithful`). The receive call hides two cases behind the size field (a datagram cut
off, an error stored in an unsigned field), the capture reader trusts the length on
the wire, and the scan reader trusts the size field and the length in a correction file.
For each of the three inputs we say exactly which sources lead to a faithful packet or to
none.

## Key results

- `recvTask_faithful_iff`, `parsePcap_faithful_iff`, `pushScanPacket_faithful_iff`
- `ingestion_faithful_iff`: the three inputs together
-/

namespace Hesai

open Buffer

variable {F : Type}

/-- Nothing is pushed, or a packet whose first `size` bytes are the payload of the
    source. -/
def Faithful (payload : Option (List UInt8)) : Ingested F → Prop
  | .nothing => True
  | .pushed pkt => pkt.size ≤ ethernetMTU ∧ payload = some (bytes pkt.data pkt.size)
  | .undefined => False

/-- A size that fits is kept by the conversion to `uint32_t`. -/
theorem toUInt32_natCast {n : Nat} (h : n ≤ ethernetMTU) : toUInt32 n = n := by
  have hmtu : ethernetMTU = 1500 := rfl
  unfold toUInt32
  omega

/-! ## Sockets -/

/-- The socket that is read: the first one that is ready. -/
def PollOutcome.ready (outcome : PollOutcome) : Option PollFd :=
  outcome.fds.find? (·.pollin)

/-- The payload of the datagram that is read, if there is one. -/
def PollOutcome.payload (outcome : PollOutcome) : Option (List UInt8) :=
  match outcome.ready with
  | some ⟨_, _, _, _, .datagram payload⟩ => some payload
  | _ => none

/-- `poll` or `fds[0]` reports an error or nothing came in time. -/
def PollOutcome.failed (outcome : PollOutcome) : Prop :=
  outcome.retval ≤ 0 ∨
    (outcome.fd0.pollerr || outcome.fd0.pollhup || outcome.fd0.pollnval) = true

/-- The read does not fail with `EWOULDBLOCK`, and its datagram is not cut off. -/
def Recv.clean : Recv → Prop
  | .datagram payload => payload.length ≤ ethernetMTU
  | .error errno => errno ≠ ewouldblock

/-- `poll` fails, or some socket is ready and the read of the first one is clean. -/
def PollOutcome.clean (outcome : PollOutcome) : Prop :=
  outcome.failed ∨ ∃ fd, outcome.ready = some fd ∧ fd.recv.clean

/-- What `getPacket` gives after a successful `poll`. -/
theorem getPacket_of_not_failed {outcome : PollOutcome} (h : ¬outcome.failed) (time : F)
    (stale : Nat → UInt8) :
    getPacket time stale outcome =
      match outcome.ready with
      | none => .undefined
      | some fd =>
        match fd.recv with
        | .datagram payload =>
          .pushed ⟨time, overlay stale (payload.take ethernetMTU),
            toUInt32 (payload.take ethernetMTU).length⟩
        | .error errno =>
          if errno ≠ ewouldblock then .nothing else .pushed ⟨time, stale, 2 ^ 32 - 1⟩ := by
  unfold PollOutcome.failed at h
  unfold getPacket
  rw [if_neg (by omega), if_neg (by omega), if_neg (by tauto)]
  unfold PollOutcome.ready
  cases outcome.fds.find? (·.pollin) with
  | none => rfl
  | some fd =>
    cases hrecv : fd.recv with
    | datagram payload =>
      simp only [hrecv, recvfrom]
      rw [if_neg (by omega)]
    | error errno => simp [hrecv, recvfrom, toUInt32]

theorem getPacket_of_failed {outcome : PollOutcome} (h : outcome.failed) (time : F)
    (stale : Nat → UInt8) : getPacket time stale outcome = .nothing := by
  unfold getPacket
  by_cases hneg : outcome.retval < 0
  · rw [if_pos hneg]
  · by_cases hzero : outcome.retval = 0
    · rw [if_neg hneg, if_pos hzero]
    · have herror := h.resolve_left (by omega)
      rw [if_neg hneg, if_neg hzero, if_pos herror]

/-- A datagram gives a faithful packet exactly if it fits into the buffer. -/
theorem faithful_datagram_iff (time : F) (stale : Nat → UInt8) (payload : List UInt8) :
    Faithful (some payload) (.pushed ⟨time, overlay stale (payload.take ethernetMTU),
      toUInt32 (payload.take ethernetMTU).length⟩ : Ingested F) ↔
      payload.length ≤ ethernetMTU := by
  have hlength : (payload.take ethernetMTU).length ≤ ethernetMTU := List.length_take_le _ _
  simp only [Faithful, toUInt32_natCast hlength, bytes, map_overlay, Option.some.injEq]
  constructor
  · -- a datagram that is cut off is not the payload
    rintro ⟨-, hcut⟩
    rw [hcut]
    exact hlength
  · intro hfits
    exact ⟨hlength, (List.take_of_length_le hfits).symm⟩

/-- An outcome of `poll` and `recvfrom` gives a faithful packet or none exactly if it is
    clean. -/
theorem recvTask_faithful_iff (time : F) (stale : Nat → UInt8) (outcome : PollOutcome) :
    Faithful outcome.payload (recvTask time stale outcome) ↔ outcome.clean := by
  unfold recvTask PollOutcome.clean
  by_cases hfailed : outcome.failed
  · rw [getPacket_of_failed hfailed]
    exact iff_of_true trivial (Or.inl hfailed)
  rw [getPacket_of_not_failed hfailed, or_iff_right hfailed]
  unfold PollOutcome.payload
  -- which socket is read, and what it gives
  cases outcome.ready with
  | none => simp [Faithful]
  | some fd =>
    obtain ⟨pollin, pollerr, pollhup, pollnval, recv⟩ := fd
    simp only [Option.some.injEq, exists_eq_left']
    cases recv with
    | datagram payload =>
      simp only [Recv.clean]
      by_cases hgps : toUInt32 (payload.take ethernetMTU).length = gpsPacketSize
      · -- a datagram of this size goes to the GPS parser
        rw [if_pos hgps]
        rw [toUInt32_natCast (List.length_take_le _ _), List.length_take] at hgps
        have hsmall : gpsPacketSize < ethernetMTU := by decide
        exact iff_of_true trivial (by omega)
      · rw [if_neg hgps]
        exact faithful_datagram_iff time stale payload
    | error errno =>
      simp only [Recv.clean]
      by_cases hblock : errno ≠ ewouldblock
      · simp [hblock, Faithful]
      · simp [hblock, Faithful]

/-! ## Capture files -/

/-- The record goes to the GPS parser, or its length field is right, its payload starts
    after the header and was captured whole, and fits into the buffer. -/
def PcapRecord.clean (record : PcapRecord) : Prop :=
  record.pktSize = gpsPacketSize ∨
    (record.len.toNat = pktHeaderSize + record.payload.length ∧
      record.payload <+: record.frame.drop pktHeaderSize ∧
      record.payload.length ≤ record.caplen - pktHeaderSize ∧
      record.payload.length ≤ ethernetMTU)

/-- `FillPacket` pushes exactly what its buffer starts with. -/
theorem fillPacket_faithful_iff {buf payload : List UInt8} {len : Int} (timestamp : F)
    (stale : Nat → UInt8) (hint : -2 ^ 31 ≤ len ∧ len < 2 ^ 31) :
    Faithful (some payload) (fillPacket buf len timestamp stale) ↔
      len = gpsPacketSize ∨
        (len = payload.length ∧ payload <+: buf ∧ payload.length ≤ ethernetMTU) := by
  unfold fillPacket
  by_cases hgps : len = gpsPacketSize
  · rw [if_neg (not_not.mpr hgps)]
    exact iff_of_true trivial (Or.inl hgps)
  rw [if_pos hgps, or_iff_right hgps]
  cases hcopy : memcpy ethernetMTU stale buf (toSizeT len) with
  | none =>
    rw [memcpy_eq_none_iff] at hcopy
    apply iff_of_false not_false
    rintro ⟨hlen, hstarts, hfits⟩
    have hsize : toSizeT len = payload.length := by
      unfold toSizeT
      omega
    exact hcopy ⟨hsize ▸ hfits, hsize ▸ hstarts.length_le⟩
  | some data =>
    obtain ⟨hfits, hlength, hread⟩ := map_of_memcpy_eq_some hcopy
    -- a copy that is defined has a length without sign
    have hlen : len = toSizeT len := by
      have hmtu : ethernetMTU = 1500 := rfl
      unfold toSizeT at hfits ⊢
      omega
    have hsize : toUInt32 len = toSizeT len := by
      have hkept := toUInt32_natCast hfits
      rwa [← hlen] at hkept
    simp only [Faithful, hsize, bytes, hread, Option.some.injEq]
    constructor
    · rintro ⟨-, rfl⟩
      rw [List.length_take_of_le hlength]
      exact ⟨hlen, List.take_prefix _ _, hfits⟩
    · rintro ⟨hpayload, hstarts, -⟩
      have hn : toSizeT len = payload.length := by omega
      refine ⟨hfits, ?_⟩
      rw [hn]
      exact List.prefix_iff_eq_take.mp hstarts

/-- The size that `FillPacket` is given is an `int`. -/
theorem PcapRecord.pktSize_range (record : PcapRecord) :
    -2 ^ 31 ≤ record.pktSize ∧ record.pktSize < 2 ^ 31 := by
  unfold PcapRecord.pktSize
  constructor
  · exact Int.le_bmod (by decide)
  · exact Int.bmod_lt (by decide)

/-- A size that fits into the buffer comes from the length of the frame. -/
theorem PcapRecord.pktSize_eq_iff (record : PcapRecord) {n : Nat} (h : n ≤ ethernetMTU) :
    record.pktSize = n ↔ record.len.toNat = pktHeaderSize + n := by
  have hmtu : ethernetMTU = 1500 := rfl
  have hheader : pktHeaderSize = 42 := rfl
  have hlen := record.len.toNat_lt
  unfold PcapRecord.pktSize
  rw [Int.bmod_def]
  split <;> omega

/-- A record gives a faithful packet or none exactly if it is clean. -/
theorem parsePcap_faithful_iff (time : F) (stale : Nat → UInt8) (record : PcapRecord) :
    Faithful (some record.payload) (parsePcap time stale record) ↔ record.clean := by
  unfold parsePcap PcapRecord.clean
  rw [fillPacket_faithful_iff time stale record.pktSize_range]
  apply or_congr_right
  -- what follows the header in the captured part
  rw [PcapRecord.packetBuf, List.drop_take, List.prefix_take_iff]
  constructor
  · rintro ⟨hsize, ⟨hstarts, hcaptured⟩, hfits⟩
    exact ⟨(record.pktSize_eq_iff hfits).mp hsize, hstarts, hcaptured, hfits⟩
  · rintro ⟨hsize, hstarts, hcaptured, hfits⟩
    exact ⟨(record.pktSize_eq_iff hfits).mpr hsize, ⟨hstarts, hcaptured⟩, hfits⟩

/-! ## Scan messages -/

/-- The payload of a message: the first `size` bytes of its data, if it has as many. -/
def PandarPacketMsg.payload (msg : PandarPacketMsg) : Option (List UInt8) :=
  if msg.size ≤ msg.data.length then some (msg.data.take msg.size) else none

/-- The message is a correction file, which is passed over once one is loaded and can be read
    before, or its first bytes can be read and its size is within its data and within the
    buffer. -/
def PandarPacketMsg.clean (gotLidarCorrectionFlag : Bool) (msg : PandarPacketMsg) : Prop :=
  if isCorrectionFile msg.data = some true then
    gotLidarCorrectionFlag = true ∨ msg.correctionReadable = true
  else
    msg.data ≠ [] ∧ msg.data ≠ [0x47] ∧ msg.size ≤ msg.data.length ∧ msg.size ≤ ethernetMTU

/-- The messages of a scan are clean, each with the flag as the ones before it leave it. -/
def CleanScan : (gotLidarCorrectionFlag : Bool) → List PandarPacketMsg → Prop
  | _, [] => True
  | got, msg :: scan =>
    msg.clean got ∧ CleanScan (got || isCorrectionFile msg.data == some true) scan

theorem isCorrectionFile_eq_none_iff (data : List UInt8) :
    isCorrectionFile data = none ↔ data = [] ∨ data = [0x47] := by
  cases data with
  | nil => simp [isCorrectionFile]
  | cons b0 rest =>
    by_cases hb0 : b0 = 0x47
    · simp [isCorrectionFile, hb0]
    · simp [isCorrectionFile, hb0]

variable [CFloat F]

/-- A message gives a faithful packet or none exactly if it is clean. -/
theorem pushPacket_faithful_iff (stale : Nat → UInt8) (got : Bool) (msg : PandarPacketMsg) :
    Faithful msg.payload (pushPacket stale got msg : Ingested F) ↔ msg.clean got := by
  unfold pushPacket PandarPacketMsg.clean
  cases hbranch : isCorrectionFile msg.data with
  | none =>
    -- the first bytes cannot be read
    have hshort := (isCorrectionFile_eq_none_iff msg.data).mp hbranch
    simp only [Faithful, reduceCtorEq, ↓reduceIte]
    tauto
  | some correction =>
    have hlong : ¬(msg.data = [] ∨ msg.data = [0x47]) := by
      rw [← isCorrectionFile_eq_none_iff, hbranch]
      simp
    cases correction with
    | true =>
      -- nothing is pushed, but the branch may read past the end of the data
      simp only [↓reduceIte, ← Bool.or_eq_true]
      split
      · next hread => exact iff_of_true trivial hread
      · next hread => exact iff_of_false not_false hread
    | false =>
      rw [not_or] at hlong
      simp only [Option.some.injEq, Bool.false_eq_true, ↓reduceIte, hlong, ne_eq,
        not_false_eq_true, true_and]
      -- the copy decides: it is defined exactly if the size is within both arrays
      cases hcopy : memcpy ethernetMTU stale msg.data msg.size with
      | none =>
        rw [memcpy_eq_none_iff] at hcopy
        simp only [Faithful]
        tauto
      | some data =>
        obtain ⟨hfits, hlength, hread⟩ := map_of_memcpy_eq_some hcopy
        simp only [Faithful, PandarPacketMsg.payload, if_pos hlength, bytes, hread]
        tauto

/-- A scan gives only faithful packets exactly if all its messages are clean. -/
theorem pushScanPacket_faithful_iff (stale : Nat → UInt8) (got : Bool)
    (scan : List PandarPacketMsg) :
    List.Forall₂ (fun msg (r : Ingested F) => Faithful msg.payload r) scan
        (pushScanPacket stale got scan) ↔ CleanScan got scan := by
  induction scan generalizing got with
  | nil => exact iff_of_true List.Forall₂.nil trivial
  | cons msg scan ih =>
    rw [pushScanPacket, List.forall₂_cons, pushPacket_faithful_iff, ih, CleanScan]

/-! ## All inputs -/

/-- Each of the three inputs pushes faithful packets exactly on its clean sources. -/
theorem ingestion_faithful_iff (time : F) (stale : Nat → UInt8) :
    (∀ outcome : PollOutcome,
      Faithful outcome.payload (recvTask time stale outcome) ↔ outcome.clean) ∧
    (∀ record : PcapRecord,
      Faithful (some record.payload) (parsePcap time stale record) ↔ record.clean) ∧
    (∀ (got : Bool) (scan : List PandarPacketMsg),
      List.Forall₂ (fun msg (r : Ingested F) => Faithful msg.payload r) scan
        (pushScanPacket stale got scan) ↔ CleanScan got scan) := by
  refine ⟨?_, ?_, ?_⟩
  · intro outcome
    exact recvTask_faithful_iff time stale outcome
  · intro record
    exact parsePcap_faithful_iff time stale record
  · intro got scan
    exact pushScanPacket_faithful_iff stale got scan

/-- A socket that is ready and then has nothing to read. -/
def wouldBlock : PollOutcome where
  retval := 1
  fd0 := ⟨true, false, false, false, .error ewouldblock⟩
  fd1 := none

/-- The receive call returns `-1`, and a packet of `4294967295` bytes is pushed. -/
theorem wouldBlock_pushed :
    ¬ ∀ (time : Rat) (stale : Nat → UInt8),
      (∀ outcome : PollOutcome, Faithful outcome.payload (recvTask time stale outcome)) ∧
      (∀ record : PcapRecord,
        Faithful (some record.payload) (parsePcap time stale record)) ∧
      (∀ (got : Bool) (scan : List PandarPacketMsg),
        List.Forall₂ (fun msg (r : Ingested Rat) => Faithful msg.payload r) scan
          (pushScanPacket stale got scan)) := by
  intro hclaim
  -- the faithful packet would have a size of at most `1500`
  have hsize : 2 ^ 32 - 1 ≤ ethernetMTU := ((hclaim 0 fun _ => 0).1 wouldBlock).1
  exact absurd hsize (by decide)

end Hesai
