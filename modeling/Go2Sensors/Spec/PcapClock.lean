import Go2Sensors.Native.Launch
import Go2Sensors.Native.PcapReader
import Go2Sensors.Spec.PacketBytes

/-!
# The clock of a packet

The parsers find the clock of a packet behind the blocks that they have walked
(`clock_of_parseData`), the reader of captures at fixed places for each type of lidar. The
places are right for a packet with as many blocks and lasers as the lidar usually sends, and
for no other one: a Pandar64 sends packets of seven blocks too.

## Key results

- `clock_of_parseData`: where a header-driven parser finds the clock
- `pcap_clock_iff`: when the reader and the parser use the same bytes
- `seven_blocks_other_clock`: a packet of seven blocks
-/

namespace Hesai

open Traced

/-! ## Lidar types -/

/-- The parser of a lidar type. -/
def parseType (charSigned : Bool) (lidarType : String) (recvbuf : Nat → UInt8) (len : Nat) :
    Option ParsedPacket :=
  match lidarType with
  | "Pandar40P" | "Pandar40M" => (parseRawData recvbuf len).val.map .pandar40P
  | "Pandar64" => (parseL64Data charSigned recvbuf len).val.map .l64
  | "Pandar20A" | "Pandar20B" => (parseL20Data charSigned recvbuf len).val.map .l20
  | "PandarQT" => (parseQTData charSigned recvbuf len).val.map .qt
  | "PandarXT-32" | "PandarXT-16" | "PandarXTM" =>
    (parseXTData charSigned recvbuf len).val.map .xt
  | _ => none

/-- The layout of its packets, `none` where it is fixed. -/
def formatOf : String → Option Format
  | "Pandar64" => some l64Format
  | "Pandar20A" | "Pandar20B" => some l20Format
  | "PandarQT" => some qtFormat
  | "PandarXT-32" | "PandarXT-16" | "PandarXTM" => some xtFormat
  | _ => none

/-- The blocks, and the lasers of a block, behind which `initTimeIndexMap` has the clock. -/
def mappedCounts : String → Nat × Nat
  | "Pandar64" => (6, 64)
  | "Pandar20A" | "Pandar20B" => (20, 20)
  | "PandarQT" => (4, 64)
  | "PandarXT-32" => (8, 32)
  | "PandarXT-16" => (8, 16)
  | "PandarXTM" => (6, 32)
  | _ => (0, 0)

/-- The end of that many blocks. -/
def mappedEnd (fmt : Format) (lidarType : String) : Nat :=
  fmt.headSize + (mappedCounts lidarType).1 *
    (fmt.blockHeaderAzimuth + (mappedCounts lidarType).2 * fmt.unitSize)

/-! ## The same bytes -/

/-- The clock of a parsed packet is made of these bytes. -/
def ParsedPacket.TakenFrom (clock : List Nat × Nat) : ParsedPacket → Prop
  | .pandar40P pkt => pkt.t = toTm clock.1 ∧ pkt.usec = clock.2 % 1000000
  | .l64 pkt | .l20 pkt | .qt pkt | .xt pkt => pkt.addtime = clock.1 ∧ pkt.timestamp = clock.2

/-- A read inside the packet. -/
def Access.Inside (len : Nat) : Access → Prop
  | .read i => i < len
  | .block _ | .unit _ _ => True

/-- The reader of captures uses the bytes that the parser uses: whatever is behind the header
    of the packet, the clock that the parser makes of it is the one that the reader reads.
    And these bytes are inside the packet. -/
structure SameClock (charSigned : Bool) (lidarType : String) (recvbuf : Nat → UInt8)
    (len : Nat) : Prop where
  taken : ∀ packet : Nat → UInt8,
    (∀ fmt ∈ formatOf lidarType, ∀ i < fmt.headSize, packet i = recvbuf i) →
    ∀ pkt, parseType charSigned lidarType packet len = some pkt →
      pkt.TakenFrom ((PcapReader.new lidarType).readClock packet).val
  inside : All (Access.Inside len) ((PcapReader.new lidarType).readClock recvbuf)

/-! ## Where the parsers find the clock -/

variable {fmt : Format} {charSigned : Bool} {recvbuf recvbuf' : Nat → UInt8} {len : Nat}

/-- A header-driven parser finds the clock behind the blocks. -/
theorem clock_of_parseData {pkt : LidarPacket}
    (h : (parseData fmt charSigned recvbuf len).val = some pkt) :
    pkt.addtime = (readAddtime recvbuf (blocksEnd fmt charSigned recvbuf + fmt.utcOffset)).val ∧
      pkt.timestamp =
        (readUInt32LE recvbuf (blocksEnd fmt charSigned recvbuf + fmt.timestampOffset)).val := by
  unfold parseData at h
  split at h
  · exact absurd h (Option.some_ne_none _).symm
  · rw [val_bind] at h
    split at h
    · exact absurd h (Option.some_ne_none _).symm
    · rw [← Option.some.inj h]
      -- the index after the block loop
      simp only [parseBlocks_index, val_parseHeader_laserNumber, val_parseHeader_blockNumber,
        blocksEnd, and_self]

/-- The parser of Pandar40 packets finds it at a fixed place. -/
theorem clock_of_parseRawData {pkt : Pandar40PPacket}
    (h : (parseRawData recvbuf len).val = some pkt) :
    pkt.t = toTm (readAddtime recvbuf 1256).val ∧
      pkt.usec = (readUInt32LE recvbuf 1250).val % 1000000 := by
  unfold parseRawData at h
  split at h
  · exact absurd h (Option.some_ne_none _).symm
  · rw [← Option.some.inj h]
    simp only [parseBlocks_index]
    exact ⟨rfl, rfl⟩

/-- The blocks end where the header says. -/
theorem blocksEnd_congr (h : ∀ i < fmt.headSize, recvbuf' i = recvbuf i) :
    blocksEnd fmt charSigned recvbuf' = blocksEnd fmt charSigned recvbuf := by
  have hhead := fmt.head_le
  simp only [blocksEnd, headerBlocks, headerLasers, h fmt.laserNumberIndex (by omega),
    h (fmt.laserNumberIndex + 1) (by omega)]

theorem sobOk_congr (h : ∀ i < fmt.headSize, recvbuf' i = recvbuf i) (hsob : SobOk recvbuf) :
    SobOk recvbuf' := by
  have hhead := fmt.head_le
  unfold SobOk
  rw [h 0 (by omega), h 1 (by omega)]
  exact hsob

/-- The packet with the same header, and behind it a single byte `1` at `place`. -/
def onlyByteAt (headSize : Nat) (recvbuf : Nat → UInt8) (place : Nat) : Nat → UInt8 :=
  fun i => if i < headSize then recvbuf i else if i = place then 1 else 0

/-- Only at its own place this byte is read as the number `1`. -/
theorem readUInt32LE_onlyByteAt {headSize place i : Nat} (hi : headSize ≤ i)
    (h : (readUInt32LE (onlyByteAt headSize recvbuf place) i).val = 1) : i = place := by
  have hbyte : ∀ k, onlyByteAt headSize recvbuf place (i + k) = if i + k = place then 1 else 0 :=
    fun k => if_neg (by omega)
  by_contra hne
  have hfirst : (onlyByteAt headSize recvbuf place i).toNat = 0 := by
    rw [onlyByteAt, if_neg (by omega), if_neg hne]
    rfl
  simp only [readUInt32LE, readByte, val_bind, val_pure, hfirst, hbyte] at h
  -- the other three bytes count for more than `1`
  repeat' split at h
  all_goals exact absurd h (by decide)

theorem readUInt32LE_place {headSize place : Nat} (hplace : headSize ≤ place) :
    (readUInt32LE (onlyByteAt headSize recvbuf place) place).val = 1 := by
  have hfirst : onlyByteAt headSize recvbuf place place = 1 := by
    rw [onlyByteAt, if_neg (by omega), if_pos rfl]
  have hrest : ∀ k, 0 < k → onlyByteAt headSize recvbuf place (place + k) = 0 := by
    intro k hk
    rw [onlyByteAt, if_neg (by omega), if_neg (by omega)]
  simp only [readUInt32LE, readByte, val_bind, val_pure, hfirst, hrest 1 (by omega),
    hrest 2 (by omega), hrest 3 (by omega)]
  decide

/-! ## The reader and the parser -/

theorem inside_readClock {reader : PcapReader} (hutc : reader.utcIndex + 6 ≤ len)
    (hts : reader.tsIndex + 4 ≤ len) : All (Access.Inside len) (reader.readClock recvbuf) := by
  simp only [PcapReader.readClock, all_bind, all_readAddtime, all_readUInt32LE, All.pure, and_true]
  refine ⟨fun k hk => ?_, fun k hk => ?_⟩
  · show _ < len
    omega
  · show _ < len
    omega

/-- The clock of a packet of a header-driven family. -/
theorem IsFamily.takenFrom_iff {parsed : LidarPacket → ParsedPacket}
    (hfamily : IsFamily fmt parsed) (pkt : LidarPacket) (clock : List Nat × Nat) :
    (parsed pkt).TakenFrom clock ↔ pkt.addtime = clock.1 ∧ pkt.timestamp = clock.2 := by
  cases hfamily <;> rfl

/-- For a lidar type with a header the bytes are the same exactly if the blocks end where the
    map has them end. -/
theorem sameClock_iff_blocksEnd {lidarType : String} {parsed : LidarPacket → ParsedPacket}
    (hformat : formatOf lidarType = some fmt) (hfamily : IsFamily fmt parsed)
    (hparse : ∀ packet, parseType charSigned lidarType packet len =
      (parseData fmt charSigned packet len).val.map parsed)
    (hutc : (PcapReader.new lidarType).utcIndex = mappedEnd fmt lidarType + fmt.utcOffset)
    (hts : (PcapReader.new lidarType).tsIndex = mappedEnd fmt lidarType + fmt.timestampOffset)
    (haccept : (parseType charSigned lidarType recvbuf len).isSome)
    (hfits : ∀ fmt ∈ formatOf lidarType, CountsFit fmt recvbuf len) :
    SameClock charSigned lidarType recvbuf len ↔
      blocksEnd fmt charSigned recvbuf = mappedEnd fmt lidarType := by
  -- the parser accepts, so the length and the start are right
  have hlen : len ∈ fmt.lengths := by
    by_contra hlen
    rw [hparse, parseData, if_pos hlen] at haccept
    exact absurd haccept Bool.false_ne_true
  have hsob : SobOk recvbuf := by
    rw [hparse, Option.isSome_map] at haccept
    exact (parseData_isSome fmt charSigned hlen).mp haccept
  constructor
  · rintro ⟨htaken, -⟩
    -- a packet with a single `1` where the parser finds the microseconds
    have hplace : fmt.headSize ≤ blocksEnd fmt charSigned recvbuf + fmt.timestampOffset := by
      unfold blocksEnd
      omega
    let packet := onlyByteAt fmt.headSize recvbuf
      (blocksEnd fmt charSigned recvbuf + fmt.timestampOffset)
    have hheader : ∀ i < fmt.headSize, packet i = recvbuf i := fun i hi => if_pos hi
    obtain ⟨pkt, hpkt⟩ := Option.isSome_iff_exists.mp
      ((parseData_isSome fmt charSigned hlen).mpr (sobOk_congr hheader hsob))
    have hone : pkt.timestamp = 1 := by
      rw [(clock_of_parseData hpkt).2, blocksEnd_congr hheader]
      exact readUInt32LE_place hplace
    -- and the reader reads the same number
    have hread : pkt.timestamp = (readUInt32LE packet (PcapReader.new lidarType).tsIndex).val := by
      have hclock := htaken packet (by simpa [hformat] using hheader) (parsed pkt)
        (by rw [hparse, hpkt, Option.map_some])
      exact ((hfamily.takenFrom_iff pkt _).mp hclock).2
    have hsame := readUInt32LE_onlyByteAt (by rw [hts]; unfold mappedEnd; omega)
      (hread.symm.trans hone)
    rw [hts] at hsame
    omega
  · intro hend
    constructor
    · intro packet hheader pkt hpkt
      rw [hparse] at hpkt
      obtain ⟨pkt', hpkt', rfl⟩ := Option.map_eq_some_iff.mp hpkt
      -- with the same end the indices of both are the same
      have hclock := clock_of_parseData hpkt'
      rw [blocksEnd_congr (hheader fmt hformat), hend, ← hutc, ← hts] at hclock
      exact (hfamily.takenFrom_iff pkt' _).mpr hclock
    · have hinside := blocksEnd_le fmt charSigned (hfits fmt hformat)
      unfold Format.tailSize at hinside
      apply inside_readClock
      · omega
      · omega

/-- The same for the layout of the lidar type. -/
theorem sameClock_of_family {lidarType : String} {parsed : LidarPacket → ParsedPacket}
    (hformat : formatOf lidarType = some fmt) (hfamily : IsFamily fmt parsed)
    (hparse : ∀ packet, parseType charSigned lidarType packet len =
      (parseData fmt charSigned packet len).val.map parsed)
    (hutc : (PcapReader.new lidarType).utcIndex = mappedEnd fmt lidarType + fmt.utcOffset)
    (hts : (PcapReader.new lidarType).tsIndex = mappedEnd fmt lidarType + fmt.timestampOffset)
    (haccept : (parseType charSigned lidarType recvbuf len).isSome)
    (hfits : ∀ fmt ∈ formatOf lidarType, CountsFit fmt recvbuf len) :
    SameClock charSigned lidarType recvbuf len ↔
      ∀ fmt ∈ formatOf lidarType, blocksEnd fmt charSigned recvbuf = mappedEnd fmt lidarType := by
  rw [sameClock_iff_blocksEnd hformat hfamily hparse hutc hts haccept hfits, hformat]
  simp only [Option.mem_def, Option.some.injEq, forall_eq']

/-- The Pandar40 types have their clock at the fixed place. -/
theorem sameClock_of_raw {lidarType : String} (hparse : ∀ packet,
      parseType charSigned lidarType packet len = (parseRawData packet len).val.map .pandar40P)
    (hreader : PcapReader.new lidarType = ⟨1250, 1256⟩)
    (haccept : (parseType charSigned lidarType recvbuf len).isSome) :
    SameClock charSigned lidarType recvbuf len := by
  have hlen : 1262 ≤ len := by
    have hsizes : packetSize = 1262 ∧ seqNumSize = 4 := ⟨rfl, rfl⟩
    by_contra hshort
    have hmismatch : (len != packetSize && len != packetSize + seqNumSize) = true := by
      simp only [Bool.and_eq_true, bne_iff_ne]
      omega
    rw [hparse, parseRawData, if_pos hmismatch] at haccept
    exact absurd haccept (by decide)
  constructor
  · intro packet _ pkt hpkt
    rw [hparse] at hpkt
    obtain ⟨pkt', hpkt', rfl⟩ := Option.map_eq_some_iff.mp hpkt
    rw [hreader]
    exact clock_of_parseRawData hpkt'
  · rw [hreader]
    have hts : 1250 + 4 ≤ len := by omega
    exact inside_readClock hlen hts

/-- For every lidar type of the map and every packet that its parser accepts, with counts
    that fit the length: the reader of captures and the parser use the same bytes, and these
    are inside the packet, exactly if the blocks of the packet end where the map has them end.
    A Pandar40 packet has no other layout. -/
theorem pcap_clock_iff (charSigned : Bool) (lidarType : String)
    (hmap : lidarType ∈ initTimeIndexMap.map Prod.fst) (recvbuf : Nat → UInt8) (len : Nat)
    (haccept : (parseType charSigned lidarType recvbuf len).isSome)
    (hfits : ∀ fmt ∈ formatOf lidarType, CountsFit fmt recvbuf len) :
    SameClock charSigned lidarType recvbuf len ↔
      ∀ fmt ∈ formatOf lidarType, blocksEnd fmt charSigned recvbuf = mappedEnd fmt lidarType := by
  simp only [initTimeIndexMap, List.map_cons, List.map_nil, List.mem_cons, List.not_mem_nil,
    or_false] at hmap
  rcases hmap with rfl | rfl | rfl | rfl | rfl | rfl | rfl | rfl | rfl
  · exact iff_of_true (sameClock_of_raw (fun _ => rfl) (by decide) haccept) (by simp [formatOf])
  · exact iff_of_true (sameClock_of_raw (fun _ => rfl) (by decide) haccept) (by simp [formatOf])
  · exact sameClock_of_family rfl .l64 (fun _ => rfl) (by decide) (by decide) haccept hfits
  · exact sameClock_of_family rfl .qt (fun _ => rfl) (by decide) (by decide) haccept hfits
  · exact sameClock_of_family rfl .l20 (fun _ => rfl) (by decide) (by decide) haccept hfits
  · exact sameClock_of_family rfl .l20 (fun _ => rfl) (by decide) (by decide) haccept hfits
  · exact sameClock_of_family rfl .xt (fun _ => rfl) (by decide) (by decide) haccept hfits
  · exact sameClock_of_family rfl .xt (fun _ => rfl) (by decide) (by decide) haccept hfits
  · exact sameClock_of_family rfl .xt (fun _ => rfl) (by decide) (by decide) haccept hfits

/-- The places of the map are right for the packets of the launched lidar. -/
theorem pcap_clock_xt16 :
    SameClock true "PandarXT-16" (xt16Packet (fun _ => 0) fun _ => 1000).data
      hsLidarXT16PacketSize :=
  (pcap_clock_iff true "PandarXT-16" (by decide) (xt16Packet (fun _ => 0) fun _ => 1000).data
    hsLidarXT16PacketSize (by decide +kernel) (by decide +kernel)).mpr (by decide +kernel)

/-- A Pandar64 packet of seven blocks of 64 lasers. -/
def sevenBlocks : Nat → UInt8
  | 0 => 0xEE
  | 1 => 0xFF
  | 2 => 64
  | 3 => 7
  | _ => 0

/-- The clock of this packet is behind its seventh block, and the reader takes the bytes
    behind the sixth one. -/
theorem seven_blocks_other_clock :
    ¬ ∀ (charSigned : Bool) (lidarType : String) (recvbuf : Nat → UInt8) (len : Nat),
      lidarType ∈ initTimeIndexMap.map Prod.fst →
      (parseType charSigned lidarType recvbuf len).isSome →
      (∀ fmt ∈ formatOf lidarType, CountsFit fmt recvbuf len) →
      SameClock charSigned lidarType recvbuf len := by
  intro hclaim
  have haccept : (parseType true "Pandar64" sevenBlocks hsLidarL64Packet7Size).isSome := by
    have hparse : parseType true "Pandar64" sevenBlocks hsLidarL64Packet7Size =
        (parseData l64Format true sevenBlocks hsLidarL64Packet7Size).val.map .l64 := rfl
    rw [hparse, Option.isSome_map]
    exact (parseData_isSome l64Format true (by decide)).mpr (by decide)
  have hfits : ∀ fmt ∈ formatOf "Pandar64", CountsFit fmt sevenBlocks hsLidarL64Packet7Size := by
    decide
  have hsame := hclaim true "Pandar64" sevenBlocks hsLidarL64Packet7Size (by decide) haccept hfits
  have hend := (sameClock_iff_blocksEnd rfl .l64 (fun _ => rfl) (by decide) (by decide)
    haccept hfits).mp hsame
  exact absurd hend (by decide)

end Hesai
