import Go2Sensors.Spec.ThreadSteps

/-!
# A packet is its bytes

The parsers look at nothing but the bytes that they record as read. Two packets of one size
that agree on their bytes are parsed alike, whatever lies behind them, as long as the counts
of the header fit the length: otherwise the parser goes on into that memory.

## Key results

- `local_parseData`, `local_parseRawData`: a parser depends on the bytes that it reads
- `parsePacket_eq_of_sameBytes`: packets with the same bytes are parsed alike
-/

namespace Hesai

open Traced

/-! ## Parsers are local -/

/-- Two buffers agree on the byte that is read. -/
def Access.Agree : Access → (Nat → UInt8) → (Nat → UInt8) → Prop
  | .read i, recvbuf, recvbuf' => recvbuf i = recvbuf' i
  | .block _, _, _ | .unit _ _, _, _ => True

theorem local_readByte (i : Nat) : Local Access.Agree fun recvbuf => readByte recvbuf i := by
  intro recvbuf recvbuf' h
  have hbyte : recvbuf i = recvbuf' i := all_readByte.mp h
  simp only [readByte, hbyte]

theorem local_readUInt16LE (i : Nat) :
    Local Access.Agree fun recvbuf => readUInt16LE recvbuf i :=
  (local_readByte i).bind fun _ => (local_readByte (i + 1)).bind fun _ => Local.const _

theorem local_readUInt16BE (i : Nat) :
    Local Access.Agree fun recvbuf => readUInt16BE recvbuf i :=
  (local_readByte i).bind fun _ => (local_readByte (i + 1)).bind fun _ => Local.const _

theorem local_readUInt32LE (i : Nat) :
    Local Access.Agree fun recvbuf => readUInt32LE recvbuf i :=
  (local_readByte i).bind fun _ => (local_readByte (i + 1)).bind fun _ =>
    (local_readByte (i + 2)).bind fun _ => (local_readByte (i + 3)).bind fun _ => Local.const _

theorem local_readAddtime (i : Nat) :
    Local Access.Agree fun recvbuf => readAddtime recvbuf i :=
  (local_readByte i).bind fun _ => (local_readByte (i + 1)).bind fun _ =>
    (local_readByte (i + 2)).bind fun _ => (local_readByte (i + 3)).bind fun _ =>
      (local_readByte (i + 4)).bind fun _ => (local_readByte (i + 5)).bind fun _ => Local.const _

theorem local_readChar (charSigned : Bool) (i : Nat) :
    Local Access.Agree fun recvbuf => readChar charSigned recvbuf i :=
  (local_readByte i).bind fun _ => Local.const _

/-- The unit loop. -/
theorem local_parseUnits {readUnit : (Nat → UInt8) → Nat → Traced Access LidarUnit}
    (hread : ∀ index, Local Access.Agree fun recvbuf => readUnit recvbuf index)
    (unitSize block n unit index : Nat) :
    Local Access.Agree fun recvbuf =>
      parseUnits (readUnit recvbuf) unitSize block n unit index := by
  induction n generalizing unit index with
  | zero => exact Local.const _
  | succ n ih =>
    simp only [parseUnits]
    exact (hread index).bind fun _ => (Local.const _).bind fun _ =>
      (ih (unit + 1) (index + unitSize)).bind fun _ => Local.const _

/-- The block loop. -/
theorem local_parseBlocks {readAzimuth : (Nat → UInt8) → Nat → Traced Access Nat}
    {readUnit : (Nat → UInt8) → Nat → Traced Access LidarUnit}
    (hazimuth : ∀ index, Local Access.Agree fun recvbuf => readAzimuth recvbuf index)
    (hread : ∀ index, Local Access.Agree fun recvbuf => readUnit recvbuf index)
    (headerSize unitSize unitNum n block index : Nat) :
    Local Access.Agree fun recvbuf =>
      parseBlocks (readAzimuth recvbuf) (readUnit recvbuf) headerSize unitSize unitNum n block
        index := by
  induction n generalizing block index with
  | zero => exact Local.const _
  | succ n ih =>
    simp only [parseBlocks]
    exact (hazimuth index).bind fun _ => (Local.const _).bind fun _ =>
      (local_parseUnits hread unitSize block unitNum 0 (index + headerSize)).bind fun units =>
        (ih (block + 1) units.2).bind fun _ => Local.const _

theorem local_parseHeader (fmt : Format) (charSigned : Bool) :
    Local Access.Agree fun recvbuf => parseHeader fmt charSigned recvbuf := by
  have hchar := local_readChar charSigned
  exact (local_readUInt16BE 0).bind fun _ => ((hchar 2).onlyIf 0).bind fun _ =>
    ((hchar 3).onlyIf 0).bind fun _ => (hchar fmt.laserNumberIndex).bind fun _ =>
      (hchar (fmt.laserNumberIndex + 1)).bind fun _ =>
        (hchar (fmt.laserNumberIndex + 2)).bind fun _ =>
          (hchar (fmt.laserNumberIndex + 3)).bind fun _ => Local.const _

theorem local_parseUnit (fmt : Format) (disUnit : Int) (index : Nat) :
    Local Access.Agree fun recvbuf => parseUnit fmt recvbuf disUnit index :=
  (local_readUInt16LE index).bind fun _ => (local_readByte (index + 2)).bind fun _ =>
    ((local_readByte (index + 3)).onlyIf 0).bind fun _ => Local.const _

/-- A header-driven parser depends on the bytes that it reads. -/
theorem local_parseData (fmt : Format) (charSigned : Bool) (len : Nat) :
    Local Access.Agree fun recvbuf => parseData fmt charSigned recvbuf len := by
  unfold parseData
  -- a wrong length: nothing is read
  apply (Local.const _).ite
  apply (local_parseHeader fmt charSigned).bind
  intro header
  -- a wrong start, which depends on the first two bytes
  apply (Local.const _).ite
  apply (local_parseBlocks local_readUInt16LE (local_parseUnit fmt header.chDisUnit)
    _ _ _ _ _ _).bind
  intro blocks
  exact (local_readUInt32LE _).bind fun _ => (local_readByte _).bind fun _ =>
    (local_readAddtime _).bind fun _ => Local.const _

/-- So does the parser of Pandar40 packets. -/
theorem local_parseRawData (len : Nat) :
    Local Access.Agree fun buf => parseRawData buf len := by
  -- the start of a block is read, but not checked
  have hazimuth : ∀ index, Local Access.Agree fun buf => parseRawAzimuth buf index :=
    fun index => (local_readUInt16LE index).bind fun _ => local_readUInt16LE (index + 2)
  have hunit : ∀ index, Local Access.Agree fun buf => parseRawUnit buf index :=
    fun index => (local_readUInt16LE index).bind fun _ =>
      (local_readByte (index + 2)).bind fun _ => Local.const _
  unfold parseRawData
  apply (Local.const _).ite
  apply (local_parseBlocks hazimuth hunit _ _ _ _ _ _).bind
  intro blocks
  exact (local_readUInt32LE _).bind fun _ => (local_readByte _).bind fun _ =>
    (local_readAddtime _).bind fun _ => Local.const _

/-! ## Packets with the same bytes -/

/-- Two packets of one size with the same bytes. -/
structure PandarPacket.SameBytes {F : Type} (packet packet' : PandarPacket F) : Prop where
  size : packet.size = packet'.size
  data : ∀ i < packet.size, packet.data i = packet'.data i

variable {recvbuf recvbuf' : Nat → UInt8}

/-- Bytes up to the length are all that is read of a packet whose counts fit. -/
theorem parseData_eq_of_bytes (fmt : Format) (charSigned : Bool) {len : Nat}
    (hlen : len ∈ fmt.lengths) (hfit : CountsFit fmt recvbuf len)
    (hloops : LoopsFit fmt charSigned recvbuf) (hsob : SobOk recvbuf)
    (hbytes : ∀ i < len, recvbuf i = recvbuf' i) :
    parseData fmt charSigned recvbuf' len = parseData fmt charSigned recvbuf len := by
  apply local_parseData fmt charSigned len
  -- all reads are below the length, where the buffers agree
  refine All.mono (inBounds_of_fits fmt charSigned hlen hsob hfit hloops) ?_
  intro access hinside
  cases access with
  | read i => exact hbytes i hinside
  | block | unit => trivial

/-- A Pandar40 packet has a fixed layout: only its first `1262` bytes are read. -/
theorem all_parseRawData {P : Access → Prop} (len : Nat) (hread : ∀ i < packetSize, P (.read i))
    (hstore : ∀ block unit, P (.block block) ∧ P (.unit block unit)) :
    All P (parseRawData recvbuf len) := by
  have hsize : packetSize = 1262 := rfl
  rw [hsize] at hread
  unfold parseRawData
  split
  · exact All.pure _
  simp only [all_bind, all_parseBlocks, parseRawAzimuth, parseRawUnit, all_readUInt16LE,
    all_readByte, all_readUInt32LE, all_readAddtime, All.pure, parseBlocks_index, and_true,
    sobAngleSize, rawMeasureSize, laserCount, blocksPerPacket, reserveSize, revolutionSize,
    timestampSize, factoryInfoSize, echoSize]
  -- the blocks with their units, and then timestamp, echo and date
  refine ⟨fun k hk => ⟨⟨⟨?_, ?_⟩, ?_, ?_⟩, (hstore _ 0).1, fun j hj => ⟨⟨⟨?_, ?_⟩, ?_⟩, ?_⟩⟩,
    fun k hk => ?_, ?_, fun k hk => ?_⟩
  case refine_8 => exact (hstore _ j).2
  all_goals
    apply hread
    omega

/-- So nothing else matters. -/
theorem parseRawData_eq_of_bytes {len : Nat} (hbytes : ∀ i < packetSize, recvbuf i = recvbuf' i) :
    parseRawData recvbuf' len = parseRawData recvbuf len :=
  local_parseRawData len _ _ (all_parseRawData len hbytes fun _ _ => ⟨trivial, trivial⟩)

variable {F : Type} {cfg : Config F} {packet packet' : PandarPacket F}

/-- The header-driven families: the layout of a packet, and what it is parsed to. -/
inductive IsFamily : Format → (LidarPacket → ParsedPacket) → Prop
  | l64 : IsFamily l64Format .l64
  | l20 : IsFamily l20Format .l20
  | qt : IsFamily qtFormat .qt
  | xt : IsFamily xtFormat .xt

variable {fmt : Format} {parsed : LidarPacket → ParsedPacket}

/-- The counts of an accepted packet of the family fit. -/
theorem IsFamily.fits (hfamily : IsFamily fmt parsed) {pkt : LidarPacket}
    (hparse : parsePacket cfg packet = some (parsed pkt)) (hfits : acceptedFits cfg packet = true) :
    CountsFit fmt packet.data packet.size ∧ LoopsFit fmt cfg.charSigned packet.data := by
  cases hfamily <;> simpa [acceptedFits, hparse] using hfits

/-- In the branch of a family what lies behind the bytes does not matter. -/
theorem IsFamily.parseData_eq (hfamily : IsFamily fmt parsed) (hlen : packet.size ∈ fmt.lengths)
    (hsame : packet.SameBytes packet') (hfits : acceptedFits cfg packet = true)
    (hparse : parsePacket cfg packet =
      (parseData fmt cfg.charSigned packet.data packet.size).val.map parsed) :
    (parseData fmt cfg.charSigned packet'.data packet.size).val.map parsed =
      parsePacket cfg packet := by
  cases hresult : (parseData fmt cfg.charSigned packet.data packet.size).val with
  | none =>
    -- the packet would not be accepted
    rw [hresult, Option.map_none] at hparse
    simp [acceptedFits, hparse] at hfits
  | some pkt =>
    have hsob : SobOk packet.data :=
      (parseData_isSome fmt cfg.charSigned hlen).mp (by rw [hresult]; rfl)
    have hsome : parsePacket cfg packet = some (parsed pkt) := by
      rw [hparse, hresult, Option.map_some]
    obtain ⟨hcounts, hloops⟩ := hfamily.fits hsome hfits
    rw [parseData_eq_of_bytes fmt cfg.charSigned hlen hcounts hloops hsob hsame.data, hparse]

/-- What lies behind the bytes of an accepted packet whose counts fit does not matter. -/
theorem parsePacket_eq_of_sameBytes (hsame : packet.SameBytes packet')
    (hfits : acceptedFits cfg packet = true) :
    parsePacket cfg packet' = parsePacket cfg packet := by
  -- both packets have one size, and so take the same branch
  conv_lhs => unfold parsePacket
  rw [← hsame.size]
  split
  · next h40 =>
    have hbytes : ∀ i < packetSize, packet.data i = packet'.data i := by
      intro i hi
      apply hsame.data
      rcases h40 with hsize | hsize <;> omega
    rw [parseRawData_eq_of_bytes hbytes, parsePacket, if_pos h40]
  next h40 =>
  split
  · next h64 =>
    have hlen : packet.size ∈ l64Format.lengths := by
      simp only [l64Format, List.mem_cons]
      tauto
    apply IsFamily.l64.parseData_eq hlen hsame hfits
    rw [parsePacket, if_neg h40, if_pos h64]
    rfl
  next h64 =>
  split
  · next h20 =>
    have hlen : packet.size ∈ l20Format.lengths := List.mem_singleton.mpr h20
    apply IsFamily.l20.parseData_eq hlen hsame hfits
    rw [parsePacket, if_neg h40, if_neg h64, if_pos h20]
    rfl
  next h20 =>
  split
  · next hqt =>
    have hlen : packet.size ∈ qtFormat.lengths := by
      simp only [qtFormat, List.mem_cons]
      tauto
    apply IsFamily.qt.parseData_eq hlen hsame hfits
    rw [parsePacket, if_neg h40, if_neg h64, if_neg h20, if_pos hqt]
    rfl
  next hqt =>
  split
  · next hxt =>
    have hlen : packet.size ∈ xtFormat.lengths := by
      simp only [xtFormat, List.mem_cons]
      tauto
    apply IsFamily.xt.parseData_eq hlen hsame hfits
    rw [parsePacket, if_neg h40, if_neg h64, if_neg h20, if_neg hqt, if_pos hxt]
    rfl
  · next hxt => rw [parsePacket, if_neg h40, if_neg h64, if_neg h20, if_neg hqt, if_neg hxt]

/-- The lengths that a parser admits. -/
def acceptedSizes : List Nat :=
  [packetSize, packetSize + seqNumSize] ++ l64Format.lengths ++ l20Format.lengths ++
    qtFormat.lengths ++ xtFormat.lengths

/-- A packet that is accepted has the length of a parser. -/
theorem size_mem_acceptedSizes {pkt : ParsedPacket} (h : parsePacket cfg packet = some pkt) :
    packet.size ∈ acceptedSizes := by
  by_contra hsize
  -- no test of parsePacket succeeds
  simp only [acceptedSizes, l64Format, l20Format, qtFormat, xtFormat, List.mem_append,
    List.mem_cons, List.not_mem_nil, or_false, not_or] at hsize
  simp [parsePacket, hsize] at h

/-- An accepted packet has two bytes at least, and fits the array of a packet. -/
theorem size_of_parsePacket {pkt : ParsedPacket} (h : parsePacket cfg packet = some pkt) :
    2 ≤ packet.size ∧ packet.size ≤ ethernetMTU := by
  have hall : ∀ n ∈ acceptedSizes, 2 ≤ n ∧ n ≤ ethernetMTU := by decide
  exact hall _ (size_mem_acceptedSizes h)

/-- The packet is what the parser of its family returned. -/
def ParsedBy (cfg : Config F) (packet : PandarPacket F) : ParsedPacket → Prop
  | .pandar40P pkt => (parseRawData packet.data packet.size).val = some pkt
  | .l64 pkt => (parseL64Data cfg.charSigned packet.data packet.size).val = some pkt
  | .l20 pkt => (parseL20Data cfg.charSigned packet.data packet.size).val = some pkt
  | .qt pkt => (parseQTData cfg.charSigned packet.data packet.size).val = some pkt
  | .xt pkt => (parseXTData cfg.charSigned packet.data packet.size).val = some pkt

/-- An accepted packet comes from one of the five parsers. -/
theorem parsedBy_of_parsePacket {pkt : ParsedPacket} (h : parsePacket cfg packet = some pkt) :
    ParsedBy cfg packet pkt := by
  unfold parsePacket at h
  repeat' split at h
  all_goals
    first
      | exact absurd h (Option.some_ne_none _).symm
      | obtain ⟨pkt', hparse, rfl⟩ := Option.map_eq_some_iff.mp h
        exact hparse

/-- The laser number of a packet with blocks fits the array of units. -/
theorem laserNumber_le_of_parseData {charSigned : Bool} {len : Nat} {pkt : LidarPacket}
    (h : (parseData fmt charSigned recvbuf len).val = some pkt)
    (hloops : LoopsFit fmt charSigned recvbuf) (hblocks : pkt.blocks ≠ []) :
    pkt.header.chLaserNumber.toNat ≤ fmt.unitNum := by
  unfold parseData at h
  split at h
  · exact absurd h (Option.some_ne_none _).symm
  · rw [val_bind] at h
    split at h
    · exact absurd h (Option.some_ne_none _).symm
    · rw [← Option.some.inj h] at hblocks ⊢
      -- with a block there is a unit loop, which is in range
      have hpos := List.length_pos_iff.mpr hblocks
      rw [length_parseBlocks] at hpos
      exact hloops.2 hpos

/-- No packet whose counts fit has more than 64 lasers. -/
theorem laserNumber_le_of_acceptedFits {pkt : ParsedPacket}
    (hparse : parsePacket cfg packet = some pkt) (hfits : acceptedFits cfg packet = true)
    (hblocks : pkt.blocks ≠ []) : pkt.laserNumber.toNat ≤ 64 := by
  have hparser := parsedBy_of_parsePacket hparse
  cases pkt with
  | pandar40P pkt => exact (by decide : laserCount ≤ 64)
  | l64 pkt =>
    have hle := laserNumber_le_of_parseData hparser (IsFamily.l64.fits hparse hfits).2 hblocks
    exact Nat.le_trans hle (by decide)
  | l20 pkt =>
    have hle := laserNumber_le_of_parseData hparser (IsFamily.l20.fits hparse hfits).2 hblocks
    exact Nat.le_trans hle (by decide)
  | qt pkt =>
    have hle := laserNumber_le_of_parseData hparser (IsFamily.qt.fits hparse hfits).2 hblocks
    exact Nat.le_trans hle (by decide)
  | xt pkt =>
    have hle := laserNumber_le_of_parseData hparser (IsFamily.xt.fits hparse hfits).2 hblocks
    exact Nat.le_trans hle (by decide)

end Hesai
