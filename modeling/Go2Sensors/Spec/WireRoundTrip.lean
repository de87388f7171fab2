import Go2Sensors.Spec.WireFormat

/-!
# Packets and datagrams

The measurement can be read out of every packet that a parser accepts, as long as the counts of
its header fit: the packet then has the layout of that measurement. So the packets that the
driver makes points of are exactly those that carry a measurement of one of the five families.

## Key results

- `Format.at_measurement`: a packet has the layout of the measurement that is read from it
- `accepted_iff_datagram`: the packets that are accepted carry a datagram, and are parsed to it
-/

namespace Hesai

open Layout

/-! ## The datagram of a packet -/

/-- The return at a place. -/
def Return.read (data : Nat → UInt8) (index : Nat) : Return where
  range := UInt16.ofNat (ofBytesLE (slice data index 2))
  intensity := data (index + 2)
  confidence := data (index + 3)

/-- The firing at a place: the azimuth stands `azimuthOffset` bytes into the block. -/
def Firing.read (data : Nat → UInt8) (azimuthOffset headerSize unitSize lasers index : Nat) :
    Firing where
  azimuth := UInt16.ofNat (ofBytesLE (slice data (index + azimuthOffset) 2))
  returns := (List.range lasers).map fun i =>
    Return.read data (index + headerSize + i * unitSize)

/-- The firings from `index` on. -/
def readFirings (data : Nat → UInt8)
    (azimuthOffset headerSize unitSize lasers blocks index : Nat) : List Firing :=
  (List.range blocks).map fun i => Firing.read data azimuthOffset headerSize unitSize lasers
    (index + i * (headerSize + lasers * unitSize))

/-- The bytes of a number of 16 bits. -/
theorem bytesLE_read16 (data : Nat → UInt8) (index : Nat) :
    bytesLE 2 (UInt16.ofNat (ofBytesLE (slice data index 2))).toNat = slice data index 2 := by
  have hlt := ofBytesLE_lt (slice data index 2)
  have hbytes := bytesLE_ofBytesLE (slice data index 2)
  rw [length_slice] at hlt hbytes
  rw [UInt16.toNat_ofNat', Nat.mod_eq_of_lt hlt, hbytes]

/-- The bytes of a number of 32 bits. -/
theorem bytesLE_read32 (data : Nat → UInt8) (index : Nat) :
    bytesLE 4 (UInt32.ofNat (ofBytesLE (slice data index 4))).toNat = slice data index 4 := by
  have hlt := ofBytesLE_lt (slice data index 4)
  have hbytes := bytesLE_ofBytesLE (slice data index 4)
  rw [length_slice] at hlt hbytes
  rw [UInt32.toNat_ofNat', Nat.mod_eq_of_lt hlt, hbytes]

/-- The blocks stand where they were read. -/
theorem at_readFirings {data : Nat → UInt8} {azimuthOffset headerSize unitSize lasers : Nat}
    {head : Firing → List (Option UInt8)} {bytes : Return → List (Option UInt8)}
    (hhead : ∀ f, (head f).length = headerSize) (hlength : ∀ r, (bytes r).length = unitSize)
    (hazimuth : ∀ index, At data index
      (head (Firing.read data azimuthOffset headerSize unitSize lasers index)))
    (hunit : ∀ index, At data index (bytes (Return.read data index))) (blocks index : Nat) :
    At data index ((readFirings data azimuthOffset headerSize unitSize lasers blocks index).flatMap
      fun f => head f ++ f.returns.flatMap bytes) := by
  apply at_records (n := headerSize + lasers * unitSize)
  · -- every block has the size of the layout
    intro i hi
    rw [List.length_append, hhead, length_records fun r _ => hlength r, Firing.read,
      List.length_map, List.length_range]
  · -- and is its header with its units behind it
    intro i hi
    rw [at_append, hhead]
    exact ⟨hazimuth _, at_records lasers (fun i _ => hlength _) fun i _ => hunit _⟩

namespace Format

variable (fmt : Format) (data : Nat → UInt8)

/-- The place after the last block. -/
def tailIndex : Nat :=
  fmt.headSize + headerBlocks fmt data *
    (fmt.blockHeaderAzimuth + headerLasers fmt data * fmt.unitSize)

/-- The measurement in a packet. -/
def measurement : Measurement where
  lasers := headerLasers fmt data
  firings := readFirings data 0 fmt.blockHeaderAzimuth fmt.unitSize (headerLasers fmt data)
    (headerBlocks fmt data) fmt.headSize
  protocolMajor := data 2
  protocolMinor := data 3
  returnType := data (fmt.laserNumberIndex + 2)
  disUnit := data (fmt.laserNumberIndex + 3)
  timestamp := UInt32.ofNat (ofBytesLE (slice data (fmt.tailIndex data + fmt.timestampOffset) 4))
  echo := data (fmt.tailIndex data + fmt.echoOffset)
  utc := slice data (fmt.tailIndex data + fmt.utcOffset) 6
  uniform := by
    intro f hf
    obtain ⟨i, -, rfl⟩ := List.mem_map.mp hf
    rw [Firing.read, List.length_map, List.length_range]
  utc_length := length_slice _ _ _

variable {fmt data}

/-- The two bytes that a packet starts with. -/
theorem bytes_of_sobOk (hsob : SobOk data) : data 0 = 0xEE ∧ data 1 = 0xFF := by
  have h0 : (data 0).toNat < 256 := (data 0).toNat_lt
  have h1 : (data 1).toNat < 2 ^ 8 := (data 1).toNat_lt
  -- the start of a packet is read high byte first
  rw [SobOk, ← Nat.shiftLeft_add_eq_or_of_lt h1, Nat.shiftLeft_eq] at hsob
  constructor
  · apply UInt8.toNat_inj.mp
    show (data 0).toNat = 0xEE
    omega
  · apply UInt8.toNat_inj.mp
    show (data 1).toNat = 0xFF
    omega

theorem at_header_measurement (hproper : fmt.Proper) (hsob : SobOk data) :
    At data 0 (fmt.header (fmt.measurement data)) := by
  obtain ⟨h0, h1⟩ := bytes_of_sobOk hsob
  have hlasers : data fmt.laserNumberIndex = UInt8.ofNat (headerLasers fmt data) :=
    (UInt8.ofNat_toNat).symm
  have hblocks : data (fmt.laserNumberIndex + 1) =
      UInt8.ofNat (fmt.measurement data).firings.length := by
    simp [measurement, readFirings, headerBlocks]
  rw [header, at_pad, at_append, at_pad, length_pad (length_start_le hproper), Nat.zero_add]
  constructor
  · -- the start, with the protocol version where there is one
    rw [start, List.map_append, at_append]
    refine ⟨by simp [h0, h1], ?_⟩
    cases hflag : fmt.protocol with
    | false => simp
    | true => simp [measurement]
  · -- the four bytes of the counts
    simp only [List.map_cons, List.map_nil, at_cons_some, at_nil, and_true, Nat.add_assoc,
      Nat.reduceAdd]
    exact ⟨hlasers, hblocks, rfl, rfl⟩

theorem at_tail_measurement :
    At data (fmt.tailIndex data) (fmt.tail (fmt.measurement data)) := by
  intro k x hk
  have hlt := (List.getElem?_eq_some_iff.mp hk).1
  rw [tail, List.length_map, List.length_range] at hlt
  rw [tail, List.getElem?_map, List.getElem?_range hlt, Option.map_some, Option.some.injEq,
    tailByte] at hk
  -- the timestamp, the echo, the date, and bytes that nothing reads
  split at hk
  · next htimestamp =>
    rw [measurement, bytesLE_read32, getElem?_slice (by omega), Option.some.injEq] at hk
    rw [← hk, Nat.add_assoc, Nat.add_sub_cancel' htimestamp.1]
  split at hk
  · next hecho =>
    rw [hecho]
    exact Option.some.inj hk
  split at hk
  · next hutc =>
    rw [measurement, getElem?_slice (by omega), Option.some.injEq] at hk
    rw [← hk, Nat.add_assoc, Nat.add_sub_cancel' hutc.1]
  · exact absurd hk (Option.some_ne_none x).symm

/-- A packet that starts as it should has the layout of the measurement that is read from it. -/
theorem at_measurement (hproper : fmt.Proper) (hsob : SobOk data) :
    At data 0 (fmt.body (fmt.measurement data)) := by
  have hlength : (fmt.measurement data).firings.length = headerBlocks fmt data := by
    simp [measurement, readFirings]
  have hend : (fmt.header (fmt.measurement data) ++
      (fmt.measurement data).firings.flatMap fmt.block).length = fmt.tailIndex data := by
    rw [List.length_append, length_header hproper, length_blocks, hlength]
    rfl
  -- header, blocks and tail follow each other
  rw [body, at_append, hend, Nat.zero_add, at_append, length_header hproper, Nat.zero_add]
  refine ⟨⟨at_header_measurement hproper hsob, ?_⟩, at_tail_measurement⟩
  apply at_readFirings length_blockHeader length_unit
  · -- the header of a block is its azimuth
    intro index
    rw [at_pad, Firing.read, bytesLE_read16]
    exact at_slice 2
  · -- a unit is a distance, an intensity and, in some families, a confidence
    intro index
    rw [unit, at_pad, Return.read, bytesLE_read16, List.map_append, at_append]
    refine ⟨at_slice 2, ?_⟩
    rw [List.length_map, length_slice, List.map_cons, at_cons_some]
    refine ⟨rfl, ?_⟩
    cases fmt.confidence with
    | false => simp
    | true => simp

end Format

/-- The place of the timestamp in a Pandar40 packet. -/
def rawTailIndex : Nat :=
  blocksPerPacket * (sobAngleSize + laserCount * rawMeasureSize) + (reserveSize + revolutionSize)

/-- The measurement in a Pandar40 packet. -/
def rawMeasurement (data : Nat → UInt8) : Measurement where
  lasers := laserCount
  firings := readFirings data 2 sobAngleSize rawMeasureSize laserCount blocksPerPacket 0
  protocolMajor := 0
  protocolMinor := 0
  returnType := 0
  disUnit := 0
  timestamp := UInt32.ofNat (ofBytesLE (slice data rawTailIndex 4))
  echo := data (rawTailIndex + timestampSize)
  utc := slice data (rawTailIndex + timestampSize + factoryInfoSize + echoSize) 6
  uniform := by
    intro f hf
    obtain ⟨i, -, rfl⟩ := List.mem_map.mp hf
    rw [Firing.read, List.length_map, List.length_range]
  utc_length := length_slice _ _ _

/-- Every Pandar40 packet has the layout of the measurement that is read from it. -/
theorem at_rawMeasurement (data : Nat → UInt8) : At data 0 (rawMeasurement data).rawBody := by
  have hlength : (rawMeasurement data).firings.length = blocksPerPacket := by
    simp [rawMeasurement, readFirings]
  rw [Measurement.rawBody, at_append, Measurement.length_rawBlocks, hlength, at_append, at_append,
    List.length_replicate, Nat.zero_add]
  refine ⟨?_, at_replicate_none _, ?_, ?_⟩
  · apply at_readFirings length_rawHeader length_rawBytes
    · -- two bytes of a block header that are not checked, then the azimuth
      intro index
      rw [Firing.rawHeader, Firing.read, bytesLE_read16]
      exact at_cons_none.mpr (at_cons_none.mpr (at_slice 2))
    · intro index
      rw [Return.rawBytes, Return.read, bytesLE_read16, List.map_append, at_append,
        List.length_map, length_slice]
      exact ⟨at_slice 2, at_cons_some.mpr ⟨rfl, at_nil⟩⟩
  · rw [rawMeasurement, bytesLE_read32, List.map_append, at_append, List.length_map, length_slice,
      ← rawTailIndex]
    exact ⟨at_slice 4, at_cons_some.mpr ⟨rfl, at_nil⟩⟩
  · rw [at_cons_none, List.length_map, List.length_append, length_bytesLE]
    show At data (rawTailIndex + (4 + 1) + 1) ((slice data (rawTailIndex + (4 + 1) + 1) 6).map some)
    exact at_slice 6

/-! ## What is accepted -/

/-- The counts of the header, as they stand there, fit the packet and the arrays. -/
structure Format.HeaderFits (fmt : Format) (data : Nat → UInt8) (len : Nat) : Prop where
  counts : CountsFit fmt data len
  lasers : headerLasers fmt data ≤ fmt.unitNum
  blocks : headerBlocks fmt data ≤ fmt.blockNumber

/-- The counts of a parsed packet fit. A Pandar40 packet has none. -/
def headerFits {F : Type} (packet : PandarPacket F) : ParsedPacket → Prop
  | .pandar40P _ => True
  | .l64 _ => l64Format.HeaderFits packet.data packet.size
  | .l20 _ => l20Format.HeaderFits packet.data packet.size
  | .qt _ => qtFormat.HeaderFits packet.data packet.size
  | .xt _ => xtFormat.HeaderFits packet.data packet.size

/-- The header of a layout fits. -/
theorem Format.Carries.headerFits {fmt : Format} {m : Measurement} {len : Nat}
    {data : Nat → UInt8} (hproper : fmt.Proper) (h : fmt.Carries m len)
    (hat : At data 0 (fmt.body m)) : fmt.HeaderFits data len := by
  obtain ⟨hfront, -⟩ := at_append.mp hat
  obtain ⟨hheader, -⟩ := at_append.mp hfront
  obtain ⟨-, hcounts⟩ := at_append.mp (at_pad.mp hheader)
  rw [length_pad (length_start_le hproper), Nat.zero_add] at hcounts
  simp only [List.map_cons, List.map_nil, at_cons_some] at hcounts
  -- the counts are at most the sizes of the arrays, and so fit a byte
  have hlasersLt := Nat.lt_of_le_of_lt h.lasers_le hproper.unitNum_lt
  have hblocksLt := Nat.lt_of_le_of_lt h.firings_le hproper.blockNumber_lt
  have hlasers : headerLasers fmt data = m.lasers := by
    rw [headerLasers, hcounts.1, UInt8.toNat_ofNat', Nat.mod_eq_of_lt (by omega)]
  have hblocks : headerBlocks fmt data = m.firings.length := by
    rw [headerBlocks, hcounts.2.1, UInt8.toNat_ofNat', Nat.mod_eq_of_lt (by omega)]
  have hbody := h.body_le
  rw [length_body hproper] at hbody
  refine ⟨?_, hlasers ▸ h.lasers_le, hblocks ▸ h.firings_le⟩
  rwa [CountsFit, hlasers, hblocks]

/-- The measurement that is read from a packet whose header fits, fits. -/
theorem Format.HeaderFits.carries {fmt : Format} {data : Nat → UInt8} {len : Nat}
    (hproper : fmt.Proper) (h : fmt.HeaderFits data len) :
    fmt.Carries (fmt.measurement data) len := by
  have hlength : (fmt.measurement data).firings.length = headerBlocks fmt data := by
    simp [measurement, readFirings]
  refine ⟨h.lasers, hlength ▸ h.blocks, ?_⟩
  rw [length_body hproper, hlength]
  exact h.counts

/-- A packet that a header-driven parser accepts has the layout of its measurement. -/
theorem IsFamily.at_measurement {fmt : Format} {parsed : LidarPacket → ParsedPacket}
    (hfamily : IsFamily fmt parsed) {charSigned : Bool} {data : Nat → UInt8} {len : Nat}
    {pkt : ParsedPacket} (hlen : len ∈ fmt.lengths)
    (hparse : (parseData fmt charSigned data len).val.map parsed = some pkt) :
    (∃ pkt', pkt = parsed pkt') ∧ At data 0 (fmt.body (fmt.measurement data)) := by
  obtain ⟨pkt', hdata, rfl⟩ := Option.map_eq_some_iff.mp hparse
  have hsob : SobOk data :=
    (parseData_isSome fmt charSigned hlen).mp (by rw [hdata]; rfl)
  exact ⟨⟨pkt', rfl⟩, Format.at_measurement hfamily.proper hsob⟩

/-- A packet that is accepted, with counts that fit, carries a datagram. -/
theorem exists_datagram {F : Type} {cfg : Config F} {packet : PandarPacket F}
    {pkt : ParsedPacket} (hparse : parsePacket cfg packet = some pkt)
    (hfits : headerFits packet pkt) : ∃ d : Datagram cfg.lidarType, d.In packet := by
  unfold parsePacket at hparse
  -- the size decides the family, in the order in which the driver tests it
  split at hparse
  · next h40 =>
    refine ⟨⟨.pandar40P, rawMeasurement packet.data, packet.size, ?_, rfl, ?_⟩, rfl,
      at_rawMeasurement packet.data⟩
    · simpa [Family.lengths] using h40
    · simp [rawMeasurement, readFirings]
  split at hparse
  · next h64 =>
    have hmem : packet.size ∈ Family.l64.lengths cfg.lidarType := by
      simpa [Family.lengths] using h64
    have hin : packet.size ∈ l64Format.lengths := by
      simp only [l64Format, List.mem_cons]
      tauto
    obtain ⟨⟨pkt', rfl⟩, hat⟩ := IsFamily.l64.at_measurement hin hparse
    exact ⟨⟨.l64, _, packet.size, hmem, hfits.carries IsFamily.l64.proper⟩, rfl, hat⟩
  split at hparse
  · next h20 =>
    have hmem : packet.size ∈ Family.l20.lengths cfg.lidarType := List.mem_singleton.mpr h20
    obtain ⟨⟨pkt', rfl⟩, hat⟩ := IsFamily.l20.at_measurement hmem hparse
    exact ⟨⟨.l20, _, packet.size, hmem, hfits.carries IsFamily.l20.proper⟩, rfl, hat⟩
  split at hparse
  · next hqt =>
    have hmem : packet.size ∈ Family.qt.lengths cfg.lidarType := by
      simpa [Family.lengths] using hqt
    obtain ⟨⟨pkt', rfl⟩, hat⟩ := IsFamily.qt.at_measurement hmem hparse
    exact ⟨⟨.qt, _, packet.size, hmem, hfits.carries IsFamily.qt.proper⟩, rfl, hat⟩
  split at hparse
  · next hxt =>
    have hmem : packet.size ∈ Family.xt.lengths cfg.lidarType := by
      rcases hxt with ⟨hsize, hname⟩ | ⟨hsize, hname⟩ | ⟨hsize, hname⟩ <;>
        simp [Family.lengths, hsize, hname]
    have hin : packet.size ∈ xtFormat.lengths := by
      simp only [xtFormat, List.mem_cons]
      tauto
    obtain ⟨⟨pkt', rfl⟩, hat⟩ := IsFamily.xt.at_measurement hin hparse
    exact ⟨⟨.xt, _, packet.size, hmem, hfits.carries IsFamily.xt.proper⟩, rfl, hat⟩
  · exact absurd hparse (Option.some_ne_none pkt).symm

/-- The counts of a datagram fit. -/
theorem Datagram.In.headerFits {F : Type} {lidarType : String} {d : Datagram lidarType}
    {packet : PandarPacket F} (h : d.In packet) (charSigned : Bool) :
    Hesai.headerFits packet (d.parsed charSigned) := by
  obtain ⟨family, m, len, hlen, hcarries⟩ := d
  obtain ⟨hsize, hat⟩ := h
  simp only at hsize
  subst hsize
  cases family with
  | pandar40P => trivial
  | l64 => exact Format.Carries.headerFits IsFamily.l64.proper hcarries hat
  | l20 => exact Format.Carries.headerFits IsFamily.l20.proper hcarries hat
  | qt => exact Format.Carries.headerFits IsFamily.qt.proper hcarries hat
  | xt => exact Format.Carries.headerFits IsFamily.xt.proper hcarries hat

/-- The packets that are accepted, with counts that fit, are those that carry a datagram, and
    what they are parsed to is what was measured. -/
theorem accepted_iff_datagram {F : Type} (cfg : Config F) (packet : PandarPacket F)
    (pkt : ParsedPacket) :
    parsePacket cfg packet = some pkt ∧ headerFits packet pkt ↔
      ∃ d : Datagram cfg.lidarType, d.In packet ∧ pkt = d.parsed cfg.charSigned := by
  constructor
  · -- what is read from the packet is the measurement
    rintro ⟨hparse, hfits⟩
    obtain ⟨d, hd⟩ := exists_datagram hparse hfits
    exact ⟨d, hd, Option.some.inj (hparse.symm.trans hd.parsePacket_eq)⟩
  · -- what is laid out is parsed
    rintro ⟨d, hd, rfl⟩
    exact ⟨hd.parsePacket_eq, hd.headerFits cfg.charSigned⟩

end Hesai
