import Mathlib.Tactic.Linarith
import Go2Sensors.ForStd.Layout
import Go2Sensors.Spec.PacketBytes

/-!
# Packets on the wire

What a lidar sends (`Datagram`): a measurement in the layout of one of the five families, with
anything in the bytes that the layout leaves open. The parsers walk a packet with a running
index; here each part of the layout stands at its place, and the two agree.

## Key results

- `Format.val_parseData`: a header-driven parser gives the measurement back
- `Datagram.In.parsePacket_eq`: a packet that carries a datagram is parsed to what was measured
-/

namespace Hesai

open Layout

/-! ## Measurements -/

/-- A return of a laser, with its range in units of the lidar. -/
structure Return where
  range : UInt16
  intensity : UInt8
  confidence : UInt8
deriving DecidableEq

/-- The returns of all lasers at an azimuth. -/
structure Firing where
  azimuth : UInt16
  returns : List Return
deriving DecidableEq

/-- What a packet tells. -/
structure Measurement where
  lasers : Nat
  firings : List Firing
  protocolMajor : UInt8
  protocolMinor : UInt8
  returnType : UInt8
  disUnit : UInt8
  timestamp : UInt32
  echo : UInt8
  utc : List UInt8
  uniform : ∀ f ∈ firings, f.returns.length = lasers
  utc_length : utc.length = 6

/-! ## Header-driven families -/

namespace Format

variable (fmt : Format)

/-- The bytes up to the laser number. -/
def start (m : Measurement) : List UInt8 :=
  [0xEE, 0xFF] ++ if fmt.protocol then [m.protocolMajor, m.protocolMinor] else []

/-- The header. -/
def header (m : Measurement) : List (Option UInt8) :=
  pad fmt.headSize (pad fmt.laserNumberIndex ((fmt.start m).map some) ++
    [UInt8.ofNat m.lasers, UInt8.ofNat m.firings.length, m.returnType, m.disUnit].map some)

/-- A unit. -/
def unit (r : Return) : List (Option UInt8) :=
  pad fmt.unitSize ((bytesLE 2 r.range.toNat ++
    r.intensity :: if fmt.confidence then [r.confidence] else []).map some)

/-- A block. -/
def block (f : Firing) : List (Option UInt8) :=
  pad fmt.blockHeaderAzimuth ((bytesLE 2 f.azimuth.toNat).map some) ++ f.returns.flatMap fmt.unit

/-- The byte at offset `i` of the tail. -/
def tailByte (m : Measurement) (i : Nat) : Option UInt8 :=
  if fmt.timestampOffset ≤ i ∧ i < fmt.timestampOffset + 4 then
    (bytesLE 4 m.timestamp.toNat)[i - fmt.timestampOffset]?
  else if i = fmt.echoOffset then m.echo
  else if fmt.utcOffset ≤ i ∧ i < fmt.utcOffset + 6 then m.utc[i - fmt.utcOffset]?
  else none

/-- The tail. -/
def tail (m : Measurement) : List (Option UInt8) :=
  (List.range fmt.tailSize).map (fmt.tailByte m)

/-- Header, blocks and tail. -/
def body (m : Measurement) : List (Option UInt8) :=
  fmt.header m ++ m.firings.flatMap fmt.block ++ fmt.tail m

/-- The parts of the header and of the tail do not overlap, and the counts fit a `char` of
    either sign. -/
structure Proper : Prop where
  start_le : (if fmt.protocol then 4 else 2) ≤ fmt.laserNumberIndex
  echo_apart : fmt.echoOffset < fmt.timestampOffset ∨ fmt.timestampOffset + 4 ≤ fmt.echoOffset
  utc_apart : fmt.utcOffset + 6 ≤ fmt.timestampOffset ∨ fmt.timestampOffset + 4 ≤ fmt.utcOffset
  utc_echo : fmt.echoOffset < fmt.utcOffset ∨ fmt.utcOffset + 6 ≤ fmt.echoOffset
  unitNum_lt : fmt.unitNum < 128
  blockNumber_lt : fmt.blockNumber < 128

/-- The measurement fits a packet of length `len`. -/
structure Carries (m : Measurement) (len : Nat) : Prop where
  lasers_le : m.lasers ≤ fmt.unitNum
  firings_le : m.firings.length ≤ fmt.blockNumber
  body_le : (fmt.body m).length ≤ len

end Format

/-! ## Reading numbers -/

variable {recvbuf : Nat → UInt8} {index : Nat}

theorem val_readUInt16LE {n : Nat} (h : At recvbuf index ((bytesLE 2 n).map some))
    (hn : n < 2 ^ 16) : (readUInt16LE recvbuf index).val = n := by
  simp only [bytesLE, List.map_cons, List.map_nil, at_cons_some, at_nil, and_true] at h
  have hread := ofBytesLE_bytesLE_of_lt (show n < 2 ^ (8 * 2) from hn)
  simp only [bytesLE, ofBytesLE, ← h.1, ← h.2, Nat.zero_shiftLeft, Nat.or_zero] at hread
  exact hread

theorem val_readUInt32LE {n : Nat} (h : At recvbuf index ((bytesLE 4 n).map some))
    (hn : n < 2 ^ 32) : (readUInt32LE recvbuf index).val = n := by
  simp only [bytesLE, List.map_cons, List.map_nil, at_cons_some, at_nil, and_true, Nat.add_assoc,
    Nat.reduceAdd] at h
  obtain ⟨h0, h1, h2, h3⟩ := h
  -- the sum that the parser makes is the number of its bytes
  have hread := ofBytesLE_bytesLE_of_lt (show n < 2 ^ (8 * 4) from hn)
  simp only [bytesLE, ofBytesLE, ← h0, ← h1, ← h2, ← h3, Nat.zero_shiftLeft, Nat.or_zero,
    Nat.shiftLeft_or_distrib, ← Nat.shiftLeft_add, Nat.reduceAdd] at hread
  simp only [readUInt32LE, readByte, Traced.val_bind, Traced.val_pure, Nat.or_assoc]
  exact hread

theorem val_readAddtime {utc : List UInt8} (h : At recvbuf index (utc.map some))
    (hlength : utc.length = 6) : (readAddtime recvbuf index).val = utc.map UInt8.toNat := by
  obtain ⟨b0, b1, b2, b3, b4, b5, rfl⟩ : ∃ b0 b1 b2 b3 b4 b5, utc = [b0, b1, b2, b3, b4, b5] := by
    match utc, hlength with
    | [b0, b1, b2, b3, b4, b5], _ => exact ⟨b0, b1, b2, b3, b4, b5, rfl⟩
  simp only [List.map_cons, List.map_nil, at_cons_some, at_nil, and_true, Nat.add_assoc,
    Nat.reduceAdd] at h
  obtain ⟨rfl, rfl, rfl, rfl, rfl, rfl⟩ := h
  rfl

/-! ## The loops -/

/-- The unit loop reads units that stand one after the other. -/
theorem val_parseUnits {readUnit : Nat → Traced Access LidarUnit} {unitSize : Nat}
    {bytes : Return → List (Option UInt8)} {toUnit : Return → LidarUnit}
    (hlength : ∀ r, (bytes r).length = unitSize)
    (hread : ∀ r index, At recvbuf index (bytes r) → (readUnit index).val = toUnit r)
    (returns : List Return) (block unit index : Nat)
    (h : At recvbuf index (returns.flatMap bytes)) :
    (parseUnits readUnit unitSize block returns.length unit index).val =
      (returns.map toUnit, index + returns.length * unitSize) := by
  induction returns generalizing unit index with
  | nil => simp [parseUnits]
  | cons r returns ih =>
    rw [List.flatMap_cons, at_append, hlength] at h
    simp only [List.length_cons, parseUnits, Traced.val_bind, Traced.val_pure, hread r index h.1,
      ih (unit + 1) (index + unitSize) h.2, List.map_cons, Nat.succ_mul]
    -- the index after the loop
    rw [show index + unitSize + returns.length * unitSize =
      index + (returns.length * unitSize + unitSize) by omega]

/-- The block loop reads blocks that stand one after the other. -/
theorem val_parseBlocks {readAzimuth : Nat → Traced Access Nat}
    {readUnit : Nat → Traced Access LidarUnit} {headerSize unitSize lasers : Nat}
    {head : Firing → List (Option UInt8)} {bytes : Return → List (Option UInt8)}
    {toUnit : Return → LidarUnit}
    (hhead : ∀ f, (head f).length = headerSize) (hlength : ∀ r, (bytes r).length = unitSize)
    (hazimuth : ∀ f index, At recvbuf index (head f) →
      (readAzimuth index).val = f.azimuth.toNat)
    (hread : ∀ r index, At recvbuf index (bytes r) → (readUnit index).val = toUnit r)
    (firings : List Firing) (huniform : ∀ f ∈ firings, f.returns.length = lasers)
    (block index : Nat)
    (h : At recvbuf index (firings.flatMap fun f => head f ++ f.returns.flatMap bytes)) :
    (parseBlocks readAzimuth readUnit headerSize unitSize lasers firings.length block index).val =
      (firings.map fun f => ⟨f.azimuth.toNat, f.returns.map toUnit⟩,
        index + firings.length * (headerSize + lasers * unitSize)) := by
  induction firings generalizing block index with
  | nil => simp [parseBlocks]
  | cons f firings ih =>
    obtain ⟨hfirst, hrest⟩ := List.forall_mem_cons.mp huniform
    -- the units of a block are as many as the header says
    have hunitBytes : (f.returns.flatMap bytes).length = lasers * unitSize := by
      rw [length_records fun r _ => hlength r, hfirst]
    rw [List.flatMap_cons, List.append_assoc, at_append, at_append, hhead, hunitBytes] at h
    obtain ⟨hhere, hunits, hblocks⟩ := h
    have hloop := val_parseUnits hlength hread f.returns block 0 _ hunits
    rw [hfirst] at hloop
    simp only [List.length_cons, parseBlocks, Traced.val_bind, Traced.val_pure,
      hazimuth f index hhere, hloop, ih hrest (block + 1) _ hblocks, List.map_cons, Nat.succ_mul]
    -- and the index is at the next block
    rw [show index + headerSize + lasers * unitSize + firings.length *
        (headerSize + lasers * unitSize) = index + (firings.length *
        (headerSize + lasers * unitSize) + (headerSize + lasers * unitSize)) by omega]

/-! ## What the parsers make of a measurement -/

/-- The unit of a return: the range in millimetres, as an unsigned product. -/
def Return.unit (disUnit : Int) (confidence : Bool) (r : Return) : LidarUnit where
  distance := (toUInt32 (r.range.toNat * disUnit) : Rat) / 1000
  intensity := r.intensity.toNat
  confidence := if confidence then r.confidence.toNat else 0

namespace Format

variable (fmt : Format) (charSigned : Bool) (m : Measurement)

/-- The header of the parsed packet. -/
def parsedHeader : LidarHeader where
  sob := 0xEEFF
  chProtocolMajor := if fmt.protocol then toChar charSigned m.protocolMajor.toNat else 0
  chProtocolMinor := if fmt.protocol then toChar charSigned m.protocolMinor.toNat else 0
  chLaserNumber := m.lasers
  chBlockNumber := m.firings.length
  chReturnType := toChar charSigned m.returnType.toNat
  chDisUnit := toChar charSigned m.disUnit.toNat

/-- The parsed packet. -/
def parsedPacket : LidarPacket where
  header := fmt.parsedHeader charSigned m
  blocks := m.firings.map fun f => ⟨f.azimuth.toNat,
    f.returns.map (Return.unit (toChar charSigned m.disUnit.toNat) fmt.confidence)⟩
  timestamp := m.timestamp.toNat
  echo := m.echo.toNat
  addtime := m.utc.map UInt8.toNat

variable {fmt charSigned m}

/-- A count below `128` is the same for both signs of `char`. -/
theorem toChar_ofNat {n : Nat} (hn : n < 128) : toChar charSigned (UInt8.ofNat n).toNat = n := by
  rw [UInt8.toNat_ofNat', Nat.mod_eq_of_lt (by omega), toChar]
  simp only [Bool.and_eq_true, decide_eq_true_eq, ge_iff_le, show ¬ 128 ≤ n by omega, and_false,
    ↓reduceIte]

theorem val_onlyIf {α : Type} (flag : Bool) (x : Traced Access α) (a : α) :
    (Traced.onlyIf flag x a).val = if flag then x.val else a := by
  cases flag <;> rfl

theorem length_start_le (hproper : fmt.Proper) :
    ((fmt.start m).map some).length ≤ fmt.laserNumberIndex := by
  have hstart := hproper.start_le
  cases hprotocol : fmt.protocol <;> simpa [start, hprotocol] using hstart

theorem length_header (hproper : fmt.Proper) : (fmt.header m).length = fmt.headSize := by
  apply length_pad
  rw [List.length_append, length_pad (length_start_le hproper)]
  exact fmt.head_le

/-- The header is read from its bytes. -/
theorem val_parseHeader (charSigned : Bool) (hproper : fmt.Proper) (hlasers : m.lasers < 128)
    (hfirings : m.firings.length < 128) (h : At recvbuf 0 (fmt.header m)) :
    (parseHeader fmt charSigned recvbuf).val = fmt.parsedHeader charSigned m := by
  obtain ⟨hbegin, hcounts⟩ := at_append.mp (at_pad.mp h)
  rw [length_pad (length_start_le hproper), Nat.zero_add] at hcounts
  simp only [List.map_cons, List.map_nil, at_cons_some, at_nil, and_true, Nat.add_assoc,
    Nat.reduceAdd] at hcounts
  -- laser number, block number, return type and unit of distances
  obtain ⟨h0, h1, h2, h3⟩ := hcounts
  have hstart := at_pad.mp hbegin
  rw [start, List.map_append] at hstart
  obtain ⟨hsob, hprotocol⟩ := at_append.mp hstart
  simp only [List.map_cons, List.map_nil, at_cons_some, at_nil, and_true, Nat.zero_add] at hsob
  simp only [parseHeader, Traced.val_bind, Traced.val_pure, val_onlyIf, readChar, readByte,
    readUInt16BE, h0, h1, h2, h3, hsob.1, hsob.2, toChar_ofNat hlasers, toChar_ofNat hfirings,
    parsedHeader]
  cases hflag : fmt.protocol with
  | false => rfl
  | true =>
    -- the protocol bytes come right after the start of the packet
    simp only [hflag, ↓reduceIte, List.map_cons, List.map_nil, at_cons_some, at_nil,
      and_true] at hprotocol
    simp only [↓reduceIte, ← hprotocol.1, ← hprotocol.2]
    rfl

/-- A unit is read from its bytes. -/
theorem val_parseUnit (r : Return) (disUnit : Int) (index : Nat)
    (h : At recvbuf index (fmt.unit r)) :
    (parseUnit fmt recvbuf disUnit index).val = r.unit disUnit fmt.confidence := by
  have hunit := at_pad.mp h
  rw [List.map_append] at hunit
  obtain ⟨hrange, hrest⟩ := at_append.mp hunit
  rw [List.length_map, length_bytesLE, List.map_cons, at_cons_some] at hrest
  obtain ⟨hintensity, hconfidence⟩ := hrest
  -- the range comes first
  have hvalue := val_readUInt16LE hrange r.range.toNat_lt
  simp only [parseUnit, Traced.val_bind, Traced.val_pure, hvalue, val_onlyIf, readByte, hintensity,
    Return.unit]
  cases hflag : fmt.confidence with
  | false => rfl
  | true =>
    simp only [hflag, ↓reduceIte, List.map_cons, List.map_nil, at_cons_some, at_nil,
      and_true] at hconfidence
    simp only [↓reduceIte, ← hconfidence]

theorem length_unit (r : Return) : (fmt.unit r).length = fmt.unitSize := by
  have hle := fmt.unit_le
  apply length_pad
  cases hflag : fmt.confidence <;> simpa [hflag] using hle

theorem length_blockHeader (f : Firing) :
    (pad fmt.blockHeaderAzimuth ((bytesLE 2 f.azimuth.toNat).map some)).length =
      fmt.blockHeaderAzimuth :=
  length_pad (by simpa using fmt.azimuth_le)

theorem length_blocks : (m.firings.flatMap fmt.block).length =
    m.firings.length * (fmt.blockHeaderAzimuth + m.lasers * fmt.unitSize) := by
  apply length_records
  intro f hf
  rw [block, List.length_append, length_blockHeader, length_records fun r _ => length_unit r,
    m.uniform f hf]

theorem length_body (hproper : fmt.Proper) :
    (fmt.body m).length = fmt.headSize + m.firings.length *
      (fmt.blockHeaderAzimuth + m.lasers * fmt.unitSize) + fmt.tailSize := by
  rw [body, List.length_append, List.length_append, length_header hproper, length_blocks, tail,
    List.length_map, List.length_range]

/-- Some bytes of the tail. -/
theorem at_tail {offset : Nat} {xs : List UInt8} (hin : offset + xs.length ≤ fmt.tailSize)
    (hbyte : ∀ k < xs.length, fmt.tailByte m (offset + k) = xs[k]?)
    (h : At recvbuf index (fmt.tail m)) : At recvbuf (index + offset) (xs.map some) := by
  apply h.part
  intro k x hk
  -- inside the part the bytes of the tail are those of the field
  have hlt : k < xs.length := by
    have hlt := (List.getElem?_eq_some_iff.mp hk).1
    rwa [List.length_map] at hlt
  rw [List.getElem?_map, List.getElem?_eq_getElem hlt, Option.map_some] at hk
  rw [tail, List.getElem?_map, List.getElem?_range (by omega), Option.map_some, hbyte k hlt,
    List.getElem?_eq_getElem hlt, hk]

/-- The fields of the tail stand at their offsets. -/
theorem at_tail_fields (hproper : fmt.Proper) (h : At recvbuf index (fmt.tail m)) :
    At recvbuf (index + fmt.timestampOffset) ((bytesLE 4 m.timestamp.toNat).map some) ∧
      recvbuf (index + fmt.echoOffset) = m.echo ∧
      At recvbuf (index + fmt.utcOffset) (m.utc.map some) := by
  have hutc := m.utc_length
  have hecho := hproper.echo_apart
  have hapart := hproper.utc_apart
  have hutcEcho := hproper.utc_echo
  -- no field covers another one, so that each is found at its offset
  refine ⟨at_tail ?_ (fun k hk => ?_) h, ?_, at_tail ?_ (fun k hk => ?_) h⟩
  · simp only [length_bytesLE, tailSize]
    omega
  · rw [length_bytesLE] at hk
    rw [tailByte, if_pos (by omega), Nat.add_sub_cancel_left]
  · have hat : At recvbuf (index + fmt.echoOffset) ([m.echo].map some) := by
      refine at_tail ?_ (fun k hk => ?_) h
      · simp only [List.length_singleton, tailSize]
        omega
      · obtain rfl : k = 0 := Nat.lt_one_iff.mp hk
        rw [tailByte, if_neg (by omega), if_pos (Nat.add_zero _)]
        rfl
    exact (at_cons_some.mp hat).1
  · simp only [hutc, tailSize]
    omega
  · rw [tailByte, if_neg (by omega), if_neg (by omega), if_pos (by omega),
      Nat.add_sub_cancel_left]

/-- A header-driven parser makes the measurement of its bytes again. -/
theorem val_parseData (charSigned : Bool) (hproper : fmt.Proper) {len : Nat}
    (hlen : len ∈ fmt.lengths) (hcarries : fmt.Carries m len) (h : At recvbuf 0 (fmt.body m)) :
    (parseData fmt charSigned recvbuf len).val = some (fmt.parsedPacket charSigned m) := by
  -- the counts fit a char, and are read as they are
  have hlasers := Nat.lt_of_le_of_lt hcarries.lasers_le hproper.unitNum_lt
  have hfirings := Nat.lt_of_le_of_lt hcarries.firings_le hproper.blockNumber_lt
  obtain ⟨hfront, htail⟩ := at_append.mp h
  obtain ⟨hheader, hblocks⟩ := at_append.mp hfront
  rw [length_header hproper, Nat.zero_add] at hblocks
  have hparsed := val_parseHeader charSigned hproper hlasers hfirings hheader
  -- the blocks with their units
  have hloop := val_parseBlocks length_blockHeader length_unit
    (fun f index hat => val_readUInt16LE (at_pad.mp hat) f.azimuth.toNat_lt)
    (fun r index hat => val_parseUnit r (toChar charSigned m.disUnit.toNat) index hat)
    m.firings m.uniform 0 fmt.headSize hblocks
  rw [List.length_append, length_header hproper, length_blocks, Nat.zero_add] at htail
  -- the tail begins where the block loop ends
  obtain ⟨htimestamp, hecho, hutc⟩ := at_tail_fields hproper htail
  have htime := val_readUInt32LE htimestamp m.timestamp.toNat_lt
  have haddtime := val_readAddtime hutc m.utc_length
  rw [parseData, if_neg (not_not_intro hlen)]
  simp only [Traced.val_bind, hparsed, parsedHeader, bne_self_eq_false, Bool.false_eq_true,
    ↓reduceIte, Int.toNat_natCast, hloop, htime, haddtime, readByte, hecho, Traced.val_pure,
    parsedPacket]

end Format

/-! ## Pandar40P and Pandar40M -/

/-- A unit. -/
def Return.rawBytes (r : Return) : List (Option UInt8) :=
  (bytesLE 2 r.range.toNat ++ [r.intensity]).map some

/-- The two start bytes, which are not checked, and the azimuth. -/
def Firing.rawHeader (f : Firing) : List (Option UInt8) :=
  [none, none] ++ (bytesLE 2 f.azimuth.toNat).map some

/-- Blocks and tail. -/
def Measurement.rawBody (m : Measurement) : List (Option UInt8) :=
  (m.firings.flatMap fun f => f.rawHeader ++ f.returns.flatMap Return.rawBytes) ++
    (List.replicate (reserveSize + revolutionSize) none ++
      ((bytesLE 4 m.timestamp.toNat ++ [m.echo]).map some ++ none :: m.utc.map some))

/-- The unit of a return, in metres: the range counts four millimetres. -/
def Return.rawUnit (r : Return) : LidarUnit where
  distance := r.range.toNat * 4 / 1000
  intensity := r.intensity.toNat
  confidence := 0

/-- The parsed packet. -/
def Measurement.parsedRaw (m : Measurement) : Pandar40PPacket where
  blocks := m.firings.map fun f => ⟨f.azimuth.toNat, f.returns.map Return.rawUnit⟩
  t := toTm (m.utc.map UInt8.toNat)
  usec := m.timestamp.toNat % 1000000
  echo := m.echo.toNat

theorem length_rawBytes (r : Return) : r.rawBytes.length = rawMeasureSize := by
  simp [Return.rawBytes, rawMeasureSize]

theorem length_rawHeader (f : Firing) : f.rawHeader.length = sobAngleSize := by
  simp [Firing.rawHeader, sobAngleSize]

theorem Measurement.length_rawBlocks (m : Measurement) :
    (m.firings.flatMap fun f => f.rawHeader ++ f.returns.flatMap Return.rawBytes).length =
      m.firings.length * (sobAngleSize + m.lasers * rawMeasureSize) := by
  apply length_records
  intro f hf
  rw [List.length_append, length_rawHeader, length_records fun r _ => length_rawBytes r,
    m.uniform f hf]

theorem val_parseRawAzimuth (f : Firing) (index : Nat) (h : At recvbuf index f.rawHeader) :
    (parseRawAzimuth recvbuf index).val = f.azimuth.toNat := by
  have hazimuth := at_cons_none.mp (at_cons_none.mp h)
  exact val_readUInt16LE hazimuth f.azimuth.toNat_lt

/-- No range of two bytes is beyond what the filter for wrong data lets pass. -/
theorem val_parseRawUnit (r : Return) (index : Nat) (h : At recvbuf index r.rawBytes) :
    (parseRawUnit recvbuf index).val = r.rawUnit := by
  rw [Return.rawBytes, List.map_append] at h
  obtain ⟨hrange, hintensity⟩ := at_append.mp h
  rw [List.length_map, length_bytesLE, List.map_singleton, at_cons_some] at hintensity
  have hvalue := val_readUInt16LE hrange r.range.toNat_lt
  -- the largest range is 263 m
  have hle : ((r.range.toNat * 4 / 1000 : Rat)) ≤ 263 := by
    have hlt : (r.range.toNat : Rat) < 65536 := by exact_mod_cast r.range.toNat_lt
    linarith
  have hwrong : ((r.range.toNat * 4 / 1000 : Rat) == 0x010101) = false := by
    rw [beq_eq_false_iff_ne]
    intro heq
    rw [heq] at hle
    exact absurd hle (by norm_num)
  have hfar : ¬ (r.range.toNat * 4 / 1000 : Rat) > 200 * 1000 / 2 := by
    apply not_lt.mpr (hle.trans _)
    norm_num
  simp only [parseRawUnit, Traced.val_bind, Traced.val_pure, hvalue, readByte, hintensity.1,
    hwrong, hfar, Bool.false_and, Bool.false_or, decide_false, Bool.false_eq_true, ↓reduceIte,
    Return.rawUnit]

/-- The parser of Pandar40 packets makes the measurement of its bytes again. -/
theorem val_parseRawData {m : Measurement} {len : Nat}
    (hlen : len = packetSize ∨ len = packetSize + seqNumSize) (hlasers : m.lasers = laserCount)
    (hfirings : m.firings.length = blocksPerPacket) (h : At recvbuf 0 m.rawBody) :
    (parseRawData recvbuf len).val = some m.parsedRaw := by
  obtain ⟨hblocks, htail⟩ := at_append.mp h
  -- the same block loop, without a header before it
  have hloop := val_parseBlocks length_rawHeader length_rawBytes val_parseRawAzimuth
    val_parseRawUnit m.firings m.uniform 0 0 hblocks
  rw [m.length_rawBlocks, at_append, at_append, List.map_append, at_append] at htail
  obtain ⟨-, ⟨htimestamp, hecho⟩, hutc⟩ := htail
  simp only [List.length_append, List.length_replicate, List.length_map, length_bytesLE,
    List.map_singleton, List.length_singleton, at_cons_some, at_cons_none, hlasers, hfirings,
    Nat.zero_add] at hloop htimestamp hecho hutc
  have htime := val_readUInt32LE htimestamp m.timestamp.toNat_lt
  have haddtime := val_readAddtime hutc m.utc_length
  have hadmitted : (len != packetSize && len != packetSize + seqNumSize) = false := by
    rcases hlen with rfl | rfl <;> decide
  rw [parseRawData, hadmitted]
  simp only [Bool.false_eq_true, ↓reduceIte, Traced.val_bind, hloop, readByte, Traced.val_pure,
    Measurement.parsedRaw]
  -- the places of the tail are the same numbers
  show some (Pandar40PPacket.mk _ (toTm (readAddtime recvbuf _).val)
    ((readUInt32LE recvbuf _).val % 1000000) (recvbuf _).toNat) = _
  rw [← htime, ← haddtime, ← hecho.1]
  rfl

/-! ## Datagrams -/

/-- The families of lidars. -/
inductive Family where
  | pandar40P
  | l64
  | l20
  | qt
  | xt
deriving DecidableEq

namespace Family

/-- The lengths of the packets. The length of an XT packet goes with the name of the lidar. -/
def lengths (lidarType : String) : Family → List Nat
  | pandar40P => [packetSize, packetSize + seqNumSize]
  | l64 => [hsLidarL64Packet6Size, hsLidarL64Packet7Size, hsLidarL64Packet6WithoutUDPSeqSize,
      hsLidarL64Packet7WithoutUDPSeqSize]
  | l20 => [hsLidarL20PacketSize]
  | qt => [hsLidarQTPacketSize, hsLidarQTPacketWithoutUDPSeqSize]
  | xt =>
    if lidarType = "XT" ∨ lidarType = "PandarXT-32" then [hsLidarXTPacketSize]
    else if lidarType = "PandarXT-16" then [hsLidarXT16PacketSize]
    else if lidarType = "PandarXTM" then [hsLidarXTMPacketSize]
    else []

/-- The layout of a packet. -/
def body : Family → Measurement → List (Option UInt8)
  | pandar40P => Measurement.rawBody
  | l64 => l64Format.body
  | l20 => l20Format.body
  | qt => qtFormat.body
  | xt => xtFormat.body

/-- The counts of the measurement are possible in a packet of length `len`. -/
def Carries : Family → Measurement → Nat → Prop
  | pandar40P, m, _ => m.lasers = laserCount ∧ m.firings.length = blocksPerPacket
  | l64, m, len => l64Format.Carries m len
  | l20, m, len => l20Format.Carries m len
  | qt, m, len => qtFormat.Carries m len
  | xt, m, len => xtFormat.Carries m len

/-- What the measurement is parsed to. -/
def parsed (charSigned : Bool) : Family → Measurement → ParsedPacket
  | pandar40P, m => .pandar40P m.parsedRaw
  | l64, m => .l64 (l64Format.parsedPacket charSigned m)
  | l20, m => .l20 (l20Format.parsedPacket charSigned m)
  | qt, m => .qt (qtFormat.parsedPacket charSigned m)
  | xt, m => .xt (xtFormat.parsedPacket charSigned m)

end Family

/-- What a driver for the lidar type takes: a measurement in a packet of one of the families. The
    type decides only which lengths of XT packets there are. -/
structure Datagram (lidarType : String) where
  family : Family
  measurement : Measurement
  length : Nat
  length_mem : length ∈ family.lengths lidarType
  carries : family.Carries measurement length

namespace Datagram

variable {lidarType : String}

/-- The layout. -/
def body (d : Datagram lidarType) : List (Option UInt8) := d.family.body d.measurement

/-- What it is parsed to. -/
def parsed (charSigned : Bool) (d : Datagram lidarType) : ParsedPacket :=
  d.family.parsed charSigned d.measurement

/-- The packet has the length and the layout. -/
structure In {F : Type} (d : Datagram lidarType) (packet : PandarPacket F) : Prop where
  size : packet.size = d.length
  data : At packet.data 0 d.body

end Datagram

theorem IsFamily.proper {fmt : Format} {parsed : LidarPacket → ParsedPacket}
    (h : IsFamily fmt parsed) : fmt.Proper := by
  cases h <;> constructor <;> decide

/-- The parser of a header-driven family. -/
theorem IsFamily.map_parseData {fmt : Format} {parsed : LidarPacket → ParsedPacket}
    (hfamily : IsFamily fmt parsed) (charSigned : Bool) {m : Measurement} {len : Nat}
    (hlen : len ∈ fmt.lengths) (hcarries : fmt.Carries m len) (h : At recvbuf 0 (fmt.body m)) :
    (parseData fmt charSigned recvbuf len).val.map parsed =
      some (parsed (fmt.parsedPacket charSigned m)) := by
  rw [Format.val_parseData charSigned hfamily.proper hlen hcarries h, Option.map_some]

/-- Every datagram is parsed to what was measured, whatever stands in the bytes that its layout
    leaves open and behind them. -/
theorem Datagram.In.parsePacket_eq {F : Type} {cfg : Config F} {d : Datagram cfg.lidarType}
    {packet : PandarPacket F} (h : d.In packet) :
    parsePacket cfg packet = some (d.parsed cfg.charSigned) := by
  obtain ⟨family, m, len, hlen, hcarries⟩ := d
  obtain ⟨hsize, hat⟩ := h
  simp only at hsize
  subst hsize
  -- the lengths of the families are different
  cases family with
  | pandar40P =>
    have h40 : packet.size = packetSize ∨ packet.size = packetSize + seqNumSize := by
      simpa [Family.lengths] using hlen
    rw [parsePacket, if_pos h40, val_parseRawData h40 hcarries.1 hcarries.2 hat]
    rfl
  | l64 =>
    have hall : ∀ len ∈ Family.l64.lengths "",
        ¬ (len = packetSize ∨ len = packetSize + seqNumSize) ∧
          (len = hsLidarL64Packet6Size ∨ len = hsLidarL64Packet7Size ∨
            len = hsLidarL64Packet6WithoutUDPSeqSize ∨ len = hsLidarL64Packet7WithoutUDPSeqSize) ∧
          len ∈ l64Format.lengths := by decide
    obtain ⟨h40, h64, hin⟩ := hall _ hlen
    rw [parsePacket, if_neg h40, if_pos h64]
    exact IsFamily.l64.map_parseData cfg.charSigned hin hcarries hat
  | l20 =>
    have hall : ∀ len ∈ Family.l20.lengths "",
        ¬ (len = packetSize ∨ len = packetSize + seqNumSize) ∧
          ¬ (len = hsLidarL64Packet6Size ∨ len = hsLidarL64Packet7Size ∨
            len = hsLidarL64Packet6WithoutUDPSeqSize ∨ len = hsLidarL64Packet7WithoutUDPSeqSize) ∧
          len = hsLidarL20PacketSize ∧ len ∈ l20Format.lengths := by decide
    obtain ⟨h40, h64, h20, hin⟩ := hall _ hlen
    rw [parsePacket, if_neg h40, if_neg h64, if_pos h20]
    exact IsFamily.l20.map_parseData cfg.charSigned hin hcarries hat
  | qt =>
    have hall : ∀ len ∈ Family.qt.lengths "",
        ¬ (len = packetSize ∨ len = packetSize + seqNumSize) ∧
          ¬ (len = hsLidarL64Packet6Size ∨ len = hsLidarL64Packet7Size ∨
            len = hsLidarL64Packet6WithoutUDPSeqSize ∨ len = hsLidarL64Packet7WithoutUDPSeqSize) ∧
          len ≠ hsLidarL20PacketSize ∧
          (len = hsLidarQTPacketSize ∨ len = hsLidarQTPacketWithoutUDPSeqSize) ∧
          len ∈ qtFormat.lengths := by decide
    obtain ⟨h40, h64, h20, hqt, hin⟩ := hall _ hlen
    rw [parsePacket, if_neg h40, if_neg h64, if_neg h20, if_pos hqt]
    exact IsFamily.qt.map_parseData cfg.charSigned hin hcarries hat
  | xt =>
    have hxt : (packet.size = hsLidarXTPacketSize ∧
          (cfg.lidarType = "XT" ∨ cfg.lidarType = "PandarXT-32")) ∨
        (packet.size = hsLidarXT16PacketSize ∧ cfg.lidarType = "PandarXT-16") ∨
        (packet.size = hsLidarXTMPacketSize ∧ cfg.lidarType = "PandarXTM") := by
      simp only [Family.lengths] at hlen
      split at hlen
      · next hname => exact Or.inl ⟨List.mem_singleton.mp hlen, hname⟩
      split at hlen
      · next hname => exact Or.inr (Or.inl ⟨List.mem_singleton.mp hlen, hname⟩)
      split at hlen
      · next hname => exact Or.inr (Or.inr ⟨List.mem_singleton.mp hlen, hname⟩)
      · exact absurd hlen List.not_mem_nil
    have hall : ∀ len ∈ xtFormat.lengths,
        ¬ (len = packetSize ∨ len = packetSize + seqNumSize) ∧
          ¬ (len = hsLidarL64Packet6Size ∨ len = hsLidarL64Packet7Size ∨
            len = hsLidarL64Packet6WithoutUDPSeqSize ∨ len = hsLidarL64Packet7WithoutUDPSeqSize) ∧
          len ≠ hsLidarL20PacketSize ∧
          ¬ (len = hsLidarQTPacketSize ∨ len = hsLidarQTPacketWithoutUDPSeqSize) := by decide
    have hin : packet.size ∈ xtFormat.lengths := by
      simp only [xtFormat, List.mem_cons]
      tauto
    obtain ⟨h40, h64, h20, hqt⟩ := hall _ hin
    rw [parsePacket, if_neg h40, if_neg h64, if_neg h20, if_neg hqt, if_pos hxt]
    exact IsFamily.xt.map_parseData cfg.charSigned hin hcarries hat

end Hesai
