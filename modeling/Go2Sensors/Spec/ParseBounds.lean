import Mathlib.Tactic.Ring
import Go2Sensors.Native.Launch

/-!
# What the header-driven parsers touch

The recorded accesses of `parseData`, loop by loop (`all_parseUnits`,
`all_parseBlocks`), and from them the exact condition under which a parser stays
inside the packet and inside the arrays of its packet structure
(`parseData_safe_iff`). The parsers never compare the two header counts with the
length or with the array bounds, so the condition is on the bytes of the header.

## Key results

- `header_parsers_safe_iff`: the condition, for the four parsers
- `xt_header_overrun`: an XT packet with nine blocks is accepted
-/

namespace Hesai

open Traced

variable {P : Access → Prop} {recvbuf : Nat → UInt8}

/-! ## Accesses of the readers -/

theorem all_readByte {i : Nat} : All P (readByte recvbuf i) ↔ P (.read i) := by
  simp only [readByte, all_bind, all_tell, All.pure, and_true]

theorem all_readUInt16LE {i : Nat} :
    All P (readUInt16LE recvbuf i) ↔ P (.read i) ∧ P (.read (i + 1)) := by
  simp [readUInt16LE, all_bind, all_readByte, All.pure]

theorem all_readUInt16BE {i : Nat} :
    All P (readUInt16BE recvbuf i) ↔ P (.read i) ∧ P (.read (i + 1)) := by
  simp [readUInt16BE, all_bind, all_readByte, All.pure]

/-- A read of four bytes touches these four bytes. -/
theorem all_readUInt32LE {i : Nat} :
    All P (readUInt32LE recvbuf i) ↔ ∀ k < 4, P (.read (i + k)) := by
  simp only [readUInt32LE, all_bind, all_readByte, All.pure, and_true]
  constructor
  · rintro ⟨h0, h1, h2, h3⟩ k hk
    obtain rfl | rfl | rfl | rfl : k = 0 ∨ k = 1 ∨ k = 2 ∨ k = 3 := by omega
    all_goals assumption
  · intro h
    exact ⟨h 0 (by omega), h 1 (by omega), h 2 (by omega), h 3 (by omega)⟩

/-- The UTC time is six bytes. -/
theorem all_readAddtime {i : Nat} :
    All P (readAddtime recvbuf i) ↔ ∀ k < 6, P (.read (i + k)) := by
  simp only [readAddtime, all_bind, all_readByte, All.pure, and_true]
  constructor
  · rintro ⟨h0, h1, h2, h3, h4, h5⟩ k hk
    obtain rfl | rfl | rfl | rfl | rfl | rfl :
      k = 0 ∨ k = 1 ∨ k = 2 ∨ k = 3 ∨ k = 4 ∨ k = 5 := by omega
    all_goals assumption
  · intro h
    exact ⟨h 0 (by omega), h 1 (by omega), h 2 (by omega), h 3 (by omega), h 4 (by omega),
      h 5 (by omega)⟩

theorem all_readChar {charSigned : Bool} {i : Nat} :
    All P (readChar charSigned recvbuf i) ↔ P (.read i) := by
  simp [readChar, all_bind, all_readByte, All.pure]

/-! ## Accesses of the loops -/

/-- The byte index after the unit loop. -/
theorem parseUnits_index (readUnit : Nat → Traced Access LidarUnit) (unitSize block n : Nat)
    (unit index : Nat) :
    (parseUnits readUnit unitSize block n unit index).val.2 = index + n * unitSize := by
  induction n generalizing unit index with
  | zero => simp [parseUnits]
  | succ n ih => simp only [parseUnits, val_bind, val_pure, ih]; ring

/-- The unit loop reads each unit at its place and stores it under its number. -/
theorem all_parseUnits (readUnit : Nat → Traced Access LidarUnit) (unitSize block n : Nat)
    (unit index : Nat) :
    All P (parseUnits readUnit unitSize block n unit index) ↔
      ∀ k < n, All P (readUnit (index + k * unitSize)) ∧ P (.unit block (unit + k)) := by
  induction n generalizing unit index with
  | zero => simp [parseUnits, All.pure]
  | succ n ih =>
    simp only [parseUnits, all_bind, all_tell, ih, All.pure, and_true]
    constructor
    · rintro ⟨hread, hstore, hrest⟩ k hk
      cases k with
      | zero => simpa using ⟨hread, hstore⟩
      | succ k =>
        have := hrest k (by omega)
        rwa [show index + unitSize + k * unitSize = index + (k + 1) * unitSize by ring,
          show unit + 1 + k = unit + (k + 1) by ring] at this
    · intro h
      have h0 := h 0 (by omega)
      refine ⟨by simpa using h0.1, by simpa using h0.2, fun k hk => ?_⟩
      have := h (k + 1) (by omega)
      rwa [show index + (k + 1) * unitSize = index + unitSize + k * unitSize by ring,
        show unit + (k + 1) = unit + 1 + k by ring] at this

section Blocks

variable (readAzimuth : Nat → Traced Access Nat) (readUnit : Nat → Traced Access LidarUnit)
  (headerSize unitSize unitNum : Nat)

/-- The byte index after the block loop. -/
theorem parseBlocks_index (n block index : Nat) :
    (parseBlocks readAzimuth readUnit headerSize unitSize unitNum n block index).val.2 =
      index + n * (headerSize + unitNum * unitSize) := by
  induction n generalizing block index with
  | zero => simp [parseBlocks]
  | succ n ih => simp only [parseBlocks, val_bind, val_pure, ih, parseUnits_index]; ring

/-- The block loop makes as many blocks as it is told to. -/
theorem length_parseBlocks (n block index : Nat) :
    (parseBlocks readAzimuth readUnit headerSize unitSize unitNum n block index).val.1.length =
      n := by
  induction n generalizing block index with
  | zero => rfl
  | succ n ih => simp only [parseBlocks, val_bind, val_pure, List.length_cons, ih]

/-- The block loop visits block after block at its place. -/
theorem all_parseBlocks (n block index : Nat) :
    All P (parseBlocks readAzimuth readUnit headerSize unitSize unitNum n block index) ↔
      ∀ k < n,
        All P (readAzimuth (index + k * (headerSize + unitNum * unitSize))) ∧
        P (.block (block + k)) ∧
        ∀ j < unitNum,
          All P (readUnit (index + k * (headerSize + unitNum * unitSize) + headerSize +
            j * unitSize)) ∧
          P (.unit (block + k) j) := by
  induction n generalizing block index with
  | zero => simp [parseBlocks, All.pure]
  | succ n ih =>
    simp only [parseBlocks, all_bind, all_tell, ih, all_parseUnits, parseUnits_index, All.pure,
      and_true, Nat.zero_add]
    constructor
    · rintro ⟨hazimuth, hstore, hunits, hrest⟩ k hk
      cases k with
      | zero =>
        refine ⟨by simpa using hazimuth, by simpa using hstore, ?_⟩
        simpa using hunits
      | succ k =>
        have := hrest k (by omega)
        rwa [show index + headerSize + unitNum * unitSize + k * (headerSize + unitNum * unitSize) =
            index + (k + 1) * (headerSize + unitNum * unitSize) by ring,
          show block + 1 + k = block + (k + 1) by ring] at this
    · intro h
      have h0 := h 0 (by omega)
      refine ⟨by simpa using h0.1, by simpa using h0.2.1, by simpa using h0.2.2,
        fun k hk => ?_⟩
      have := h (k + 1) (by omega)
      rwa [show index + (k + 1) * (headerSize + unitNum * unitSize) =
          index + headerSize + unitNum * unitSize + k * (headerSize + unitNum * unitSize) by ring,
        show block + (k + 1) = block + 1 + k by ring] at this

end Blocks

/-! ## The header -/

/-- The packet starts with the bytes `EE FF`. -/
def SobOk (recvbuf : Nat → UInt8) : Prop :=
  (recvbuf 0).toNat <<< 8 ||| (recvbuf 1).toNat = 0xEEFF

instance (recvbuf : Nat → UInt8) : Decidable (SobOk recvbuf) :=
  inferInstanceAs (Decidable (_ = _))

/-- The laser count of the header. -/
def headerLasers (fmt : Format) (recvbuf : Nat → UInt8) : Nat :=
  (recvbuf fmt.laserNumberIndex).toNat

/-- The block count of the header. -/
def headerBlocks (fmt : Format) (recvbuf : Nat → UInt8) : Nat :=
  (recvbuf (fmt.laserNumberIndex + 1)).toNat

/-- The counts of the header fit the length: header, blocks and tail together are not
    longer than the packet. -/
def CountsFit (fmt : Format) (recvbuf : Nat → UInt8) (len : Nat) : Prop :=
  fmt.headSize + headerBlocks fmt recvbuf *
      (fmt.blockHeaderAzimuth + headerLasers fmt recvbuf * fmt.unitSize) + fmt.tailSize ≤ len

/-- The loops stay inside the arrays of the packet structure. The loop bounds are the
    counts as members of type `char`; a negative one means no iteration. -/
def LoopsFit (fmt : Format) (charSigned : Bool) (recvbuf : Nat → UInt8) : Prop :=
  (toChar charSigned (headerBlocks fmt recvbuf)).toNat ≤ fmt.blockNumber ∧
    (0 < (toChar charSigned (headerBlocks fmt recvbuf)).toNat →
      (toChar charSigned (headerLasers fmt recvbuf)).toNat ≤ fmt.unitNum)

instance (fmt : Format) (recvbuf : Nat → UInt8) (len : Nat) :
    Decidable (CountsFit fmt recvbuf len) :=
  inferInstanceAs (Decidable (_ ≤ _))

instance (fmt : Format) (charSigned : Bool) (recvbuf : Nat → UInt8) :
    Decidable (LoopsFit fmt charSigned recvbuf) :=
  inferInstanceAs (Decidable (_ ∧ _))

/-- As a loop bound a `char` is at most the byte. -/
theorem toChar_toNat_le (charSigned : Bool) (byte : Nat) :
    (toChar charSigned byte).toNat ≤ byte := by
  unfold toChar
  split <;> omega

@[simp] theorem val_parseHeader_sob (fmt : Format) (charSigned : Bool) (recvbuf : Nat → UInt8) :
    (parseHeader fmt charSigned recvbuf).val.sob =
      (recvbuf 0).toNat <<< 8 ||| (recvbuf 1).toNat := rfl

@[simp] theorem val_parseHeader_laserNumber (fmt : Format) (charSigned : Bool)
    (recvbuf : Nat → UInt8) :
    (parseHeader fmt charSigned recvbuf).val.chLaserNumber =
      toChar charSigned (headerLasers fmt recvbuf) := rfl

@[simp] theorem val_parseHeader_blockNumber (fmt : Format) (charSigned : Bool)
    (recvbuf : Nat → UInt8) :
    (parseHeader fmt charSigned recvbuf).val.chBlockNumber =
      toChar charSigned (headerBlocks fmt recvbuf) := rfl

/-- The header is read from its own bytes. -/
theorem all_parseHeader (fmt : Format) (charSigned : Bool)
    (h : ∀ i < fmt.headSize, P (.read i)) : All P (parseHeader fmt charSigned recvbuf) := by
  have hle := fmt.head_le
  simp only [parseHeader, all_bind, all_readUInt16BE, all_onlyIf, all_readChar, All.pure, and_true]
  exact ⟨⟨h _ (by omega), h _ (by omega)⟩, fun _ => h _ (by omega), fun _ => h _ (by omega),
    h _ (by omega), h _ (by omega), h _ (by omega), h _ (by omega)⟩

/-- A unit is read from its own bytes. -/
theorem all_parseUnit (fmt : Format) (disUnit : Int) {i : Nat}
    (h : ∀ k < fmt.unitSize, P (.read (i + k))) : All P (parseUnit fmt recvbuf disUnit i) := by
  have hle := fmt.unit_le
  simp only [parseUnit, all_bind, all_readUInt16LE, all_readByte, all_onlyIf, All.pure, and_true]
  refine ⟨⟨h 0 ?_, h 1 ?_⟩, h 2 ?_, fun hconf => h 3 ?_⟩
  · split at hle <;> omega
  · split at hle <;> omega
  · split at hle <;> omega
  · rw [if_pos hconf] at hle
    omega

/-! ## Safety of a parser -/

/-- A byte inside the packet, a block or a unit inside the arrays. -/
def Access.InBounds (fmt : Format) (len : Nat) : Access → Prop
  | .read i => i < len
  | .block b => b < fmt.blockNumber
  | .unit b u => b < fmt.blockNumber ∧ u < fmt.unitNum

/-- What a parser of untrusted packets owes: an accepted packet was read and stored in
    bounds, and a header whose counts do not fit the length is rejected. -/
def ParserSafe (fmt : Format) (recvbuf : Nat → UInt8) (len : Nat)
    (result : Traced Access (Option LidarPacket)) : Prop :=
  (result.val.isSome → All (Access.InBounds fmt len) result) ∧
    (¬ CountsFit fmt recvbuf len → result.val = none)

/-- A parser of an admitted length accepts every packet with the right start. -/
theorem parseData_isSome (fmt : Format) (charSigned : Bool) {len : Nat}
    (hlen : len ∈ fmt.lengths) :
    (parseData fmt charSigned recvbuf len).val.isSome ↔ SobOk recvbuf := by
  unfold parseData
  rw [if_neg (not_not_intro hlen), val_bind]
  by_cases hsob : SobOk recvbuf
  · simp [hsob, show _ = _ from hsob]
  · simp [hsob, show _ ≠ _ from hsob]

/-- The byte index after the last block. -/
def blocksEnd (fmt : Format) (charSigned : Bool) (recvbuf : Nat → UInt8) : Nat :=
  fmt.headSize + (toChar charSigned (headerBlocks fmt recvbuf)).toNat *
    (fmt.blockHeaderAzimuth + (toChar charSigned (headerLasers fmt recvbuf)).toNat * fmt.unitSize)

/-- The blocks end before the place that the bytes of the header announce. -/
theorem blocksEnd_le (fmt : Format) (charSigned : Bool) {len : Nat}
    (hfit : CountsFit fmt recvbuf len) :
    blocksEnd fmt charSigned recvbuf + fmt.tailSize ≤ len := by
  have hblocks := toChar_toNat_le charSigned (headerBlocks fmt recvbuf)
  have hlasers := Nat.mul_le_mul_right fmt.unitSize
    (toChar_toNat_le charSigned (headerLasers fmt recvbuf))
  -- a negative count makes the loops shorter than announced
  have hbody := Nat.mul_le_mul hblocks (Nat.add_le_add_left hlasers fmt.blockHeaderAzimuth)
  unfold CountsFit at hfit
  unfold blocksEnd
  omega

/-- Unit `j` of block `k` lies before the end of the blocks. -/
private theorem unit_end_le {k n j m : Nat} (a u : Nat) (hk : k < n) (hj : j < m) :
    k * (a + m * u) + a + (j + 1) * u ≤ n * (a + m * u) := by
  have hunit : (j + 1) * u ≤ m * u := Nat.mul_le_mul_right u hj
  have hblock : (k + 1) * (a + m * u) ≤ n * (a + m * u) := Nat.mul_le_mul_right _ hk
  rw [Nat.succ_mul] at hblock
  omega

/-- The accesses of an accepted packet: header, blocks and tail. -/
theorem all_parseData (fmt : Format) (charSigned : Bool) {len : Nat} (hlen : len ∈ fmt.lengths)
    (hsob : SobOk recvbuf) :
    All P (parseData fmt charSigned recvbuf len) ↔
      All P (parseHeader fmt charSigned recvbuf) ∧
      All P (parseBlocks (readUInt16LE recvbuf)
        (parseUnit fmt recvbuf (parseHeader fmt charSigned recvbuf).val.chDisUnit)
        fmt.blockHeaderAzimuth fmt.unitSize (toChar charSigned (headerLasers fmt recvbuf)).toNat
        (toChar charSigned (headerBlocks fmt recvbuf)).toNat 0 fmt.headSize) ∧
      (∀ k < 4, P (.read (blocksEnd fmt charSigned recvbuf + fmt.timestampOffset + k))) ∧
      P (.read (blocksEnd fmt charSigned recvbuf + fmt.echoOffset)) ∧
      (∀ k < 6, P (.read (blocksEnd fmt charSigned recvbuf + fmt.utcOffset + k))) := by
  unfold parseData
  -- the length is admitted and the start bytes are right: no early return
  rw [if_neg (not_not_intro hlen), all_bind]
  simp only [val_parseHeader_sob, show _ = _ from hsob, bne_self_eq_false, Bool.false_eq_true,
    ↓reduceIte, all_bind, all_readUInt32LE, all_readByte, all_readAddtime, parseBlocks_index,
    val_parseHeader_laserNumber, val_parseHeader_blockNumber, All.pure, and_true, blocksEnd]

/-- If an accepted packet is stored in bounds, its loop bounds fit the arrays. -/
theorem loopsFit_of_inBounds (fmt : Format) (charSigned : Bool) {len : Nat}
    (hlen : len ∈ fmt.lengths) (hsob : SobOk recvbuf)
    (hbounds : All (Access.InBounds fmt len) (parseData fmt charSigned recvbuf len)) :
    LoopsFit fmt charSigned recvbuf := by
  obtain ⟨-, hblocks, -⟩ := (all_parseData fmt charSigned hlen hsob).mp hbounds
  rw [all_parseBlocks] at hblocks
  constructor
  · -- one block too many would have been stored
    by_contra hlt
    have hstore := (hblocks fmt.blockNumber (by omega)).2.1
    simp [Access.InBounds] at hstore
  · -- one unit too many would have been stored in the first block
    intro hpos
    by_contra hlt
    have hstore := ((hblocks 0 hpos).2.2 fmt.unitNum (by omega)).2
    simp [Access.InBounds] at hstore

/-- An accepted packet whose counts fit is read and stored in bounds. -/
theorem inBounds_of_fits (fmt : Format) (charSigned : Bool) {len : Nat}
    (hlen : len ∈ fmt.lengths) (hsob : SobOk recvbuf) (hfit : CountsFit fmt recvbuf len)
    (hloops : LoopsFit fmt charSigned recvbuf) :
    All (Access.InBounds fmt len) (parseData fmt charSigned recvbuf len) := by
  obtain ⟨hblockNum, hunitNum⟩ := hloops
  -- everything that is read lies before the end of the tail
  have hend := blocksEnd_le fmt charSigned hfit
  unfold Format.tailSize at hend
  have htail := Nat.le_max_left (fmt.timestampOffset + 4)
    (max (fmt.echoOffset + 1) (fmt.utcOffset + 6))
  rw [all_parseData fmt charSigned hlen hsob]
  refine ⟨all_parseHeader fmt charSigned fun i hi => ?_, ?_, fun k hk => ?_, ?_, fun k hk => ?_⟩
  · change i < len
    unfold blocksEnd at hend
    omega
  · rw [all_parseBlocks]
    intro k hk
    have hazimuth := fmt.azimuth_le
    have hblock := Nat.mul_le_mul_right (fmt.blockHeaderAzimuth +
      (toChar charSigned (headerLasers fmt recvbuf)).toNat * fmt.unitSize) hk
    rw [Nat.succ_mul] at hblock
    unfold blocksEnd at hend
    refine ⟨all_readUInt16LE.mpr ⟨?_, ?_⟩, ?_, fun j hj =>
      ⟨all_parseUnit fmt _ fun t ht => ?_, ?_, ?_⟩⟩
    · change _ < len
      omega
    · change _ < len
      omega
    · change 0 + k < fmt.blockNumber
      omega
    · -- byte `t` of unit `j` of block `k`
      have hunit := unit_end_le fmt.blockHeaderAzimuth fmt.unitSize hk hj
      rw [Nat.succ_mul] at hunit
      change _ < len
      omega
    · omega
    · -- there is a block, so the bound on the units holds
      have := hunitNum (by omega)
      omega
  -- the tail: timestamp, echo and UTC time
  · change _ < len
    omega
  · change _ < len
    omega
  · change _ < len
    omega

/-- A parser stays in bounds exactly when it rejects the start of the packet or the
    counts of the header fit both the length and, as loop bounds, the arrays. -/
theorem parseData_safe_iff (fmt : Format) (charSigned : Bool) (recvbuf : Nat → UInt8) {len : Nat}
    (hlen : len ∈ fmt.lengths) :
    ParserSafe fmt recvbuf len (parseData fmt charSigned recvbuf len) ↔
      ¬ SobOk recvbuf ∨ (CountsFit fmt recvbuf len ∧ LoopsFit fmt charSigned recvbuf) := by
  have hsome := @parseData_isSome recvbuf fmt charSigned len hlen
  by_cases hsob : SobOk recvbuf
  · rw [or_iff_right (not_not_intro hsob)]
    constructor
    · rintro ⟨hbounds, hreject⟩
      have haccept := hsome.mpr hsob
      constructor
      · -- a misfit would have been rejected
        by_contra hmisfit
        rw [hreject hmisfit] at haccept
        exact absurd haccept (by decide)
      · exact loopsFit_of_inBounds fmt charSigned hlen hsob (hbounds haccept)
    · rintro ⟨hfit, hloops⟩
      constructor
      · intro _
        exact inBounds_of_fits fmt charSigned hlen hsob hfit hloops
      · intro hmisfit
        exact absurd hfit hmisfit
  · have hnone : (parseData fmt charSigned recvbuf len).val = none := by
      rw [← Option.not_isSome_iff_eq_none, hsome]
      exact hsob
    apply iff_of_true _ (.inl hsob)
    constructor
    · intro haccept
      rw [hnone] at haccept
      exact absurd haccept (by decide)
    · intro _
      exact hnone

/-- The four header-driven parsers: each is safe on a packet of an admitted length
    exactly when the packet does not start with `EE FF`, or the counts of its header fit
    the length and the arrays. -/
theorem header_parsers_safe_iff (charSigned : Bool) (recvbuf : Nat → UInt8) (len : Nat) :
    (len ∈ l64Format.lengths →
      (ParserSafe l64Format recvbuf len (parseL64Data charSigned recvbuf len) ↔
        ¬ SobOk recvbuf ∨
          (CountsFit l64Format recvbuf len ∧ LoopsFit l64Format charSigned recvbuf))) ∧
    (len ∈ l20Format.lengths →
      (ParserSafe l20Format recvbuf len (parseL20Data charSigned recvbuf len) ↔
        ¬ SobOk recvbuf ∨
          (CountsFit l20Format recvbuf len ∧ LoopsFit l20Format charSigned recvbuf))) ∧
    (len ∈ qtFormat.lengths →
      (ParserSafe qtFormat recvbuf len (parseQTData charSigned recvbuf len) ↔
        ¬ SobOk recvbuf ∨
          (CountsFit qtFormat recvbuf len ∧ LoopsFit qtFormat charSigned recvbuf))) ∧
    (len ∈ xtFormat.lengths →
      (ParserSafe xtFormat recvbuf len (parseXTData charSigned recvbuf len) ↔
        ¬ SobOk recvbuf ∨
          (CountsFit xtFormat recvbuf len ∧ LoopsFit xtFormat charSigned recvbuf))) :=
  ⟨parseData_safe_iff l64Format charSigned recvbuf, parseData_safe_iff l20Format charSigned recvbuf,
    parseData_safe_iff qtFormat charSigned recvbuf, parseData_safe_iff xtFormat charSigned recvbuf⟩

/-- A packet of the launched lidar, with eight blocks of sixteen lasers. -/
theorem header_parsers_safe_xt16 :
    let packet := xt16Packet (fun block => 100 * block) fun _ => 1000
    SobOk packet.data ∧
      ParserSafe xtFormat packet.data packet.size (parseXTData true packet.data packet.size) := by
  intro packet
  refine ⟨by decide, ?_⟩
  exact ((header_parsers_safe_iff true packet.data packet.size).2.2.2 (by decide)).mpr
    (Or.inr ⟨by decide, by decide⟩)

/-- An XT packet whose header announces nine blocks of 32 lasers, one block more than
    both the packet and the array have. -/
def nineBlockXT : Nat → UInt8
  | 0 => 0xEE
  | 1 => 0xFF
  | 6 => 32
  | 7 => 9
  | _ => 0

/-- The nine-block packet is accepted, whatever the sign of `char`. -/
theorem xt_header_overrun :
    ¬ ∀ (charSigned : Bool) (recvbuf : Nat → UInt8),
      ParserSafe xtFormat recvbuf hsLidarXTPacketSize
        (parseXTData charSigned recvbuf hsLidarXTPacketSize) := by
  intro hclaim
  have haccept := (@parseData_isSome nineBlockXT xtFormat true hsLidarXTPacketSize
    (by decide)).mpr (by decide)
  have hreject := (hclaim true nineBlockXT).2 (by decide)
  unfold parseXTData at hreject
  rw [hreject] at haccept
  exact absurd haccept (by decide)

end Hesai
