import Mathlib.Tactic.Linarith
import Mathlib.Tactic.Positivity
import Go2Sensors.Spec.CorrectionText
import Go2Sensors.Spec.Definedness

/-!
# Calibrations and packets together

A calibration may be loaded between any two blocks. The indices that the `Calc` functions
compute come from both sides: the laser and the azimuth from the packet, the sizes of the
elevation maps and the offsets from the calibration that was loaded last. Neither side
looks at the other, so the indices are in range as long as every text has a row for each
laser of the lidar type, with an offset that one turn can make up for, and no packet has a
right return of another laser.

## Key results

- `azimuth_lt`: azimuths of parsed blocks have 16 bits
- `TablesOk.step`: what keeps the tables usable
- `calibration_indices_inRange`: the indices are in range in every run
-/

namespace Hesai

open CFloat (ofRat toFloat toInt)
open IStringStream (linesOf)
open Run Traced

/-! ## Azimuths have 16 bits -/

/-- Two bytes make a number of 16 bits. -/
theorem readUInt16LE_lt (recvbuf : Nat → UInt8) (index : Nat) :
    (readUInt16LE recvbuf index).val < 65536 := by
  have hlow : (recvbuf index).toNat < 2 ^ 16 :=
    Nat.lt_trans (recvbuf index).toNat_lt (by decide)
  have hhigh : (recvbuf (index + 1)).toNat <<< 8 < 2 ^ 16 := by
    have h : (recvbuf (index + 1)).toNat < 2 ^ 8 := (recvbuf (index + 1)).toNat_lt
    rw [Nat.shiftLeft_eq]
    omega
  exact Nat.or_lt_two_pow hlow hhigh

/-- The block loop reads the azimuths. -/
theorem azimuth_lt_of_mem_parseBlocks {readAzimuth : Nat → Traced Access Nat}
    (hread : ∀ index, (readAzimuth index).val < 65536)
    {readUnit : Nat → Traced Access LidarUnit} {headerSize unitSize unitNum n block index : Nat}
    {b : LidarBlock}
    (hb : b ∈ (parseBlocks readAzimuth readUnit headerSize unitSize unitNum n block index).val.1) :
    b.azimuth < 65536 := by
  induction n generalizing block index with
  | zero => exact absurd hb List.not_mem_nil
  | succ n ih =>
    simp only [parseBlocks, val_bind, val_pure] at hb
    rcases List.mem_cons.mp hb with rfl | hb
    · exact hread index
    · exact ih hb

/-- The blocks of a header-driven parser. -/
theorem azimuth_lt_of_parseData {fmt : Format} {charSigned : Bool} {recvbuf : Nat → UInt8}
    {len : Nat} {pkt : LidarPacket}
    (h : (parseData fmt charSigned recvbuf len).val = some pkt) :
    ∀ b ∈ pkt.blocks, b.azimuth < 65536 := by
  unfold parseData at h
  split at h
  · -- the length or the start of the packet is wrong
    simp at h
  · rw [val_bind] at h
    split at h
    · simp at h
    · rw [← Option.some.inj h]
      exact fun b hb => azimuth_lt_of_mem_parseBlocks (readUInt16LE_lt recvbuf) hb

/-- Every block of a parsed packet has an azimuth of 16 bits. -/
theorem azimuth_lt {F : Type} {cfg : Config F} {packet : PandarPacket F} {pkt : ParsedPacket}
    (h : parsePacket cfg packet = some pkt) : ∀ b ∈ pkt.blocks, b.azimuth < 65536 := by
  -- the four parsers that read a header
  have hdata : ∀ {fmt : Format} {constructor : LidarPacket → ParsedPacket},
      (∀ pkt, (constructor pkt).blocks = pkt.blocks) →
      (parseData fmt cfg.charSigned packet.data packet.size).val.map constructor = some pkt →
      ∀ b ∈ pkt.blocks, b.azimuth < 65536 := by
    intro fmt constructor hblocks hmap
    obtain ⟨pkt', hparse, rfl⟩ := Option.map_eq_some_iff.mp hmap
    rw [hblocks]
    exact azimuth_lt_of_parseData hparse
  unfold parsePacket at h
  split at h
  · obtain ⟨pkt', hparse, rfl⟩ := Option.map_eq_some_iff.mp h
    -- a Pandar40 packet, whose azimuths stand behind two other bytes
    have hread : ∀ index, (parseRawAzimuth packet.data index).val < 65536 :=
      fun index => readUInt16LE_lt packet.data (index + 2)
    unfold parseRawData at hparse
    split at hparse
    · simp at hparse
    · rw [← Option.some.inj hparse]
      exact fun b hb => azimuth_lt_of_mem_parseBlocks hread hb
  split at h
  · exact hdata (fun _ => rfl) h
  split at h
  · exact hdata (fun _ => rfl) h
  split at h
  · exact hdata (fun _ => rfl) h
  split at h
  · exact hdata (fun _ => rfl) h
  · simp at h

/-! ## Loading between blocks -/

variable {F : Type} [CFloat F]

/-- A call of `LoadCorrectionFile`, or of the `Calc` function for a block of a packet. -/
inductive CalibrationOp (F : Type) where
  | load (env : LoadEnv F) (content : List Char)
  | block (packet : PandarPacket F) (blockid : Nat)

/-- Only a load changes the tables. -/
def calibrationStep (tables : CalibrationTables F) : CalibrationOp F → CalibrationTables F
  | .load env content => (loadCorrectionFile env tables content).tables
  | .block _ _ => tables

/-- Every index that a `Calc` function uses for a right return is in range. -/
def IndicesInRange (cfg : Config F) (tables : CalibrationTables F) : CalibrationOp F → Prop
  | .load _ _ => True
  | .block packet blockid => ∀ pkt, parsePacket cfg packet = some pkt →
      blockid < pkt.blocks.length → ∀ i, pkt.RightReturn blockid i →
        i < tables.elevationSize ∧ AzimuthsInRange cfg tables.toCalibration pkt blockid i

/-! ## What is expected of both sides -/

/-- An offset that one turn makes up for, whatever the azimuth of the block, and that is an
    index of the coordinate correction if there is one. -/
def OffsetInRange (cfg : Config F) (offset : F) : Prop :=
  (∀ azimuth < 65536,
    -36000 ≤ toInt (toFloat (toFloat (offset * ofRat 100) + ofRat (azimuth : Nat))) ∧
    toInt (toFloat (toFloat (offset * ofRat 100) + ofRat (azimuth : Nat))) < 72000) ∧
  (cfg.coordinateCorrectionFlag = true →
    (toInt (toFloat (offset * ofRat 100))).natAbs < 36000)

/-- The text has rows for `lasers` lasers, with offsets in range, and not more rows than
    the row arrays have cells. -/
def LoadsLasers (cfg : Config F) (env : LoadEnv F) (lasers : Nat) (content : List Char) : Prop :=
  (∃ lines rest, (linesOf content).tail = lines ++ rest ∧ lines.length = lasers ∧
    NumberedFrom env 1 lines ∧
    ∀ i (hi : i < lines.length),
      OffsetInRange cfg (toFloat (parseRow env (1 + i) lines[i]).azimuth)) ∧
  ∀ lines, lines <+: (linesOf content).tail → NumberedFrom env 1 lines → lines.length ≤ 64

/-- The condition on a step: a text has rows for all lasers of the lidar type, and a packet
    has right returns of these lasers only. -/
def OpOk (cfg : Config F) : CalibrationOp F → Prop
  | .load env content => LoadsLasers cfg env (initLasers cfg.lidarType) content
  | .block packet blockid => ∀ pkt, parsePacket cfg packet = some pkt →
      blockid < pkt.blocks.length → ∀ i, pkt.RightReturn blockid i → i < initLasers cfg.lidarType

/-- The tables are large enough for the lidar type, with offsets in range. -/
def TablesOk (cfg : Config F) (tables : CalibrationTables F) : Prop :=
  initLasers cfg.lidarType ≤ tables.elevationSize ∧
  ∀ i < initLasers cfg.lidarType, OffsetInRange cfg (tables.horizatalAzimuthOffsetMap i)

/-! ## Construction -/

/-- The accuracy of the arithmetic on angles of up to one turn. The computed values are
    truncated to integers, so the error is less than one and a rounding error. -/
class CFloat.Accurate (F : Type) [CFloat F] : Prop where
  toInt_hundredths (q : Rat) (hq : |q| ≤ 360) :
    |((toInt (toFloat (toFloat (ofRat q) * ofRat 100) : F) : Int) : Rat) - 100 * q| < 2
  toInt_hundredths_add (q : Rat) (n : Nat) (hq : |q| ≤ 360) (hn : n < 65536) :
    |((toInt (toFloat (toFloat (toFloat (ofRat q) * ofRat 100) + ofRat n) : F) : Int) : Rat) -
      (100 * q + n)| < 2

/-- Offsets of a few degrees are in range. -/
theorem offsetInRange_of_abs_le [CFloat.Accurate F] (cfg : Config F) {q : Rat} (hq : |q| ≤ 9) :
    OffsetInRange cfg (toFloat (ofRat q)) := by
  have hturn : |q| ≤ 360 := le_trans hq (by norm_num)
  obtain ⟨hlow, hhigh⟩ := abs_le.mp hq
  constructor
  · -- at most nine degrees below 0 and above the largest azimuth
    intro azimuth hazimuth
    have herror := CFloat.Accurate.toInt_hundredths_add (F := F) q azimuth hturn hazimuth
    have hazimuth' : (azimuth : Rat) < 65536 := by exact_mod_cast hazimuth
    have hpos : (0 : Rat) ≤ azimuth := Nat.cast_nonneg azimuth
    generalize toInt (toFloat (toFloat (toFloat (ofRat q : F) * ofRat 100) + ofRat azimuth)) = k
      at herror ⊢
    obtain ⟨habove, hbelow⟩ := abs_lt.mp herror
    have hlow' : (-36000 : Rat) ≤ k := by linarith
    have hhigh' : (k : Rat) < 72000 := by linarith
    exact ⟨by exact_mod_cast hlow', by exact_mod_cast hhigh'⟩
  · intro _
    -- the index of the coordinate correction
    have herror := CFloat.Accurate.toInt_hundredths (F := F) q hturn
    generalize toInt (toFloat (toFloat (ofRat q : F) * ofRat 100)) = k at herror ⊢
    obtain ⟨habove, hbelow⟩ := abs_lt.mp herror
    have hlow' : (-36000 : Rat) < k := by linarith
    have hhigh' : (k : Rat) < 36000 := by linarith
    have hlow'' : -36000 < k := by exact_mod_cast hlow'
    have hhigh'' : k < 36000 := by exact_mod_cast hhigh'
    omega

/-- All azimuth offsets of the constructor are small. -/
theorem initAngles_abs_le (lidarType : String) : ∀ row ∈ initAngles lidarType, |row.2| ≤ 9 := by
  unfold initAngles
  -- one table for each lidar type
  repeat' split
  all_goals decide +kernel

/-- The constructor leaves usable tables, for every lidar type. -/
theorem TablesOk.init [CFloat.Accurate F] (cfg : Config F) (env : LoadEnv F)
    (stale : CalibrationTables F) : TablesOk cfg (initCalibration env stale cfg.lidarType) := by
  refine ⟨le_refl _, fun i hi => ?_⟩
  have hrow : (initAngles cfg.lidarType)[i]? = some (initAngles cfg.lidarType)[i] :=
    List.getElem?_eq_getElem hi
  simp only [initCalibration, hrow]
  exact offsetInRange_of_abs_le cfg (initAngles_abs_le _ _ (List.getElem_mem hi))

/-! ## Steps -/

/-- A text with rows for all lasers is loaded into usable tables, whatever follows the
    rows. -/
theorem TablesOk.load {cfg : Config F} {env : LoadEnv F} {content : List Char}
    (h : LoadsLasers cfg env (initLasers cfg.lidarType) content) (tables : CalibrationTables F) :
    TablesOk cfg (loadCorrectionFile env tables content).tables := by
  obtain ⟨⟨lines, rest, hlines, hlength, hnumbered, hoffsets⟩, -⟩ := h
  rw [loadCorrectionFile_eq, hlines]
  obtain ⟨happend, hcounter, -, hcells⟩ := foldRows_of_numbered env lines
    ⟨0, env.elevAngle, env.azimuthOffset, []⟩ hnumbered
  rw [happend]
  -- the rows of `lines` are still there at the end of the loop
  obtain ⟨hmore, hkept⟩ := foldRows_keeps env rest
    (foldRows env lines ⟨0, env.elevAngle, env.azimuthOffset, []⟩)
  rw [hcounter, Nat.zero_add] at hmore hkept
  refine ⟨hlength ▸ hmore, fun i hi => ?_⟩
  have hi' : i < lines.length := hlength ▸ hi
  have hcell := (hcells i hi').2
  rw [Nat.zero_add] at hcell
  simp only [copyRows, if_pos (Nat.lt_of_lt_of_le hi' hmore), (hkept i hi').2, hcell]
  exact hoffsets i hi'

/-- Every step keeps the tables usable. -/
theorem TablesOk.step {cfg : Config F} {tables : CalibrationTables F} {op : CalibrationOp F}
    (h : TablesOk cfg tables) (hop : OpOk cfg op) : TablesOk cfg (calibrationStep tables op) := by
  cases op with
  | load env content => exact TablesOk.load hop tables
  | block packet blockid => exact h

/-- One turn makes up for an offset in range. -/
theorem laserAzimuth_inRange {cfg : Config F} {calib : Calibration F} {i azimuth : Nat}
    (h : OffsetInRange cfg (calib.horizatalAzimuthOffsetMap i)) (hazimuth : azimuth < 65536) :
    0 ≤ laserAzimuth calib i azimuth ∧ laserAzimuth calib i azimuth < 36000 := by
  obtain ⟨hlow, hhigh⟩ := h.1 azimuth hazimuth
  unfold laserAzimuth
  dsimp only
  -- one turn is added or taken off
  split <;> split <;> omega

/-- With usable tables, the indices of every block are in range. -/
theorem TablesOk.indicesInRange {cfg : Config F} {tables : CalibrationTables F}
    {op : CalibrationOp F} (h : TablesOk cfg tables) (hop : OpOk cfg op) :
    IndicesInRange cfg tables op := by
  cases op with
  | load env content => trivial
  | block packet blockid =>
    intro pkt hparse hblock i hright
    -- the laser is one of the lidar type, so its row is in the tables
    have hlaser : i < initLasers cfg.lidarType := hop pkt hparse hblock i hright
    have hoffset := h.2 i hlaser
    have hazimuth : (pkt.blocks.getD blockid default).azimuth < 65536 := by
      rw [List.getD_eq_getElem _ _ hblock]
      exact azimuth_lt hparse _ (List.getElem_mem hblock)
    exact ⟨Nat.lt_of_lt_of_le hlaser h.1, laserAzimuth_inRange hoffset hazimuth,
      fun _ hcorrection => hoffset.2 hcorrection⟩

/-! ## Runs -/

/-- In every run from a constructed instance in which each text that is loaded has rows for
    all lasers of the lidar type and each packet is of this type, every index is in range. -/
theorem calibration_indices_inRange [CFloat.Accurate F] (cfg : Config F) (env : LoadEnv F)
    (stale : CalibrationTables F) (ops : List (CalibrationOp F)) (h : ∀ op ∈ ops, OpOk cfg op) :
    EachStep calibrationStep (IndicesInRange cfg) (initCalibration env stale cfg.lidarType) ops :=
  eachStep_of_inv (P := TablesOk cfg) (TablesOk.init cfg env stale)
    (fun _ op hop htables => htables.step (h op hop))
    (fun _ op hop htables => htables.indicesInRange (h op hop))

/-- Truncation is off by less than one. -/
theorem abs_trunc_sub_lt {K : Type} [Field K] [LinearOrder K] [IsStrictOrderedRing K]
    [FloorRing K] (x : K) : |(((if 0 ≤ x then ⌊x⌋ else -⌊-x⌋) : Int) : K) - x| < 1 := by
  rw [abs_lt]
  split
  · -- towards zero from above
    have hle := Int.floor_le x
    have hlt := Int.lt_floor_add_one x
    constructor <;> linarith
  · -- towards zero from below
    have hle := Int.floor_le (-x)
    have hlt := Int.lt_floor_add_one (-x)
    push_cast
    constructor <;> linarith

instance : CFloat.Accurate Rat where
  toInt_hundredths q _ := by
    have herror : |((toInt (q * 100) : Int) : Rat) - q * 100| < 1 := abs_trunc_sub_lt _
    rw [mul_comm 100 q]
    exact lt_trans herror (by norm_num)
  toInt_hundredths_add q n _ _ := by
    have herror : |((toInt (q * 100 + n) : Int) : Rat) - (q * 100 + n)| < 1 := abs_trunc_sub_lt _
    rw [mul_comm 100 q]
    exact lt_trans herror (by norm_num)

/-- The text of a PandarXT-16 with offsets of half a degree. -/
def sixteenRows : List Char :=
  "Laser id,Elevation,Azimuth\n".toList ++
    (List.range 16).flatMap fun i => (toString (i + 1) ++ ",15,.5\n").toList

/-- A row is read the same way into variables of any type: if something is stored, it is the
    same number. -/
theorem parseRow_of_rat (env : LoadEnv F) (env' : LoadEnv Rat) (row : Nat) (line : List Char) :
    (parseRow env row line).lineId = (parseRow env' row line).lineId ∧
      ((parseRow env' row line).azimuth ≠ env'.azimuth row →
        (parseRow env row line).azimuth = ofRat (parseRow env' row line).azimuth) := by
  refine ⟨rfl, fun hread => ?_⟩
  simp only [parseRow] at hread ⊢
  generalize Decimal.scanDouble _ = scanned at hread ⊢
  cases scanned with
  -- nothing is stored, and the variable keeps its value
  | untouched => exact absurd rfl hread
  | read q => rfl
  | failed q => rfl

/-- The rows of this text, for variables of any type. -/
theorem numbered_sixteenRows (env : LoadEnv F) : (linesOf sixteenRows).tail.length = 16 ∧
    NumberedFrom env 1 (linesOf sixteenRows).tail ∧
    ∀ i (hi : i < (linesOf sixteenRows).tail.length),
      (parseRow env (1 + i) (linesOf sixteenRows).tail[i]).azimuth = ofRat (1 / 2) := by
  -- over the rationals the rows can be evaluated
  have hrows : (linesOf sixteenRows).tail.length = 16 ∧
      ∀ i (hi : i < (linesOf sixteenRows).tail.length),
        let line := (linesOf sixteenRows).tail[i]
        let row := parseRow LoadEnv.launch (1 + i) line
        5 ≤ line.length ∧ row.lineId = (1 + i : Nat) ∧ row.azimuth = 1 / 2 := by
    decide +kernel
  obtain ⟨hlength, hrow⟩ := hrows
  refine ⟨hlength, fun i hi => ⟨(hrow i hi).1, ?_⟩, fun i hi => ?_⟩
  · exact (parseRow_of_rat env LoadEnv.launch (1 + i) _).1.trans (hrow i hi).2.1
  · -- the value is not the one that the variable had before
    have hread := (parseRow_of_rat env LoadEnv.launch (1 + i) (linesOf sixteenRows).tail[i]).2
    rw [(hrow i hi).2.2] at hread
    exact hread (show (1 / 2 : Rat) ≠ 99 by norm_num)

theorem loadsLasers_sixteenRows [CFloat.Accurate F] (cfg : Config F) (env : LoadEnv F) :
    LoadsLasers cfg env 16 sixteenRows := by
  obtain ⟨hlength, hnumbered, hazimuth⟩ := numbered_sixteenRows env
  refine ⟨⟨_, [], (List.append_nil _).symm, hlength, hnumbered, fun i hi => ?_⟩,
    fun lines hprefix _ => ?_⟩
  · rw [hazimuth i hi]
    exact offsetInRange_of_abs_le cfg (by norm_num : |(1 / 2 : Rat)| ≤ 9)
  · have hle := hprefix.length_le
    omega

/-- A PandarXT-16 that loads such a text and then processes a block. -/
theorem calibration_indices_inRange_launch :
    EachStep calibrationStep (IndicesInRange launchConfig)
      (initCalibration LoadEnv.launch ⟨Calibration.zero, 0⟩ launchConfig.lidarType)
      [.load LoadEnv.launch sixteenRows, .block (xt16Packet (fun _ => 36001) fun _ => 1000) 0] := by
  refine calibration_indices_inRange launchConfig LoadEnv.launch ⟨Calibration.zero, 0⟩ _ ?_
  simp only [List.forall_mem_cons, List.not_mem_nil, false_imp_iff, implies_true, and_true]
  refine ⟨loadsLasers_sixteenRows launchConfig LoadEnv.launch, ?_⟩
  have hlasers : ∀ pkt ∈ parsePacket launchConfig (xt16Packet (fun _ => 36001) fun _ => 1000),
      pkt.laserNumber.toNat = initLasers launchConfig.lidarType := by
    decide +kernel
  intro pkt hparse _ i hright
  rw [← hlasers pkt hparse]
  exact hright.1

/-- A text of one row is loaded with the return value `0`, and the second laser of the next
    packet is out of range. -/
theorem shortTable_out_of_range :
    let tables := initCalibration LoadEnv.launch ⟨Calibration.zero, 0⟩ launchConfig.lidarType
    let oneRow := "Laser id,Elevation,Azimuth\n1,15,0\n".toList
    (loadCorrectionFile LoadEnv.launch tables oneRow).ret = 0 ∧
      ¬ EachStep calibrationStep (IndicesInRange launchConfig) tables
        [.load LoadEnv.launch oneRow, .block (xt16Packet (fun _ => 0) fun _ => 1000) 0] := by
  intro tables oneRow
  refine ⟨rfl, fun h => ?_⟩
  have hsize : (loadCorrectionFile LoadEnv.launch tables oneRow).tables.elevationSize = 1 := by
    rw [loadCorrectionFile_eq]
    decide +kernel
  have haccepted : (parsePacket launchConfig (xt16Packet (fun _ => 0) fun _ => 1000)).isSome := by
    decide +kernel
  have hsecond : ∀ pkt ∈ parsePacket launchConfig (xt16Packet (fun _ => 0) fun _ => 1000),
      0 < pkt.blocks.length ∧ pkt.RightReturn 0 1 := by
    decide +kernel
  obtain ⟨pkt, hparse⟩ := Option.isSome_iff_exists.mp haccepted
  obtain ⟨hblock, hright⟩ := hsecond pkt hparse
  have hindex := (h.2.1 pkt hparse hblock 1 hright).1
  simp only [calibrationStep, hsize] at hindex
  omega

end Hesai
