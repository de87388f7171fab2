import Go2Sensors.Native.Init
import Go2Sensors.Native.Launch
import Go2Sensors.Spec.ThreadSteps

/-!
# Which table entries a packet needs

Every right return reads the angles of its laser, and without the time of reception also
the time offsets of its block and its laser (`blockReads`). These are all the entries
that the points of a block depend on (`blockPoints_congr`). Packets are told apart by
their length, so the entries that are read need not be those that `Init` assigns for the
lidar type.

## Key results

- `blockPoints_congr`: the points of a block depend on these entries only
- `reads_covered_iff`: when all entries that are read were assigned
- `laser7_not_covered`: laser 7 of a Pandar40P has no time offset
- `blockPoints_of_covered`: covered points do not depend on what the memory held
-/

namespace Hesai

variable {F : Type}

/-! ## Reads -/

/-- The contents of a table. -/
def LookupTable.get (tables : Tables F) (calib : Calibration F) : LookupTable → Nat → F
  | sinElevationMap => calib.sinElevationMap
  | cosElevationMap => calib.cosElevationMap
  | horizatalAzimuthOffsetMap => calib.horizatalAzimuthOffsetMap
  | block40OffsetSingle => tables.block40OffsetSingle
  | block40OffsetDual => tables.block40OffsetDual
  | laser40Offset => tables.laser40Offset
  | block64OffsetSingle => tables.block64OffsetSingle
  | block64OffsetDual => tables.block64OffsetDual
  | laser64Offset => tables.laser64Offset
  | block20OffsetSingle => tables.block20OffsetSingle
  | block20OffsetDual => tables.block20OffsetDual
  | laser20AOffset => tables.laser20AOffset
  | laser20BOffset => tables.laser20BOffset
  | blockQTOffsetSingle => tables.blockQTOffsetSingle
  | blockQTOffsetDual => tables.blockQTOffsetDual
  | laserQTOffset => tables.laserQTOffset
  | blockXTOffsetSingle => tables.blockXTOffsetSingle
  | blockXTOffsetDual => tables.blockXTOffsetDual
  | blockXTOffsetTriple => tables.blockXTOffsetTriple
  | laserXTOffset => tables.laserXTOffset

/-- The entries of the elevation maps and of the azimuth offsets that laser `i` reads. -/
def angleReads (i : Nat) : List (LookupTable × Nat) :=
  [(.sinElevationMap, i), (.cosElevationMap, i), (.horizatalAzimuthOffsetMap, i)]

/-- The time offsets that laser `i` of block `blockid` reads. -/
def ParsedPacket.timeReads (lidarType : String) (blockid i : Nat) :
    ParsedPacket → List (LookupTable × Nat)
  | pandar40P pkt =>
    [(if pkt.echo = 0x39 then .block40OffsetDual else .block40OffsetSingle, blockid),
      (.laser40Offset, i)]
  | l64 pkt =>
    [(if pkt.echo = 0x39 then .block64OffsetDual else .block64OffsetSingle, blockid),
      (.laser64Offset, i)]
  | l20 pkt =>
    let block := if pkt.echo = 0x39 then .block20OffsetDual else .block20OffsetSingle
    if lidarType = "Pandar20A" then [(block, blockid), (.laser20AOffset, i)]
    else if lidarType = "Pandar20B" then [(block, blockid), (.laser20BOffset, i)]
    else []
  | qt pkt =>
    [(if pkt.echo = 0x05 then .blockQTOffsetDual else .blockQTOffsetSingle, blockid),
      (.laserQTOffset, i)]
  | xt pkt =>
    [(if pkt.echo = 0x3d then .blockXTOffsetTriple
      else if pkt.echo = 0x39 ∨ pkt.echo = 0x3b ∨ pkt.echo = 0x3c then .blockXTOffsetDual
      else .blockXTOffsetSingle, blockid), (.laserXTOffset, i)]

/-- The `i`-th unit of a block is a right return of a laser of the packet. -/
def ParsedPacket.RightReturn (pkt : ParsedPacket) (blockid i : Nat) : Prop :=
  i < pkt.laserNumber.toNat ∧
    (((pkt.blocks.getD blockid default).units.getD i default).isWrong = false)

instance (pkt : ParsedPacket) (blockid i : Nat) : Decidable (pkt.RightReturn blockid i) :=
  inferInstanceAs (Decidable (_ ∧ _))

/-- The entries that a laser reads. -/
def laserReads (cfg : Config F) (pkt : ParsedPacket) (blockid i : Nat) :
    List (LookupTable × Nat) :=
  angleReads i ++
    if cfg.timestampType = "realtime" then [] else pkt.timeReads cfg.lidarType blockid i

/-- The entries that the `Calc` function of the branch reads for a block. -/
def blockReads (cfg : Config F) (pkt : ParsedPacket) (blockid : Nat) :
    List (LookupTable × Nat) :=
  ((List.range pkt.laserNumber.toNat).filter fun i => pkt.RightReturn blockid i).flatMap
    (laserReads cfg pkt blockid)

theorem mem_blockReads {cfg : Config F} {pkt : ParsedPacket} {blockid : Nat}
    {r : LookupTable × Nat} :
    r ∈ blockReads cfg pkt blockid ↔
      ∃ i, pkt.RightReturn blockid i ∧ r ∈ laserReads cfg pkt blockid i := by
  simp only [blockReads, List.mem_flatMap, List.mem_filter, List.mem_range, decide_eq_true_eq]
  constructor
  · rintro ⟨i, ⟨-, hright⟩, hr⟩
    exact ⟨i, hright, hr⟩
  · rintro ⟨i, hright, hr⟩
    exact ⟨i, ⟨hright.1, hright⟩, hr⟩

/-! ## Which entries are assigned -/

/-- The entry is inside its table and was assigned by `Init`. -/
def Covered (lidarType : String) (r : LookupTable × Nat) : Prop :=
  r.2 < r.1.size lidarType ∧ r.2 ∈ r.1.assigned lidarType

/-- No lidar type has more than 64 lasers. -/
theorem initLasers_le (lidarType : String) : initLasers lidarType ≤ 64 := by
  unfold initLasers initAngles
  repeat' split
  all_goals decide

/-- The angles are assigned for the lasers of the lidar type. -/
theorem covered_angleReads (lidarType : String) (i : Nat) :
    (∀ r ∈ angleReads i, Covered lidarType r) ↔ i < initLasers lidarType := by
  have hle := initLasers_le lidarType
  simp only [angleReads, List.forall_mem_cons, Covered, LookupTable.size, LookupTable.assigned,
    List.mem_range, maxLaserNum, List.not_mem_nil, false_imp_iff, implies_true, and_true]
  omega

/-! ### Time offsets -/

section Offsets

variable {lidarType : String} {table : LookupTable} {i : Nat}

/-- The tables that are filled for every lidar type. -/
def fullTables : List LookupTable :=
  [.block40OffsetSingle, .block40OffsetDual, .block64OffsetSingle, .block64OffsetDual,
    .laser64Offset, .block20OffsetSingle, .block20OffsetDual, .laser20AOffset, .laser20BOffset,
    .blockQTOffsetSingle, .blockQTOffsetDual, .laserQTOffset, .blockXTOffsetSingle,
    .blockXTOffsetDual]

/-- What is assigned for an unknown type is assigned for every type. -/
theorem mem_assigned_of_unknown (h : i ∈ table.assigned "") : i ∈ table.assigned lidarType := by
  -- the XT tables get more entries for their own types
  have hxt : ∀ {first second : List (Nat × FloatExpr)}, i ∈ first.map Prod.fst →
      i ∈ (first ++ second).map Prod.fst := by
    intro first second hi
    rw [List.map_append]
    exact List.mem_append_left _ hi
  cases table with
  | sinElevationMap => exact absurd h List.not_mem_nil
  | cosElevationMap => exact absurd h List.not_mem_nil
  | horizatalAzimuthOffsetMap => exact absurd h List.not_mem_nil
  | blockXTOffsetSingle => exact hxt h
  | blockXTOffsetDual => exact hxt h
  | blockXTOffsetTriple => exact absurd h List.not_mem_nil
  | laserXTOffset => exact absurd h List.not_mem_nil
  | _ => exact h

/-- Every entry of these tables is covered. -/
theorem covered_full (htable : table ∈ fullTables) :
    Covered lidarType (table, i) ↔ i < table.size "" := by
  -- by evaluation, table by table
  have hall : ∀ table ∈ fullTables, ∀ i < table.size "", i ∈ table.assigned "" := by
    decide +kernel
  have hsize : table.size lidarType = table.size "" := by
    cases table <;> first | rfl | exact absurd htable (by decide)
  rw [Covered, hsize]
  exact ⟨fun h => h.1, fun h => ⟨h, mem_assigned_of_unknown (hall table htable i h)⟩⟩

/-- Entry `9` of the laser offsets is assigned twice, and entry `7` never. -/
theorem covered_laser40 (hi : i < laserCount) :
    Covered lidarType (.laser40Offset, i) ↔ i ≠ 7 := by
  have hmem : ∀ i < laserCount, i ∈ LookupTable.laser40Offset.assigned "" ↔ i ≠ 7 := by
    decide +kernel
  exact ⟨fun h => (hmem i hi).mp h.2, fun h => ⟨hi, (hmem i hi).mpr h⟩⟩

/-- The table for three returns is only filled for PandarXTM. -/
theorem covered_blockXTOffsetTriple :
    Covered lidarType (.blockXTOffsetTriple, i) ↔
      i < hsLidarXTBlockNumber ∧ lidarType = "PandarXTM" := by
  have hall : ∀ i < hsLidarXTBlockNumber,
      i ∈ LookupTable.blockXTOffsetTriple.assigned "PandarXTM" := by decide
  constructor
  · rintro ⟨hi, hmem⟩
    refine ⟨hi, ?_⟩
    by_contra htype
    simp [LookupTable.assigned, initOffsets, initOffsets.onlyXTM, htype] at hmem
  · rintro ⟨hi, rfl⟩
    exact ⟨hi, hall i hi⟩

/-- The laser offsets are filled for the lasers of the three XT types. -/
theorem covered_laserXTOffset
    (htype : lidarType = "PandarXT-32" ∨ lidarType = "PandarXT-16" ∨ lidarType = "PandarXTM")
    (hi : i < initLasers lidarType) : Covered lidarType (.laserXTOffset, i) := by
  have hall : ∀ lidarType ∈ ["PandarXT-32", "PandarXT-16", "PandarXTM"],
      ∀ i < initLasers lidarType, i < LookupTable.laserXTOffset.size lidarType ∧
        i ∈ LookupTable.laserXTOffset.assigned lidarType := by
    decide +kernel
  exact hall lidarType (by simpa using htype) i hi

/-- The choice between two tables of one size. -/
theorem covered_ite {c : Prop} [Decidable c] {table table' : LookupTable} {n : Nat}
    (htable : table ∈ fullTables ∧ table.size "" = n)
    (htable' : table' ∈ fullTables ∧ table'.size "" = n) :
    Covered lidarType (if c then table else table', i) ↔ i < n := by
  split
  · rw [covered_full htable.1, htable.2]
  · rw [covered_full htable'.1, htable'.2]

end Offsets

/-! ## When all reads are covered -/

/-- Every entry that the `Calc` function reads for a packet is covered. -/
def ReadsCovered (cfg : Config F) (pkt : ParsedPacket) : Prop :=
  ∀ blockid < pkt.blocks.length, ∀ r ∈ blockReads cfg pkt blockid, Covered cfg.lidarType r

/-- The time offsets of a block and a laser were assigned, for each family of packets. -/
def ParsedPacket.TimesCovered (lidarType : String) (blockid i : Nat) : ParsedPacket → Prop
  | pandar40P _ => i ≠ 7
  | l64 _ => blockid < hsLidarL64BlockNumber6
  | l20 _ => lidarType = "Pandar20A" ∨ lidarType = "Pandar20B" → blockid < hsLidarL20BlockNumber
  | qt _ => blockid < hsLidarQTBlockNumber
  | xt pkt => blockid < hsLidarXTBlockNumber ∧ (pkt.echo = 0x3d → lidarType = "PandarXTM")

instance (lidarType : String) (blockid i : Nat) :
    (pkt : ParsedPacket) → Decidable (pkt.TimesCovered lidarType blockid i)
  | .pandar40P _ => inferInstanceAs (Decidable (i ≠ 7))
  | .l64 _ => inferInstanceAs (Decidable (blockid < hsLidarL64BlockNumber6))
  | .l20 _ => inferInstanceAs (Decidable
    (lidarType = "Pandar20A" ∨ lidarType = "Pandar20B" → blockid < hsLidarL20BlockNumber))
  | .qt _ => inferInstanceAs (Decidable (blockid < hsLidarQTBlockNumber))
  | .xt pkt => inferInstanceAs (Decidable
    (blockid < hsLidarXTBlockNumber ∧ (pkt.echo = 0x3d → lidarType = "PandarXTM")))

variable {cfg : Config F} {packet : PandarPacket F}

/-- A Pandar40 packet has ten blocks. -/
theorem length_blocks_pandar40P {pkt : Pandar40PPacket}
    (h : parsePacket cfg packet = some (.pandar40P pkt)) : pkt.blocks.length = blocksPerPacket := by
  unfold parsePacket at h
  split at h
  · obtain ⟨pkt', hparse, hpkt⟩ := Option.map_eq_some_iff.mp h
    obtain rfl := ParsedPacket.pandar40P.inj hpkt
    unfold parseRawData at hparse
    split at hparse
    · simp at hparse
    · rw [← Option.some.inj hparse]
      exact length_parseBlocks _ _ _ _ _ _ _ _
  -- the other branches make other packets
  all_goals
    repeat' split at h
    all_goals simp at h

/-- Packets of the XT family are only taken for its own types. -/
theorem lidarType_of_xt {pkt : LidarPacket} (h : parsePacket cfg packet = some (.xt pkt)) :
    cfg.lidarType = "XT" ∨ cfg.lidarType = "PandarXT-32" ∨ cfg.lidarType = "PandarXT-16" ∨
      cfg.lidarType = "PandarXTM" := by
  unfold parsePacket at h
  repeat' split at h
  all_goals try simp at h
  next hxt =>
    rcases hxt with ⟨-, hxt | hxt⟩ | ⟨-, hxt⟩ | ⟨-, hxt⟩ <;> simp [hxt]

/-- For a laser that the lidar type has, the time offsets that are read are covered under
    the condition of the family. -/
theorem timeReads_covered_iff {pkt : ParsedPacket} (hparse : parsePacket cfg packet = some pkt)
    {blockid i : Nat} (hblockid : blockid < pkt.blocks.length)
    (hright : pkt.RightReturn blockid i) (hi : i < initLasers cfg.lidarType) :
    (∀ r ∈ pkt.timeReads cfg.lidarType blockid i, Covered cfg.lidarType r) ↔
      pkt.TimesCovered cfg.lidarType blockid i := by
  have hle := initLasers_le cfg.lidarType
  cases pkt with
  -- all ten blocks are covered, so only the laser decides
  | pandar40P pkt =>
    have hblock : Covered cfg.lidarType
        (if pkt.echo = 0x39 then .block40OffsetDual else .block40OffsetSingle, blockid) ↔
          blockid < blocksPerPacket := covered_ite ⟨by decide, rfl⟩ ⟨by decide, rfl⟩
    rw [ParsedPacket.timeReads, List.forall_mem_cons, List.forall_mem_singleton,
      covered_laser40 hright.1, hblock, ← length_blocks_pandar40P hparse]
    exact and_iff_right hblockid
  | l64 pkt =>
    have hblock : Covered cfg.lidarType
        (if pkt.echo = 0x39 then .block64OffsetDual else .block64OffsetSingle, blockid) ↔
          blockid < hsLidarL64BlockNumber6 := covered_ite ⟨by decide, rfl⟩ ⟨by decide, rfl⟩
    have hlaser : Covered cfg.lidarType (.laser64Offset, i) :=
      (covered_full (by decide)).mpr (Nat.lt_of_lt_of_le hi hle)
    rw [ParsedPacket.timeReads, List.forall_mem_cons, List.forall_mem_singleton,
      and_iff_left hlaser, hblock]
    rfl
  | l20 pkt =>
    have hblock : Covered cfg.lidarType
        (if pkt.echo = 0x39 then .block20OffsetDual else .block20OffsetSingle, blockid) ↔
          blockid < hsLidarL20BlockNumber := covered_ite ⟨by decide, rfl⟩ ⟨by decide, rfl⟩
    simp only [ParsedPacket.timeReads, ParsedPacket.TimesCovered]
    -- the two types have as many lasers as their tables have entries
    by_cases hA : cfg.lidarType = "Pandar20A"
    · have hlaser : Covered cfg.lidarType (.laser20AOffset, i) := by
        rw [covered_full (by decide)]
        rw [hA] at hi
        exact hi
      rw [if_pos hA, List.forall_mem_cons, List.forall_mem_singleton, and_iff_left hlaser, hblock]
      simp [hA]
    by_cases hB : cfg.lidarType = "Pandar20B"
    · have hlaser : Covered cfg.lidarType (.laser20BOffset, i) := by
        rw [covered_full (by decide)]
        rw [hB] at hi
        exact hi
      rw [if_neg hA, if_pos hB, List.forall_mem_cons, List.forall_mem_singleton,
        and_iff_left hlaser, hblock]
      simp [hB]
    · simp [hA, hB]
  -- all lasers are covered, so only the block decides
  | qt pkt =>
    have hblock : Covered cfg.lidarType
        (if pkt.echo = 0x05 then .blockQTOffsetDual else .blockQTOffsetSingle, blockid) ↔
          blockid < hsLidarQTBlockNumber := covered_ite ⟨by decide, rfl⟩ ⟨by decide, rfl⟩
    have hlaser : Covered cfg.lidarType (.laserQTOffset, i) :=
      (covered_full (by decide)).mpr (Nat.lt_of_lt_of_le hi hle)
    rw [ParsedPacket.timeReads, List.forall_mem_cons, List.forall_mem_singleton,
      and_iff_left hlaser, hblock]
    rfl
  | xt pkt =>
    have hlaser : Covered cfg.lidarType (.laserXTOffset, i) := by
      rcases lidarType_of_xt hparse with hXT | htype
      · -- `Init` does not know this type
        rw [hXT] at hi
        exact absurd hi (Nat.not_lt_zero i)
      · exact covered_laserXTOffset htype hi
    have hblock : Covered cfg.lidarType
        (if pkt.echo = 0x39 ∨ pkt.echo = 0x3b ∨ pkt.echo = 0x3c then .blockXTOffsetDual
          else .blockXTOffsetSingle, blockid) ↔
          blockid < hsLidarXTBlockNumber := covered_ite ⟨by decide, rfl⟩ ⟨by decide, rfl⟩
    rw [ParsedPacket.timeReads, List.forall_mem_cons, List.forall_mem_singleton,
      and_iff_left hlaser, ParsedPacket.TimesCovered]
    by_cases htriple : pkt.echo = 0x3d
    · rw [if_pos htriple, covered_blockXTOffsetTriple]
      simp [htriple]
    · rw [if_neg htriple, hblock]
      simp [htriple]

/-- All entries that are read for an accepted packet are inside their tables and were
    assigned exactly if its right returns are of lasers that the lidar type has and,
    without the time of reception, of blocks and lasers whose time offsets are covered. -/
theorem reads_covered_iff (cfg : Config F) (packet : PandarPacket F) (pkt : ParsedPacket)
    (hparse : parsePacket cfg packet = some pkt) :
    ReadsCovered cfg pkt ↔
      ∀ blockid < pkt.blocks.length, ∀ i, pkt.RightReturn blockid i →
        i < initLasers cfg.lidarType ∧
          (cfg.timestampType = "realtime" ∨ pkt.TimesCovered cfg.lidarType blockid i) := by
  have hlaser : ∀ blockid < pkt.blocks.length, ∀ i, pkt.RightReturn blockid i →
      ((∀ r ∈ laserReads cfg pkt blockid i, Covered cfg.lidarType r) ↔
        i < initLasers cfg.lidarType ∧
          (cfg.timestampType = "realtime" ∨ pkt.TimesCovered cfg.lidarType blockid i)) := by
    intro blockid hblockid i hright
    rw [laserReads, List.forall_mem_append, covered_angleReads]
    apply and_congr_right
    intro hi
    by_cases hrealtime : cfg.timestampType = "realtime"
    · simp [hrealtime]
    · rw [if_neg hrealtime, timeReads_covered_iff hparse hblockid hright hi,
        or_iff_right hrealtime]
  constructor
  · intro h blockid hblockid i hright
    rw [← hlaser blockid hblockid i hright]
    exact fun r hr => h blockid hblockid r (mem_blockReads.mpr ⟨i, hright, hr⟩)
  · intro h blockid hblockid r hr
    obtain ⟨i, hright, hr⟩ := mem_blockReads.mp hr
    exact (hlaser blockid hblockid i hright).mpr (h blockid hblockid i hright) r hr

/-- The driver as launched, but with the times of the lidar. -/
def lidarTimeConfig : Config Rat := { launchConfig with timestampType := "lidar" }

/-- It reads nothing else for a packet of its lidar with right returns of all lasers. -/
theorem reads_covered_lidarTime :
    ∃ pkt, parsePacket lidarTimeConfig (xt16Packet (fun _ => 0) fun _ => 1000) = some pkt ∧
      ReadsCovered lidarTimeConfig pkt := by
  have haccepted :
      (parsePacket lidarTimeConfig (xt16Packet (fun _ => 0) fun _ => 1000)).isSome := by
    decide +kernel
  obtain ⟨pkt, hparse⟩ := Option.isSome_iff_exists.mp haccepted
  -- eight blocks of sixteen lasers, and no third return
  have hpkt : ∀ pkt ∈ parsePacket lidarTimeConfig (xt16Packet (fun _ => 0) fun _ => 1000),
      pkt.laserNumber.toNat = initLasers lidarTimeConfig.lidarType ∧
        ∀ blockid < pkt.blocks.length, ∀ i < pkt.laserNumber.toNat,
          pkt.TimesCovered lidarTimeConfig.lidarType blockid i := by
    decide +kernel
  obtain ⟨hlasers, htimes⟩ := hpkt pkt hparse
  refine ⟨pkt, hparse, (reads_covered_iff lidarTimeConfig _ pkt hparse).mpr ?_⟩
  intro blockid hblockid i hright
  rw [← hlasers]
  exact ⟨hright.1, Or.inr (htimes blockid hblockid i hright.1)⟩

/-- A Pandar40P without the time of reception. -/
def pandar40PConfig : Config Rat :=
  { launchConfig with lidarType := "Pandar40P", timestampType := "lidar" }

/-- A Pandar40 packet with returns of all lasers at four metres. -/
def fullPandar40Packet : PandarPacket Rat where
  stamp := 0
  size := packetSize
  data i :=
    let offset := i % blockSize
    if blockSize * blocksPerPacket ≤ i then 0
    else if offset = 0 then 0xFF else if offset = 1 then 0xEE
    else if 4 ≤ offset ∧ (offset - 4) % 3 = 0 then 0xE8
    else if 4 ≤ offset ∧ (offset - 4) % 3 = 1 then 0x03
    else 0

/-- Laser `7` of a Pandar40P has no time offset. -/
theorem laser7_not_covered :
    ¬ ∀ (cfg : Config Rat) (packet : PandarPacket Rat) (pkt : ParsedPacket),
      parsePacket cfg packet = some pkt → ReadsCovered cfg pkt := by
  intro hclaim
  have haccepted : (parsePacket pandar40PConfig fullPandar40Packet).isSome := by decide +kernel
  have hread : ∀ pkt ∈ parsePacket pandar40PConfig fullPandar40Packet,
      0 < pkt.blocks.length ∧ (.laser40Offset, 7) ∈ blockReads pandar40PConfig pkt 0 := by
    decide +kernel
  obtain ⟨pkt, hparse⟩ := Option.isSome_iff_exists.mp haccepted
  obtain ⟨hblock, hmem⟩ := hread pkt hparse
  have hcovered := hclaim _ _ pkt hparse 0 hblock _ hmem
  exact (covered_laser40 (by decide)).mp hcovered rfl

/-! ## The points depend on these entries -/

variable [CFloat F]

/-- The tables that `Init` fills for every type. -/
structure SameAzimuthMaps (tables tables' : Tables F) : Prop where
  sinMap : tables.sinAzimuthMap = tables'.sinAzimuthMap
  cosMap : tables.cosAzimuthMap = tables'.cosAzimuthMap
  sinMapH : tables.sinAzimuthMapH = tables'.sinAzimuthMapH
  cosMapH : tables.cosAzimuthMapH = tables'.cosAzimuthMapH
  sinMapB : tables.sinAzimuthMapB = tables'.sinAzimuthMapB
  cosMapB : tables.cosAzimuthMapB = tables'.cosAzimuthMapB

omit [CFloat F] in
/-- Points that agree on the right returns. -/
theorem unitPoints_congr {laserNumber : Int} {block : LidarBlock}
    {point point' : Nat → LidarUnit → PPoint F}
    (h : ∀ i < laserNumber.toNat, (block.units.getD i default).isWrong = false →
      point i (block.units.getD i default) = point' i (block.units.getD i default)) :
    unitPoints laserNumber block point = unitPoints laserNumber block point' := by
  apply List.filterMap_congr
  intro i hi
  by_cases hwrong : (block.units.getD i default).isWrong
  · simp only [hwrong, ↓reduceIte]
  · simp only [hwrong, h i (List.mem_range.mp hi) (by simpa using hwrong)]

section Congr

variable {cfg : Config F} {calib calib' : Calibration F} {tables' : Tables F} {stamp : F}
  {blockid i : Nat} {unit : LidarUnit}

/-- A point depends on the angles of its laser, the azimuth tables and its timestamp. -/
theorem makePoint_congr {xyz xyz' : Int → Rat → Xyz F} {azimuth : Nat} {timestamp timestamp' : F}
    (hoffset : calib.horizatalAzimuthOffsetMap i = calib'.horizatalAzimuthOffsetMap i)
    (hxyz : xyz = xyz') (htime : timestamp = timestamp') :
    makePoint xyz calib azimuth timestamp i unit =
      makePoint xyz' calib' azimuth timestamp' i unit := by
  subst hxyz htime
  simp only [makePoint, laserAzimuth, hoffset]

/-- The coordinates depend on the angles of the laser and the azimuth tables. -/
theorem xyz_congr (hmaps : SameAzimuthMaps cfg.tables tables')
    (hsin : calib.sinElevationMap i = calib'.sinElevationMap i)
    (hcos : calib.cosElevationMap i = calib'.cosElevationMap i)
    (hoffset : calib.horizatalAzimuthOffsetMap i = calib'.horizatalAzimuthOffsetMap i) :
    calcXYZ cfg.tables calib i = calcXYZ tables' calib' i ∧
      calcQTXYZ cfg calib i = calcQTXYZ { cfg with tables := tables' } calib' i ∧
      calcXTXYZ cfg calib i = calcXTXYZ { cfg with tables := tables' } calib' i := by
  obtain ⟨hs, hc, hsH, hcH, hsB, hcB⟩ := hmaps
  have hplain : calcXYZ cfg.tables calib i = calcXYZ tables' calib' i := by
    funext azimuth distance
    simp only [calcXYZ, hs, hc, hsin, hcos]
  have hback : isBackward cfg.tables calib i = isBackward tables' calib' i := by
    funext azimuth p
    simp only [isBackward, hs, hc, hsin, hcos]
  have helevated : qtElevated cfg.tables calib i = qtElevated tables' calib' i := by
    funext azimuth distance
    simp only [qtElevated, hs, hc, hsin, hcos, hback]
  have hhorizontal : qtHorizontal cfg.tables calib i = qtHorizontal tables' calib' i := by
    funext azimuth distance
    simp only [qtHorizontal, hs, hc, hback]
  have hsideways : qtSideways cfg.tables calib i = qtSideways tables' calib' i := by
    funext azimuth distance
    simp only [qtSideways, hback]
  refine ⟨hplain, ?_, ?_⟩
  · funext azimuth distance
    simp only [calcQTXYZ, hplain, helevated, hhorizontal, hsideways, hsin, hc]
  · funext azimuth distance
    simp only [calcXTXYZ, hs, hc, hcH, hsH, hsB, hcB, hsin, hcos, hoffset]

/-- The time in a packet of each family, with its offsets. -/
def ParsedPacket.timestamp (cfg : Config F) (blockid i : Nat) : ParsedPacket → F
  | pandar40P pkt => timestamp40P cfg pkt blockid i
  | l64 pkt => timestampL64 cfg pkt blockid i
  | l20 pkt => timestampL20 cfg pkt blockid i
  | qt pkt => timestampQT cfg pkt blockid i
  | xt pkt => timestampXT cfg pkt blockid i

/-- It depends on the offsets that are read. -/
theorem timestamp_congr {pkt : ParsedPacket}
    (hreads : ∀ r ∈ pkt.timeReads cfg.lidarType blockid i,
      r.1.get cfg.tables calib r.2 = r.1.get tables' calib' r.2) :
    pkt.timestamp cfg blockid i = pkt.timestamp { cfg with tables := tables' } blockid i := by
  cases pkt with
  | pandar40P pkt =>
    simp only [ParsedPacket.timeReads, List.forall_mem_cons] at hreads
    obtain ⟨hblock, hlaser, -⟩ := hreads
    by_cases hecho : pkt.echo = 0x39
    all_goals
      simp only [hecho, ↓reduceIte, LookupTable.get] at hblock hlaser
      simp only [ParsedPacket.timestamp, timestamp40P, hecho, ↓reduceIte, hblock, hlaser]
      rfl
  | l64 pkt =>
    simp only [ParsedPacket.timeReads, List.forall_mem_cons] at hreads
    obtain ⟨hblock, hlaser, -⟩ := hreads
    by_cases hecho : pkt.echo = 0x39
    all_goals
      simp only [hecho, ↓reduceIte, LookupTable.get] at hblock hlaser
      simp only [ParsedPacket.timestamp, timestampL64, hecho, ↓reduceIte, hblock, hlaser]
      rfl
  | l20 pkt =>
    simp only [ParsedPacket.timeReads] at hreads
    simp only [ParsedPacket.timestamp, timestampL20]
    by_cases hA : cfg.lidarType = "Pandar20A"
    · simp only [hA, ↓reduceIte, List.forall_mem_cons] at hreads ⊢
      obtain ⟨hblock, hlaser, -⟩ := hreads
      by_cases hecho : pkt.echo = 0x39
      all_goals
        simp only [hecho, ↓reduceIte, LookupTable.get] at hblock hlaser ⊢
        rw [hblock, hlaser]
        rfl
    by_cases hB : cfg.lidarType = "Pandar20B"
    · simp only [if_neg hA, if_pos hB, List.forall_mem_cons] at hreads ⊢
      obtain ⟨hblock, hlaser, -⟩ := hreads
      by_cases hecho : pkt.echo = 0x39
      all_goals
        simp only [hecho, ↓reduceIte, LookupTable.get] at hblock hlaser ⊢
        rw [hblock, hlaser]
        rfl
    · simp only [hA, hB, ↓reduceIte]
      rfl
  | qt pkt =>
    simp only [ParsedPacket.timeReads, List.forall_mem_cons] at hreads
    obtain ⟨hblock, hlaser, -⟩ := hreads
    by_cases hecho : pkt.echo = 0x05
    all_goals
      simp only [hecho, ↓reduceIte, LookupTable.get] at hblock hlaser
      simp only [ParsedPacket.timestamp, timestampQT, hecho, ↓reduceIte, hblock, hlaser]
      rfl
  | xt pkt =>
    simp only [ParsedPacket.timeReads, List.forall_mem_cons] at hreads
    obtain ⟨hblock, hlaser, -⟩ := hreads
    by_cases htriple : pkt.echo = 0x3d
    · simp only [htriple, ↓reduceIte, LookupTable.get] at hblock hlaser
      simp only [ParsedPacket.timestamp, timestampXT, htriple, ↓reduceIte, hblock, hlaser]
      rfl
    by_cases hdual : pkt.echo = 0x39 ∨ pkt.echo = 0x3b ∨ pkt.echo = 0x3c
    all_goals
      simp only [htriple, hdual, ↓reduceIte, LookupTable.get] at hblock hlaser
      simp only [ParsedPacket.timestamp, timestampXT, htriple, hdual, ↓reduceIte, hblock, hlaser]
      rfl

end Congr

/-- The points of a block depend on the entries that it reads, and on no others. -/
theorem blockPoints_congr {cfg : Config F} {calib calib' : Calibration F} {tables' : Tables F}
    (stamp : F) {blockid : Nat} {pkt : ParsedPacket}
    (hmaps : SameAzimuthMaps cfg.tables tables')
    (hreads : ∀ r ∈ blockReads cfg pkt blockid,
      r.1.get cfg.tables calib r.2 = r.1.get tables' calib' r.2) :
    blockPoints cfg calib stamp blockid pkt =
      blockPoints { cfg with tables := tables' } calib' stamp blockid pkt := by
  have hlaser : ∀ i, pkt.RightReturn blockid i → ∀ r ∈ laserReads cfg pkt blockid i,
      r.1.get cfg.tables calib r.2 = r.1.get tables' calib' r.2 :=
    fun i hright r hr => hreads r (mem_blockReads.mpr ⟨i, hright, hr⟩)
  have hangles : ∀ i, pkt.RightReturn blockid i →
      calib.sinElevationMap i = calib'.sinElevationMap i ∧
      calib.cosElevationMap i = calib'.cosElevationMap i ∧
      calib.horizatalAzimuthOffsetMap i = calib'.horizatalAzimuthOffsetMap i := by
    intro i hright
    have h := hlaser i hright
    exact ⟨h (.sinElevationMap, i) (by simp [laserReads, angleReads]),
      h (.cosElevationMap, i) (by simp [laserReads, angleReads]),
      h (.horizatalAzimuthOffsetMap, i) (by simp [laserReads, angleReads])⟩
  have htime : cfg.timestampType ≠ "realtime" → ∀ i, pkt.RightReturn blockid i →
      ∀ r ∈ pkt.timeReads cfg.lidarType blockid i,
        r.1.get cfg.tables calib r.2 = r.1.get tables' calib' r.2 := by
    intro hlidar i hright r hr
    exact hlaser i hright r (by simp [laserReads, hlidar, hr])
  have hxyz := fun i hright => xyz_congr hmaps (hangles i hright).1
    (hangles i hright).2.1 (hangles i hright).2.2
  -- with the time of reception the offsets are not read
  have hstamp : ∀ i, pkt.RightReturn blockid i →
      pointTimestamp cfg stamp (pkt.timestamp cfg blockid i) =
        pointTimestamp { cfg with tables := tables' } stamp
          (pkt.timestamp { cfg with tables := tables' } blockid i) := by
    intro i hright
    by_cases hrealtime : cfg.timestampType = "realtime"
    · simp only [pointTimestamp, hrealtime, ↓reduceIte]
    · simp only [pointTimestamp, hrealtime, ↓reduceIte]
      exact timestamp_congr (htime hrealtime i hright)
  cases pkt with
  | pandar40P pkt =>
    refine unitPoints_congr fun i hi hright => ?_
    exact makePoint_congr (hangles i ⟨hi, hright⟩).2.2 (hxyz i ⟨hi, hright⟩).1
      (hstamp i ⟨hi, hright⟩)
  | l64 pkt =>
    refine unitPoints_congr fun i hi hright => ?_
    exact makePoint_congr (hangles i ⟨hi, hright⟩).2.2 (hxyz i ⟨hi, hright⟩).1
      (hstamp i ⟨hi, hright⟩)
  | l20 pkt =>
    refine unitPoints_congr fun i hi hright => ?_
    exact makePoint_congr (hangles i ⟨hi, hright⟩).2.2 (hxyz i ⟨hi, hright⟩).1
      (hstamp i ⟨hi, hright⟩)
  | qt pkt =>
    refine unitPoints_congr fun i hi hright => ?_
    exact makePoint_congr (hangles i ⟨hi, hright⟩).2.2 (hxyz i ⟨hi, hright⟩).2.1
      (hstamp i ⟨hi, hright⟩)
  | xt pkt =>
    refine unitPoints_congr fun i hi hright => ?_
    exact makePoint_congr (hangles i ⟨hi, hright⟩).2.2 (hxyz i ⟨hi, hright⟩).2.2
      (hstamp i ⟨hi, hright⟩)

/-! ## What the memory of the instance held -/

/-- The assignments decide an entry that they reach, and leave the others. -/
theorem assignAll_congr (entries : List (Nat × FloatExpr)) (stale stale' : Nat → F) {i : Nat}
    (h : i ∈ entries.map Prod.fst ∨ stale i = stale' i) :
    assignAll stale entries i = assignAll stale' entries i := by
  induction entries generalizing stale stale' with
  | nil => exact h.resolve_left List.not_mem_nil
  | cons e entries ih =>
    apply ih
    show _ ∨ Function.update stale e.1 e.2.eval i = Function.update stale' e.1 e.2.eval i
    by_cases hi : i = e.1
    · right
      rw [hi, Function.update_self, Function.update_self]
    · rw [Function.update_of_ne hi, Function.update_of_ne hi]
      exact h.imp_left fun hmem => (List.mem_cons.mp hmem).resolve_left hi

/-- A covered entry is the one that `Init` assigned. -/
theorem get_of_covered (env : LoadEnv F) (stale stale' : Tables F)
    (calib calib' : CalibrationTables F) {lidarType : String} {r : LookupTable × Nat}
    (h : Covered lidarType r) :
    r.1.get (initTables stale lidarType) (initCalibration env calib lidarType).toCalibration r.2 =
      r.1.get (initTables stale' lidarType)
        (initCalibration env calib' lidarType).toCalibration r.2 := by
  obtain ⟨table, i⟩ := r
  have hassigned : i ∈ table.assigned lidarType := h.2
  cases table with
  | sinElevationMap | cosElevationMap | horizatalAzimuthOffsetMap =>
    have hrow := List.getElem?_eq_getElem (List.mem_range.mp hassigned)
    simp only [LookupTable.get, initCalibration, hrow]
  | block40OffsetSingle | block40OffsetDual | laser40Offset | block64OffsetSingle
  | block64OffsetDual | laser64Offset | block20OffsetSingle | block20OffsetDual | laser20AOffset
  | laser20BOffset | blockQTOffsetSingle | blockQTOffsetDual | laserQTOffset
  | blockXTOffsetSingle | blockXTOffsetDual | blockXTOffsetTriple | laserXTOffset =>
    exact assignAll_congr _ _ _ (Or.inl hassigned)

/-- If all reads of a packet are covered, its points are the same whatever the memory of the
    instance held before it was constructed. -/
theorem blockPoints_of_covered {cfg : Config F} (env : LoadEnv F) {stale stale' : Tables F}
    (calib calib' : CalibrationTables F) (hmaps : SameAzimuthMaps stale stale') (stamp : F)
    {pkt : ParsedPacket} (hcovered : ReadsCovered cfg pkt) {blockid : Nat}
    (hblockid : blockid < pkt.blocks.length) :
    blockPoints { cfg with tables := initTables stale cfg.lidarType }
        (initCalibration env calib cfg.lidarType).toCalibration stamp blockid pkt =
      blockPoints { cfg with tables := initTables stale' cfg.lidarType }
        (initCalibration env calib' cfg.lidarType).toCalibration stamp blockid pkt := by
  have hinit : SameAzimuthMaps (initTables stale cfg.lidarType)
      (initTables stale' cfg.lidarType) :=
    ⟨hmaps.sinMap, hmaps.cosMap, hmaps.sinMapH, hmaps.cosMapH, hmaps.sinMapB, hmaps.cosMapB⟩
  exact @blockPoints_congr F _ { cfg with tables := initTables stale cfg.lidarType } _ _ _ stamp
    blockid pkt hinit fun r hr =>
      get_of_covered env stale stale' calib calib' (hcovered blockid hblockid r hr)

end Hesai
