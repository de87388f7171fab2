import Go2Sensors.Native.Instances
import Go2Sensors.Spec.Framing
import Go2Sensors.Spec.PacketBytes
import Go2Sensors.Spec.TableCoverage

/-!
# Where the code is defined

The steps of the model are total, those of the code are not: a packet is copied before its
size is looked at, the parsers go as far as the counts of the header say, an azimuth offset
may lead out of the azimuth maps, and nothing compares the index with the size of
`PointCloud`. What is said about a run is said under the conditions that its packets can be
processed (`PacketDefined`) and that the index stays in range at every step (`HasCells`,
`StepDefined`). Which right returns have a row in the tables is said in `TableCoverage`: a
calibration is total.

## Key results

- `map_runTurns`: the turns of a run are defined if all packets fit into the buffer
- `Coupled.eachStep_hasCells_iff`: in unstructured mode, room for the pending points
- `instanceStep_index_le`: a step stores at most `64` points
-/

namespace Hesai

open Run
open CFloat (ofRat toFloat toInt)

variable {F : Type}

/-! ## The conditions -/

/-- The packet can be parsed: it fits into the buffer from which it is copied, and if it is
    accepted, the counts of its header fit as well. -/
def PacketFits (cfg : Config F) (packet : PandarPacket F) : Prop :=
  packet.size ≤ ethernetMTU ∧
    ((parsePacket cfg packet).isSome = true → acceptedFits cfg packet = true)

instance (cfg : Config F) (packet : PandarPacket F) : Decidable (PacketFits cfg packet) :=
  inferInstanceAs (Decidable (_ ∧ _))

theorem PacketFits.counts {cfg : Config F} {packet : PandarPacket F} {pkt : ParsedPacket}
    (h : PacketFits cfg packet) (hparse : parsePacket cfg packet = some pkt) :
    acceptedFits cfg packet = true :=
  h.2 (by rw [hparse]; rfl)

/-- The XT branch. -/
def ParsedPacket.isXT : ParsedPacket → Bool
  | .xt _ => true
  | _ => false

/-- No store was past the end of `PointCloud`, and the index is in range. -/
structure PointStore.Defined (cfg : Config F) (st : PointStore F) : Prop where
  written : ∀ i ∈ st.written, i < maxPointCloudNum
  index : st.iPointCloudIndex ≤ cfg.maxIndex

theorem maxIndex_unstructured {cfg : Config F} (hmode : cfg.pclType = 0) :
    cfg.maxIndex = maxPointCloudNum := by
  rw [Config.maxIndex, if_pos hmode]

theorem maxIndex_structured {cfg : Config F} (hmode : cfg.pclType ≠ 0) :
    cfg.maxIndex = 2 ^ 31 - 1 := by
  rw [Config.maxIndex, if_neg hmode]

/-- So many points there is room for in both modes. -/
theorem maxPointCloudNum_le_maxIndex (cfg : Config F) : maxPointCloudNum ≤ cfg.maxIndex := by
  unfold Config.maxIndex maxPointCloudNum
  split <;> omega

variable [CFloat F] {cfg : Config F} {s : DriverState F}

/-- The index of the coordinate correction. -/
def correctionIndex (calib : Calibration F) (i : Nat) : Nat :=
  (toInt (toFloat (calib.horizatalAzimuthOffsetMap i * ofRat 100))).natAbs

/-- What laser `i` computes from the azimuth of the block are indices of the azimuth maps. -/
def AzimuthsInRange (cfg : Config F) (calib : Calibration F) (pkt : ParsedPacket)
    (blockid i : Nat) : Prop :=
  let azimuth := laserAzimuth calib i (pkt.blocks.getD blockid default).azimuth
  (0 ≤ azimuth ∧ azimuth < 36000) ∧
    (pkt.isXT = true → cfg.coordinateCorrectionFlag = true → correctionIndex calib i < 36000)

/-- The same for the right returns of a block. -/
def BlockInRange (cfg : Config F) (calib : Calibration F) (pkt : ParsedPacket)
    (blockid : Nat) : Prop :=
  ∀ i, pkt.RightReturn blockid i → AzimuthsInRange cfg calib pkt blockid i

instance (cfg : Config F) (calib : Calibration F) (pkt : ParsedPacket) (blockid i : Nat) :
    Decidable (AzimuthsInRange cfg calib pkt blockid i) :=
  inferInstanceAs (Decidable (_ ∧ _))

instance (cfg : Config F) (calib : Calibration F) (pkt : ParsedPacket) (blockid : Nat) :
    Decidable (BlockInRange cfg calib pkt blockid) :=
  decidable_of_iff (∀ i < pkt.laserNumber.toNat, pkt.RightReturn blockid i →
    AzimuthsInRange cfg calib pkt blockid i)
    ⟨fun h i hright => h i hright.1 hright, fun h i _ hright => h i hright⟩

/-- The packet can be processed: it can be parsed, and its right returns are in range. -/
def PacketDefined (cfg : Config F) (calib : Calibration F) (packet : PandarPacket F) : Prop :=
  PacketFits cfg packet ∧ ∀ pkt ∈ parsePacket cfg packet, ∀ blockid < pkt.blocks.length,
    BlockInRange cfg calib pkt blockid

instance (cfg : Config F) (calib : Calibration F) (packet : PandarPacket F) :
    Decidable (PacketDefined cfg calib packet) :=
  inferInstanceAs (Decidable (_ ∧ _))

/-- The index is in range after the step. It only goes up while the points of a block are
    stored, so that it has been in range at each of them. -/
def HasCells (cfg : Config F) (s : DriverState F) (e : ThreadStep F) : Prop :=
  (step cfg s e).store.iPointCloudIndex ≤ cfg.maxIndex

instance (cfg : Config F) (s : DriverState F) (e : ThreadStep F) : Decidable (HasCells cfg s e) :=
  inferInstanceAs (Decidable (_ ≤ _))

/-- A packet that is taken can be parsed, and the right returns of a block are in range. -/
def InstanceStep.InRange (cfg : Config F) (calib : Calibration F) : InstanceStep F → Prop
  | .take packet => PacketFits cfg packet
  | .block pkt blockid _ => BlockInRange cfg calib pkt blockid
  | _ => True

instance (cfg : Config F) (calib : Calibration F) :
    (e : InstanceStep F) → Decidable (e.InRange cfg calib)
  | .take packet => inferInstanceAs (Decidable (PacketFits cfg packet))
  | .block pkt blockid _ => inferInstanceAs (Decidable (BlockInRange cfg calib pkt blockid))
  | .keep _ | .emission _ _ | .finish => isTrue trivial

/-- The step of an object is defined. -/
structure StepDefined (cfg : Config F) (s : DriverState F) (e : InstanceStep F) : Prop where
  reads : e.InRange cfg s.calibration
  index : (instanceStep cfg s e).store.iPointCloudIndex ≤ cfg.maxIndex

instance (cfg : Config F) (s : DriverState F) (e : InstanceStep F) :
    Decidable (StepDefined cfg s e) :=
  decidable_of_iff (e.InRange cfg s.calibration ∧
      (instanceStep cfg s e).store.iPointCloudIndex ≤ cfg.maxIndex)
    ⟨fun ⟨hreads, hindex⟩ => ⟨hreads, hindex⟩, fun ⟨hreads, hindex⟩ => ⟨hreads, hindex⟩⟩

/-! ## Turns with `rawpacket` -/

omit [CFloat F] in
/-- All packets fit into the buffer from which they are copied. -/
def AllFit (packets : List (PandarPacket F)) : Prop :=
  ∀ packet ∈ packets, packet.size ≤ ethernetMTU

instance (packets : List (PandarPacket F)) : Decidable (AllFit packets) :=
  inferInstanceAs (Decidable (∀ packet ∈ packets, packet.size ≤ ethernetMTU))

omit [CFloat F] in
theorem allFit_cons {packet : PandarPacket F} {packets : List (PandarPacket F)} :
    AllFit (packet :: packets) ↔ packet.size ≤ ethernetMTU ∧ AllFit packets :=
  List.forall_mem_cons

/-- A turn is defined for a packet that fits into the buffer, and then it is a turn of
    `processLiarPacket`: what is kept for the scan is the message of this packet. -/
theorem map_processTurn (cfg : Config F) (s : LoopState F) (packet : PandarPacket F) :
    (processTurn cfg s packet).map LoopState.toDriverState =
      if packet.size ≤ ethernetMTU then some (processLiarPacket cfg s.toDriverState packet)
      else none := by
  unfold processTurn processLiarPacket
  by_cases hsize : packet.size ≤ ethernetMTU
  · rw [if_pos hsize, if_pos hsize]
    -- rejected or accepted, only the kept copy of the scan differs
    cases parsePacket cfg packet <;> rfl
  · rw [if_neg hsize, if_neg hsize]
    rfl

/-- The turns of a run are defined if all packets fit, and then they are the run of the
    thread. -/
theorem map_runTurns (cfg : Config F) (s : LoopState F) (packets : List (PandarPacket F)) :
    (runTurns cfg s packets).map LoopState.toDriverState =
      if AllFit packets then some (run cfg s.toDriverState packets) else none := by
  induction packets generalizing s with
  | nil => rfl
  | cons packet packets ih =>
    have hturn := map_processTurn cfg s packet
    simp only [runTurns, List.foldlM_cons] at ih ⊢
    by_cases hsize : packet.size ≤ ethernetMTU
    · rw [if_pos hsize, Option.map_eq_some_iff] at hturn
      obtain ⟨t, ht, hstate⟩ := hturn
      -- the first packet fits: its turn, and then the others
      rw [ht]
      simp only [Option.bind_eq_bind, Option.bind_some, ih, hstate, allFit_cons, hsize, true_and]
      rfl
    · -- it does not fit, and the run ends here
      rw [if_neg hsize, Option.map_eq_none_iff] at hturn
      rw [hturn]
      simp only [Option.bind_eq_bind, Option.bind_none, Option.map_none, allFit_cons, hsize,
        false_and, ↓reduceIte]

/-- The turns of a run are a run of the thread. -/
theorem runTurns_toDriverState {s t : LoopState F} {packets : List (PandarPacket F)}
    (h : runTurns cfg s packets = some t) : t.toDriverState = run cfg s.toDriverState packets := by
  have hmap := map_runTurns cfg s packets
  rw [h, Option.map_some] at hmap
  split at hmap
  · exact Option.some.inj hmap
  · exact absurd hmap (Option.some_ne_none _)

/-! ## Room for the pending points -/

/-- In unstructured mode the index is in range exactly if there is room for the pending
    points. -/
theorem Coupled.hasCells_iff (hmode : cfg.pclType = 0) {m : Framing F} (h : Coupled s m)
    (e : ThreadStep F) : HasCells cfg s e ↔ HasRoom cfg m e := by
  rw [HasCells, HasRoom, (h.step hmode e).index, maxIndex_unstructured hmode]

/-- The same for every step of a run. -/
theorem Coupled.eachStep_hasCells_iff (hmode : cfg.pclType = 0) {m : Framing F}
    (h : Coupled s m) (steps : List (ThreadStep F)) :
    EachStep (Hesai.step cfg) (HasCells cfg) s steps ↔
      EachStep (Framing.step cfg) (HasRoom cfg) m steps := by
  induction steps generalizing s m with
  | nil => exact Iff.rfl
  | cons e steps ih => simp only [EachStep, h.hasCells_iff hmode, ih (h.step hmode e)]

/-! ## Steps that are defined -/

omit [CFloat F] in
/-- Points that are stored up to an index in range are stored in range. -/
theorem PointStore.Defined.storeAll {st : PointStore F} (h : st.Defined cfg) (isQT : Bool)
    (points : List (PPoint F))
    (hindex : (storeAll cfg.pclType isQT points st).iPointCloudIndex ≤ cfg.maxIndex) :
    (Hesai.storeAll cfg.pclType isQT points st).Defined cfg := by
  refine ⟨fun i hi => ?_, hindex⟩
  by_cases hmode : cfg.pclType = 0
  · -- unstructured: the new cells are those up to the index
    rw [hmode, storeAll_index, maxIndex_unstructured hmode] at hindex
    rw [hmode, storeAll_written] at hi
    rcases List.mem_append.mp hi with hold | hnew
    · exact h.written i hold
    · have := List.mem_range'_1.mp hnew
      omega
  · -- structured: points go to the lists of the rings
    rw [storeAll_written_structured hmode] at hi
    exact h.written i hi

/-- A frame writes to no cell. -/
theorem cutFrame_written (cfg : Config F) (laserNumber : Int) (s : DriverState F) :
    (cutFrame cfg laserNumber s).store.written = s.store.written := by
  by_cases h : canEmit cfg s.store = true
  · by_cases hmode : cfg.pclType = 0
    · rw [cutFrame_store_unstructured hmode h]
    · rw [cutFrame_structured hmode h]
  · rw [cutFrame_of_not_canEmit (by simpa using h)]

/-- A step that is defined stores in range. -/
theorem StepDefined.store {e : InstanceStep F} (hstep : StepDefined cfg s e)
    (h : s.store.Defined cfg) : (instanceStep cfg s e).store.Defined cfg := by
  have hindex := hstep.index
  cases e with
  -- a frame is published before the points of the block are stored
  | emission pkt azimuth =>
    refine ⟨?_, hindex⟩
    simp only [instanceStep]
    split
    · rw [cutFrame_written]
      exact h.written
    · exact h.written
  | block pkt blockid azimuth =>
    simp only [instanceStep, calcPoints_eq] at hindex ⊢
    exact h.storeAll _ _ hindex
  | take | keep | finish => exact h

/-- And so do all steps of a run. -/
theorem defined_of_steps {steps : List (InstanceStep F)} (h : s.store.Defined cfg)
    (hsteps : EachStep (instanceStep cfg) (StepDefined cfg) s steps) :
    (steps.foldl (instanceStep cfg) s).store.Defined cfg :=
  hsteps.inv (P := fun s => s.store.Defined cfg) h fun _ _ h hstep => hstep.store h

theorem defined_init (cfg : Config F) (calib : Calibration F) :
    (DriverState.init calib : DriverState F).store.Defined cfg :=
  ⟨fun _ hi => absurd hi List.not_mem_nil, Nat.zero_le _⟩

/-! ## How far a step moves the index -/

omit [CFloat F] in
/-- The index goes up by at most one for each point. -/
theorem storeAll_index_le (pclType : Int) (isQT : Bool) (points : List (PPoint F))
    (st : PointStore F) :
    (storeAll pclType isQT points st).iPointCloudIndex ≤ st.iPointCloudIndex + points.length := by
  by_cases hmode : pclType = 0
  · rw [hmode, storeAll_index]
  · rw [storeAll_index_structured hmode]
    split <;> omega

/-- A frame does not move it up. -/
theorem cutFrame_index_le (cfg : Config F) (laserNumber : Int) (s : DriverState F) :
    (cutFrame cfg laserNumber s).store.iPointCloudIndex ≤ s.store.iPointCloudIndex := by
  by_cases hmode : cfg.pclType = 0
  · -- a frame starts the index again, in unstructured mode only
    by_cases h : canEmit cfg s.store = true
    · rw [cutFrame_store_unstructured hmode h]
      exact Nat.zero_le _
    · rw [cutFrame_of_not_canEmit (by simpa using h)]
  · rw [cutFrame_index_structured hmode]

omit [CFloat F] in
/-- The blocks of a turn are those of a packet that was accepted. -/
theorem parsePacket_of_mem_turnSteps {packet : PandarPacket F} {pkt : ParsedPacket}
    {blockid azimuth : Nat} (h : .block pkt blockid azimuth ∈ turnSteps cfg packet) :
    parsePacket cfg packet = some pkt ∧ blockid < pkt.blocks.length := by
  -- the loop counts the blocks up from the first one
  have hloop : ∀ pkt' blocks first, .block pkt blockid azimuth ∈ loopSteps F pkt' blocks first →
      pkt = pkt' ∧ blockid < first + blocks.length := by
    intro pkt' blocks
    induction blocks with
    | nil => exact fun _ hmem => absurd hmem List.not_mem_nil
    | cons block blocks ih =>
      intro first hmem
      simp only [loopSteps, List.mem_cons, reduceCtorEq, InstanceStep.block.injEq,
        false_or] at hmem
      rw [List.length_cons]
      rcases hmem with ⟨rfl, rfl, -⟩ | hrest
      · exact ⟨rfl, by omega⟩
      · obtain ⟨hpkt, hlt⟩ := ih _ hrest
        exact ⟨hpkt, by omega⟩
  unfold turnSteps at h
  cases hparse : parsePacket cfg packet with
  | none => simp [hparse] at h
  | some pkt' =>
    simp only [hparse, List.cons_append, List.mem_cons, List.mem_append, reduceCtorEq,
      List.not_mem_nil, false_or, or_false] at h
    obtain ⟨rfl, hlt⟩ := hloop _ _ _ h
    exact ⟨rfl, by omega⟩

omit [CFloat F] in
/-- The packet that is taken in a turn is the one of the turn. -/
theorem eq_of_take_mem_turnSteps {packet packet' : PandarPacket F}
    (h : .take packet' ∈ turnSteps cfg packet) : packet' = packet := by
  have hloop : ∀ pkt blocks first, .take packet' ∉ loopSteps F pkt blocks first := by
    intro pkt blocks
    induction blocks with
    | nil => exact fun _ => List.not_mem_nil
    | cons block blocks ih =>
      intro first
      simpa only [loopSteps, List.mem_cons, reduceCtorEq, false_or] using ih (first + 1)
  unfold turnSteps at h
  cases hparse : parsePacket cfg packet with
  | none => simpa [hparse] using h
  | some pkt => simpa [hparse, hloop] using h

omit [CFloat F] in
/-- A block has at most one point for each laser. -/
theorem length_unitPoints_le (laserNumber : Int) (block : LidarBlock)
    (point : Nat → LidarUnit → PPoint F) :
    (unitPoints laserNumber block point).length ≤ laserNumber.toNat := by
  have hle := List.length_filterMap_le (fun i =>
    let unit := block.units.getD i default
    if unit.isWrong then none else some (point i unit)) (List.range laserNumber.toNat)
  rwa [List.length_range] at hle

theorem length_blockPoints_le (calib : Calibration F) (stamp : F) (blockid : Nat)
    (pkt : ParsedPacket) :
    (blockPoints cfg calib stamp blockid pkt).length ≤ pkt.laserNumber.toNat := by
  cases pkt <;> exact length_unitPoints_le _ _ _

/-- A step of the turn of a packet stores at most `64` points. -/
theorem instanceStep_index_le {packet : PandarPacket F} (hpacket : PacketFits cfg packet)
    {e : InstanceStep F} (he : e ∈ turnSteps cfg packet) (s : DriverState F) :
    (instanceStep cfg s e).store.iPointCloudIndex ≤ s.store.iPointCloudIndex + 64 := by
  cases e with
  | emission pkt azimuth =>
    simp only [instanceStep]
    split
    · have hcut := cutFrame_index_le cfg pkt.laserNumber s
      omega
    · exact Nat.le_add_right _ _
  | block pkt blockid azimuth =>
    -- more lasers than that do not fit into the header
    obtain ⟨hparse, hblockid⟩ := parsePacket_of_mem_turnSteps he
    have hlasers := laserNumber_le_of_acceptedFits hparse (hpacket.counts hparse)
      (List.ne_nil_of_length_pos (Nat.zero_lt_of_lt hblockid))
    have hpoints : (blockPoints cfg s.calibration s.dPktTimestamp blockid pkt).length ≤
        pkt.laserNumber.toNat := length_blockPoints_le _ _ _ _
    have hstore := storeAll_index_le cfg.pclType pkt.isQT
      (blockPoints cfg s.calibration s.dPktTimestamp blockid pkt) s.store
    simp only [instanceStep, calcPoints_eq]
    omega
  | take | keep | finish => exact Nat.le_add_right _ _

end Hesai
