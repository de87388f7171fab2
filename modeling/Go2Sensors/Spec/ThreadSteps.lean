import Go2Sensors.ForStd.Run
import Go2Sensors.Native.Process
import Go2Sensors.Spec.ParseBounds

/-!
# The processing thread as a step machine

A packet is broken down into the steps that the thread takes for it
(`packetSteps`): the stamp is noted, the raw packet is kept, each block may cut a
frame and adds its points, and the frame id is set. The thread is the machine that
takes these steps (`run_eq_steps`), so that a property of every run is a property of
every step. The points of a block are those of its right returns (`blockPoints`),
in the order of the lasers.

## Key results

- `run_eq_steps`: a run of the thread is a run of `step`
- `pending_storeAll`, `storeAll_ring`: what storing points does
-/

namespace Hesai

open Run

variable {F : Type}

/-! ## The points of a block -/

/-- The right returns of a block as points, in the order of the lasers. -/
def unitPoints (laserNumber : Int) (block : LidarBlock) (point : Nat → LidarUnit → PPoint F) :
    List (PPoint F) :=
  (List.range laserNumber.toNat).filterMap fun i =>
    let unit := block.units.getD i default
    if unit.isWrong then none else some (point i unit)

theorem mem_unitPoints {laserNumber : Int} {block : LidarBlock}
    {point : Nat → LidarUnit → PPoint F} {p : PPoint F} :
    p ∈ unitPoints laserNumber block point ↔
      ∃ i < laserNumber.toNat, (block.units.getD i default).isWrong = false ∧
        p = point i (block.units.getD i default) := by
  rw [unitPoints, List.mem_filterMap]
  refine exists_congr fun i => and_congr List.mem_range ?_
  generalize block.units.getD i default = unit
  cases hwrong : unit.isWrong with
  | false =>
    simp only [hwrong, Bool.false_eq_true, ↓reduceIte, Option.some.injEq, true_and]
    exact eq_comm
  | true => simp only [hwrong, ↓reduceIte, reduceCtorEq, Bool.true_eq_false, false_and]

/-- Does the branch advance the index in both modes? -/
def ParsedPacket.isQT : ParsedPacket → Bool
  | .qt _ => true
  | _ => false

/-- Store points at the end of the laser loop, each in the ring of its laser. -/
def storeAll (pclType : Int) (isQT : Bool) (points : List (PPoint F)) (st : PointStore F) :
    PointStore F :=
  points.foldl (fun st p =>
    if isQT then storePointQT pclType p.ring p st else storePoint pclType p.ring p st) st

/-- A laser loop stores the points of the right returns, whichever way it stores them. -/
theorem calcLoop_eq {laserNumber : Int} {block : LidarBlock}
    {point : Nat → LidarUnit → PPoint F} {store : Nat → PPoint F → PointStore F → PointStore F}
    (hring : ∀ i unit, (point i unit).ring = i) (st : PointStore F) :
    calcLoop laserNumber block point store st =
      (unitPoints laserNumber block point).foldl (fun st p => store p.ring p st) st := by
  unfold calcLoop unitPoints
  -- skipping an element of the fold is filtering it out
  rw [List.foldl_filterMap]
  congr 1
  funext st i
  by_cases hwrong : (block.units.getD i default).isWrong
  · simp only [hwrong, ↓reduceIte]
  · simp only [hwrong, hring, ↓reduceIte, Bool.false_eq_true]

/-! ### Storing in `PointCloud` -/

/-- The filled part of `PointCloud`. -/
def PointStore.pending (st : PointStore F) : List (PPoint F) :=
  (List.range st.iPointCloudIndex).map st.pointCloud

/-- Without structure both ways of storing are the same. -/
theorem storeAll_unstructured_cons (isQT : Bool) (p : PPoint F) (points : List (PPoint F))
    (st : PointStore F) :
    storeAll 0 isQT (p :: points) st = storeAll 0 isQT points (st.write p).advance := by
  cases isQT <;> rfl

/-- The index counts the points. -/
theorem storeAll_index (isQT : Bool) (points : List (PPoint F)) (st : PointStore F) :
    (storeAll 0 isQT points st).iPointCloudIndex = st.iPointCloudIndex + points.length := by
  induction points generalizing st with
  | nil => rfl
  | cons p points ih =>
    rw [storeAll_unstructured_cons, ih, List.length_cons]
    simp only [PointStore.advance, PointStore.write]
    omega

/-- The rings stay as they are. -/
theorem storeAll_rings (isQT : Bool) (points : List (PPoint F)) (st : PointStore F) :
    (storeAll 0 isQT points st).pointCloudList = st.pointCloudList := by
  induction points generalizing st with
  | nil => rfl
  | cons p points ih => rw [storeAll_unstructured_cons, ih]; rfl

/-- The points are written one after the other from the index on. -/
theorem storeAll_written (isQT : Bool) (points : List (PPoint F)) (st : PointStore F) :
    (storeAll 0 isQT points st).written =
      st.written ++ List.range' st.iPointCloudIndex points.length := by
  induction points generalizing st with
  | nil => simp [storeAll]
  | cons p points ih =>
    rw [storeAll_unstructured_cons, ih, List.length_cons, List.range'_succ]
    simp only [PointStore.advance, PointStore.write, List.append_assoc, List.singleton_append]

/-- A write inside the array adds the point to the filled part. -/
theorem pending_write_advance {st : PointStore F} (p : PPoint F)
    (hroom : st.iPointCloudIndex < maxPointCloudNum) :
    (st.write p).advance.pending = st.pending ++ [p] := by
  simp only [PointStore.pending, PointStore.advance, PointStore.write, if_pos hroom,
    List.range_succ, List.map_append, List.map_singleton, Function.update_self]
  congr 1
  apply List.map_congr_left
  intro i hi
  -- the cells below the index are not touched
  rw [Function.update_of_ne (Nat.ne_of_lt (List.mem_range.mp hi))]

/-- As long as there is room, storing adds the points to the filled part. -/
theorem pending_storeAll (isQT : Bool) (points : List (PPoint F)) {st : PointStore F}
    (hroom : st.iPointCloudIndex + points.length ≤ maxPointCloudNum) :
    (storeAll 0 isQT points st).pending = st.pending ++ points := by
  induction points generalizing st with
  | nil => simp [storeAll]
  | cons p points ih =>
    rw [List.length_cons] at hroom
    have hnext : (st.write p).advance.iPointCloudIndex = st.iPointCloudIndex + 1 := rfl
    rw [storeAll_unstructured_cons, ih (by rw [hnext]; omega),
      pending_write_advance p (by omega), List.append_assoc, List.singleton_append]

/-! ### Storing in the rings -/

/-- With structure both ways of storing push to a ring, and the QT branch advances the
    index all the same. -/
theorem storeAll_structured_cons {pclType : Int} (hmode : pclType ≠ 0) (isQT : Bool)
    (p : PPoint F) (points : List (PPoint F)) (st : PointStore F) :
    storeAll pclType isQT (p :: points) st = storeAll pclType isQT points
      (if isQT then (st.pushRing p.ring p).advance else st.pushRing p.ring p) := by
  have hcons : storeAll pclType isQT (p :: points) st = storeAll pclType isQT points
      (if isQT then storePointQT pclType p.ring p st else storePoint pclType p.ring p st) := rfl
  rw [hcons, storePointQT, storePoint, if_pos hmode, if_pos hmode]

/-- Each ring gets its points, in order. -/
theorem storeAll_ring {pclType : Int} (hmode : pclType ≠ 0) (isQT : Bool)
    (points : List (PPoint F)) (st : PointStore F) (j : Nat) :
    (storeAll pclType isQT points st).pointCloudList j =
      st.pointCloudList j ++ points.filter (·.ring = j) := by
  induction points generalizing st with
  | nil => simp [storeAll]
  | cons p points ih =>
    have hrings : (if isQT then (st.pushRing p.ring p).advance
          else st.pushRing p.ring p).pointCloudList =
        Function.update st.pointCloudList p.ring (st.pointCloudList p.ring ++ [p]) := by
      cases isQT <;> rfl
    rw [storeAll_structured_cons hmode, ih, hrings]
    by_cases hj : p.ring = j
    · subst hj
      simp
    · rw [Function.update_of_ne (Ne.symm hj)]
      simp [hj]

/-- Only the QT branch advances the index in structured mode. -/
theorem storeAll_index_structured {pclType : Int} (hmode : pclType ≠ 0) (isQT : Bool)
    (points : List (PPoint F)) (st : PointStore F) :
    (storeAll pclType isQT points st).iPointCloudIndex =
      st.iPointCloudIndex + if isQT then points.length else 0 := by
  induction points generalizing st with
  | nil => cases isQT <;> rfl
  | cons p points ih =>
    rw [storeAll_structured_cons hmode, ih]
    cases isQT with
    | false => rfl
    | true =>
      simp only [↓reduceIte, PointStore.pushRing, PointStore.advance, List.length_cons]
      omega

/-- No cell is written. -/
theorem storeAll_written_structured {pclType : Int} (hmode : pclType ≠ 0) (isQT : Bool)
    (points : List (PPoint F)) (st : PointStore F) :
    (storeAll pclType isQT points st).written = st.written := by
  induction points generalizing st with
  | nil => rfl
  | cons p points ih =>
    rw [storeAll_structured_cons hmode, ih]
    cases isQT <;> rfl

/-! ### Clearing the rings -/

/-- Clearing rings empties these rings, leaves the others, and clears the cloud if there
    is at least one ring to clear. -/
theorem foldl_clearRing_eq (is : List Nat) (s : DriverState F) :
    is.foldl clearRing s =
      { s with
        store := { s.store with
          pointCloudList := fun j => if j ∈ is then [] else s.store.pointCloudList j }
        outMsg := if is = [] then s.outMsg
          else { s.outMsg with points := [], width := 0, height := 1 } } := by
  induction is generalizing s with
  | nil => rfl
  | cons i is ih =>
    have hrings : (fun j => if j ∈ is then [] else
          Function.update s.store.pointCloudList i [] j) =
        fun j => if j ∈ i :: is then [] else s.store.pointCloudList j := by
      funext j
      by_cases hj : j = i
      · subst hj
        simp
      · simp [hj]
    rw [List.foldl_cons, ih, clearRing]
    simp only [hrings, reduceCtorEq, ↓reduceIte, ite_self]

variable [CFloat F]

/-- The points of block `blockid`. -/
def blockPoints (cfg : Config F) (calib : Calibration F) (stamp : F) (blockid : Nat) :
    ParsedPacket → List (PPoint F)
  | .pandar40P pkt => unitPoints laserCount (pkt.blocks.getD blockid default)
      (point40P cfg calib stamp pkt blockid)
  | .l64 pkt => unitPoints pkt.header.chLaserNumber (pkt.blocks.getD blockid default)
      (pointL64 cfg calib stamp pkt blockid)
  | .l20 pkt => unitPoints pkt.header.chLaserNumber (pkt.blocks.getD blockid default)
      (pointL20 cfg calib stamp pkt blockid)
  | .qt pkt => unitPoints pkt.header.chLaserNumber (pkt.blocks.getD blockid default)
      (pointQT cfg calib stamp pkt blockid)
  | .xt pkt => unitPoints pkt.header.chLaserNumber (pkt.blocks.getD blockid default)
      (pointXT cfg calib stamp pkt blockid)

/-- The `Calc` function of each branch stores the points of the block. -/
theorem calcPoints_eq (cfg : Config F) (calib : Calibration F) (stamp : F) (pkt : ParsedPacket)
    (blockid : Nat) (st : PointStore F) :
    pkt.calcPoints cfg calib stamp blockid st =
      storeAll cfg.pclType pkt.isQT (blockPoints cfg calib stamp blockid pkt) st := by
  cases pkt <;> exact calcLoop_eq (fun _ _ => rfl) st

/-! ## Steps -/

/-- A step of the processing thread. -/
inductive ThreadStep (F : Type) where
  /-- note the stamp of the packet -/
  | receive (stamp : F)
  /-- keep the raw packet -/
  | accept (raw : PandarPacketMsg)
  /-- a block: its azimuth may cut a frame, then its points are stored -/
  | block (laserNumber : Int) (azimuth : Nat) (isQT : Bool) (points : List (PPoint F))
  /-- set the frame id -/
  | finish

/-- The steps of the blocks from block `blockid` on. -/
def blockSteps (cfg : Config F) (calib : Calibration F) (stamp : F) (pkt : ParsedPacket) :
    (blocks : List LidarBlock) → (blockid : Nat) → List (ThreadStep F)
  | [], _ => []
  | block :: blocks, blockid =>
    .block pkt.laserNumber block.azimuth pkt.isQT (blockPoints cfg calib stamp blockid pkt) ::
      blockSteps cfg calib stamp pkt blocks (blockid + 1)

/-- The steps of a packet. -/
def packetSteps (cfg : Config F) (calib : Calibration F) (packet : PandarPacket F) :
    List (ThreadStep F) :=
  .receive packet.stamp ::
    match parsePacket cfg packet with
    | none => []
    | some pkt =>
      .accept (rawPacket packet) ::
        blockSteps cfg calib packet.stamp pkt pkt.blocks 0 ++ [.finish]

/-- The steps of a sequence of packets. -/
def packetsSteps (cfg : Config F) (calib : Calibration F) (packets : List (PandarPacket F)) :
    List (ThreadStep F) :=
  packets.flatMap (packetSteps cfg calib)

/-- Where a block step comes from. -/
theorem mem_blockSteps {cfg : Config F} {calib : Calibration F} {stamp : F} {pkt : ParsedPacket}
    {blocks : List LidarBlock} {blockid : Nat} {e : ThreadStep F}
    (he : e ∈ blockSteps cfg calib stamp pkt blocks blockid) :
    ∃ block ∈ blocks, ∃ blockid', e = .block pkt.laserNumber block.azimuth pkt.isQT
      (blockPoints cfg calib stamp blockid' pkt) := by
  induction blocks generalizing blockid with
  | nil => exact absurd he List.not_mem_nil
  | cons block blocks ih =>
    rcases List.mem_cons.mp he with hfirst | hrest
    · exact ⟨block, List.mem_cons_self, blockid, hfirst⟩
    · obtain ⟨block', hblock', hstep⟩ := ih hrest
      exact ⟨block', List.mem_cons_of_mem _ hblock', hstep⟩

/-- A block step belongs to a block of an accepted packet. -/
theorem block_mem_packetsSteps {cfg : Config F} {calib : Calibration F}
    {packets : List (PandarPacket F)} {laserNumber : Int} {azimuth : Nat} {isQT : Bool}
    {points : List (PPoint F)}
    (he : .block laserNumber azimuth isQT points ∈ packetsSteps cfg calib packets) :
    ∃ packet ∈ packets, ∃ pkt, parsePacket cfg packet = some pkt ∧
      ∃ block ∈ pkt.blocks, ∃ blockid, laserNumber = pkt.laserNumber ∧
        azimuth = block.azimuth ∧ isQT = pkt.isQT ∧
        points = blockPoints cfg calib packet.stamp blockid pkt := by
  obtain ⟨packet, hpacket, he⟩ := List.mem_flatMap.mp he
  refine ⟨packet, hpacket, ?_⟩
  unfold packetSteps at he
  cases hparse : parsePacket cfg packet with
  | none => simp [hparse] at he
  | some pkt =>
    simp only [hparse, List.mem_append, List.mem_cons, List.not_mem_nil, reduceCtorEq,
      false_or, or_false] at he
    obtain ⟨block, hblock, blockid, hstep⟩ := mem_blockSteps he
    obtain ⟨hn, haz, hqt, hpts⟩ := ThreadStep.block.inj hstep
    exact ⟨pkt, rfl, block, hblock, blockid, hn, haz, hqt, hpts⟩

/-- What a step does. -/
def step (cfg : Config F) (s : DriverState F) : ThreadStep F → DriverState F
  | .receive stamp => { s with dPktTimestamp := stamp }
  | .accept raw => { s with scan := s.scan ++ [raw] }
  | .block laserNumber azimuth isQT points =>
    let s := if isFrameCut cfg.startAngle s.lastAzimuth azimuth
      then cutFrame cfg laserNumber s else s
    { s with
      store := storeAll cfg.pclType isQT points s.store
      lastAzimuth := azimuth }
  | .finish => { s with outMsg := { s.outMsg with frameId := cfg.frameId, height := 1 } }

/-- The packet is accepted, and the counts of its header fit its length and the arrays. -/
def acceptedFits (cfg : Config F) (packet : PandarPacket F) : Bool :=
  let fits := fun fmt : Format => decide (CountsFit fmt packet.data packet.size) &&
    decide (LoopsFit fmt cfg.charSigned packet.data)
  match parsePacket cfg packet with
  | none => false
  | some (.pandar40P _) => true
  | some (.l64 _) => fits l64Format
  | some (.l20 _) => fits l20Format
  | some (.qt _) => fits qtFormat
  | some (.xt _) => fits xtFormat

/-! ## The thread takes these steps -/

/-- Emitting a frame leaves the calibration and the noted stamp. -/
theorem cutFrame_calibration (cfg : Config F) (laserNumber : Int) (s : DriverState F) :
    (cutFrame cfg laserNumber s).calibration = s.calibration ∧
      (cutFrame cfg laserNumber s).dPktTimestamp = s.dPktTimestamp := by
  unfold cutFrame
  by_cases hemit : canEmit cfg s.store
  · rw [if_pos hemit]
    unfold emitBackMessege
    by_cases hmode : cfg.pclType ≠ 0
    · simp only [if_pos hmode, foldl_clearRing_eq, and_self]
    · simp only [if_neg hmode, and_self]
  · rw [if_neg hemit]
    exact ⟨rfl, rfl⟩

/-- A block is one step. -/
theorem processBlock_eq (cfg : Config F) (pkt : ParsedPacket) (blockid azimuth : Nat)
    (s : DriverState F) :
    processBlock cfg pkt blockid azimuth s =
      step cfg s (.block pkt.laserNumber azimuth pkt.isQT
        (blockPoints cfg s.calibration s.dPktTimestamp blockid pkt)) := by
  unfold processBlock step
  by_cases hcut : isFrameCut cfg.startAngle s.lastAzimuth azimuth
  -- the points are computed from what the cut leaves alone
  · obtain ⟨hcalib, hstamp⟩ := cutFrame_calibration cfg pkt.laserNumber s
    simp only [hcut, ↓reduceIte, calcPoints_eq, hcalib, hstamp]
  · simp only [hcut, Bool.false_eq_true, ↓reduceIte, calcPoints_eq]

/-- A block keeps the calibration and the noted stamp. -/
theorem step_block_calibration (cfg : Config F) (s : DriverState F) (laserNumber : Int)
    (azimuth : Nat) (isQT : Bool) (points : List (PPoint F)) :
    (step cfg s (.block laserNumber azimuth isQT points)).calibration = s.calibration ∧
      (step cfg s (.block laserNumber azimuth isQT points)).dPktTimestamp = s.dPktTimestamp := by
  unfold step
  by_cases hcut : isFrameCut cfg.startAngle s.lastAzimuth azimuth
  · simp only [hcut, ↓reduceIte]
    exact cutFrame_calibration cfg laserNumber s
  · simp only [hcut, Bool.false_eq_true, ↓reduceIte, and_self]

/-- The block loop takes the steps of its blocks. -/
theorem processBlocks_eq (cfg : Config F) (pkt : ParsedPacket) (blocks : List LidarBlock)
    (blockid : Nat) (s : DriverState F) :
    processBlocks cfg pkt blocks blockid s =
        (blockSteps cfg s.calibration s.dPktTimestamp pkt blocks blockid).foldl (step cfg) s ∧
      (processBlocks cfg pkt blocks blockid s).calibration = s.calibration := by
  induction blocks generalizing blockid s with
  | nil => exact ⟨rfl, rfl⟩
  | cons block blocks ih =>
    obtain ⟨hcalib, hstamp⟩ := step_block_calibration cfg s pkt.laserNumber block.azimuth pkt.isQT
      (blockPoints cfg s.calibration s.dPktTimestamp blockid pkt)
    simp only [processBlocks, blockSteps, List.foldl_cons, processBlock_eq]
    -- the rest of the blocks, from the state after the first one
    have h := ih (blockid + 1) (step cfg s (.block pkt.laserNumber block.azimuth pkt.isQT
      (blockPoints cfg s.calibration s.dPktTimestamp blockid pkt)))
    rw [hcalib, hstamp] at h
    exact h

/-- One turn of the loop takes the steps of its packet. -/
theorem processLiarPacket_eq (cfg : Config F) (s : DriverState F) (packet : PandarPacket F) :
    processLiarPacket cfg s packet =
        (packetSteps cfg s.calibration packet).foldl (step cfg) s ∧
      (processLiarPacket cfg s packet).calibration = s.calibration := by
  unfold processLiarPacket packetSteps
  cases hparse : parsePacket cfg packet with
  | none => exact ⟨rfl, rfl⟩
  | some pkt =>
    -- stamp and raw packet come first, the frame id last
    obtain ⟨hsteps, hcalib⟩ := processBlocks_eq cfg pkt pkt.blocks 0
      { s with dPktTimestamp := packet.stamp, scan := s.scan ++ [rawPacket packet] }
    refine ⟨?_, hcalib⟩
    simp only [List.foldl_cons, List.foldl_append, List.foldl_nil, List.cons_append]
    rw [hsteps]
    rfl

/-- A run of the thread is a run of its steps. -/
theorem run_eq_steps (cfg : Config F) (s : DriverState F) (packets : List (PandarPacket F)) :
    run cfg s packets = (packetsSteps cfg s.calibration packets).foldl (step cfg) s := by
  unfold run packetsSteps
  induction packets generalizing s with
  | nil => rfl
  | cons packet packets ih =>
    obtain ⟨hsteps, hcalib⟩ := processLiarPacket_eq cfg s packet
    rw [List.foldl_cons, List.flatMap_cons, List.foldl_append, ih, hcalib, hsteps]

/-- A run from program start. -/
theorem run_init_eq_steps (cfg : Config F) (calib : Calibration F)
    (packets : List (PandarPacket F)) :
    run cfg (DriverState.init calib) packets =
      (packetsSteps cfg calib packets).foldl (step cfg) (DriverState.init calib) :=
  run_eq_steps cfg (DriverState.init calib) packets

end Hesai
