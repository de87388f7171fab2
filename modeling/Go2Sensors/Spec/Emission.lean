import Go2Sensors.Spec.ThreadSteps

/-!
# What cutting a frame does

The frame that goes out (`emittedFrame`) and what is left behind, for each part of
the state and for both modes. Every later proof about frames uses these equations and
never unfolds `emitBackMessege`.

## Key results

- `cutFrame_unstructured`, `cutFrame_structured`: the state after a frame, in each mode
- `step_block`, `step_published`: a block with and without a frame
-/

namespace Hesai

variable {F : Type}

/-! ## The cloud of a frame -/

/-- Pushing points one after the other appends them. -/
theorem foldl_pushBack (points : List (PPoint F)) (cld : PPointCloud F) :
    points.foldl PPointCloud.pushBack cld =
      if points = [] then cld else
        { cld with
          points := cld.points ++ points
          width := toUInt32 (cld.points ++ points).length
          height := 1 } := by
  induction points generalizing cld with
  | nil => rfl
  | cons p points ih =>
    rw [List.foldl_cons, ih]
    -- the last push sets width and height
    by_cases hnone : points = []
    · simp [hnone, PPointCloud.pushBack]
    · simp only [hnone, ↓reduceIte, PPointCloud.pushBack, List.append_assoc, List.singleton_append,
        reduceCtorEq]

/-! ## Blocks that emit -/

/-- Does a block of azimuth `azimuth` emit a frame? -/
def emits (cfg : Config F) (s : DriverState F) (azimuth : Nat) : Bool :=
  isFrameCut cfg.startAngle s.lastAzimuth azimuth && canEmit cfg s.store

theorem canEmit_of_emits {cfg : Config F} {s : DriverState F} {azimuth : Nat}
    (h : emits cfg s azimuth = true) : canEmit cfg s.store = true :=
  (Bool.and_eq_true_iff.mp h).2

variable [CFloat F] (cfg : Config F) (laserNumber : Int) (s : DriverState F)

/-- The frame that goes out when a frame is cut. -/
def emittedFrame : Frame F :=
  let cld := fillCloud cfg laserNumber s.store s.outMsg
  ⟨cld, cld.points.head?.map PPoint.timestamp,
    s.scan ++ [saveCorrectionFile s.calibration laserNumber]⟩

/-- In unstructured mode the cloud holds the filled part of `PointCloud`. -/
theorem emittedFrame_unstructured (hmode : cfg.pclType = 0) :
    (emittedFrame cfg laserNumber s).cloud =
      { s.outMsg with
        points := s.store.pending
        width := toUInt32 s.store.pending.length
        height := 1 } := by
  simp [emittedFrame, fillCloud, hmode, PointStore.pending]

/-- The points of the rings below the laser number, one ring after the other. -/
def PointStore.rings (st : PointStore F) (laserNumber : Int) : List (PPoint F) :=
  (List.range laserNumber.toNat).flatMap st.pointCloudList

/-- In structured mode the points of the rings are pushed. -/
theorem emittedFrame_structured (hmode : cfg.pclType ≠ 0) :
    (emittedFrame cfg laserNumber s).cloud =
      (s.store.rings laserNumber).foldl PPointCloud.pushBack s.outMsg := by
  simp only [emittedFrame, fillCloud, if_pos hmode, PointStore.rings, List.foldl_flatMap]

/-- Whatever the mode, the cloud keeps its frame id. -/
theorem emittedFrame_frameId :
    (emittedFrame cfg laserNumber s).cloud.frameId = s.outMsg.frameId := by
  by_cases hmode : cfg.pclType = 0
  · rw [emittedFrame_unstructured cfg laserNumber s hmode]
  · rw [emittedFrame_structured cfg laserNumber s hmode, foldl_pushBack]
    split <;> rfl

/-! ## What is left behind -/

variable {cfg laserNumber s}

theorem cutFrame_of_not_canEmit (h : canEmit cfg s.store = false) :
    cutFrame cfg laserNumber s = s := by
  rw [cutFrame, if_neg (by simp [h])]

/-- A frame in unstructured mode: the index goes back to the first cell. -/
theorem cutFrame_unstructured (hmode : cfg.pclType = 0) (h : canEmit cfg s.store = true) :
    cutFrame cfg laserNumber s =
      { s with
        store := { s.store with iPointCloudIndex := 0 }
        outMsg := (emittedFrame cfg laserNumber s).cloud
        published := s.published ++ [emittedFrame cfg laserNumber s]
        scan := [] } := by
  rw [cutFrame, if_pos h]
  simp only [emitBackMessege, emittedFrame, hmode, ne_eq, not_true_eq_false, ↓reduceIte]

/-- A frame in structured mode: the rings below the laser number are emptied. -/
theorem cutFrame_structured (hmode : cfg.pclType ≠ 0) (h : canEmit cfg s.store = true) :
    cutFrame cfg laserNumber s =
      { s with
        store := { s.store with
          pointCloudList := fun j =>
            if j ∈ List.range laserNumber.toNat then [] else s.store.pointCloudList j }
        outMsg := if List.range laserNumber.toNat = []
          then (emittedFrame cfg laserNumber s).cloud
          else { (emittedFrame cfg laserNumber s).cloud with
            points := [], width := 0, height := 1 }
        published := s.published ++ [emittedFrame cfg laserNumber s]
        scan := [] } := by
  rw [cutFrame, if_pos h]
  simp only [emitBackMessege, emittedFrame, if_pos hmode, foldl_clearRing_eq]

/-- The frame goes to the callback, and no packet message stays behind. -/
theorem cutFrame_published (h : canEmit cfg s.store = true) :
    (cutFrame cfg laserNumber s).published =
        s.published ++ [emittedFrame cfg laserNumber s] ∧
      (cutFrame cfg laserNumber s).scan = [] := by
  by_cases hmode : cfg.pclType = 0
  · rw [cutFrame_unstructured hmode h]
    exact ⟨rfl, rfl⟩
  · rw [cutFrame_structured hmode h]
    exact ⟨rfl, rfl⟩

/-- In unstructured mode the index goes back to the first cell. -/
theorem cutFrame_store_unstructured (hmode : cfg.pclType = 0) (h : canEmit cfg s.store = true) :
    (cutFrame cfg laserNumber s).store = { s.store with iPointCloudIndex := 0 } := by
  rw [cutFrame_unstructured hmode h]

/-- In structured mode the rings below the laser number are emptied. -/
theorem cutFrame_ring_structured (hmode : cfg.pclType ≠ 0) (h : canEmit cfg s.store = true)
    (j : Nat) :
    (cutFrame cfg laserNumber s).store.pointCloudList j =
      if j < laserNumber.toNat then [] else s.store.pointCloudList j := by
  rw [cutFrame_structured hmode h]
  simp only [List.mem_range]

/-- In structured mode the index stays as it is. -/
theorem cutFrame_index_structured (hmode : cfg.pclType ≠ 0) :
    (cutFrame cfg laserNumber s).store.iPointCloudIndex = s.store.iPointCloudIndex := by
  by_cases h : canEmit cfg s.store = true
  · rw [cutFrame_structured hmode h]
  · rw [cutFrame_of_not_canEmit (by simpa using h)]

/-- A structured frame that starts from an empty cloud leaves an empty cloud. -/
theorem cutFrame_points_structured (hmode : cfg.pclType ≠ 0) (hempty : s.outMsg.points = []) :
    (cutFrame cfg laserNumber s).outMsg.points = [] := by
  by_cases h : canEmit cfg s.store = true
  · rw [cutFrame_structured hmode h]
    by_cases hnone : List.range laserNumber.toNat = []
    · -- no ring was copied, and none was cleared
      simp only [if_pos hnone]
      rw [emittedFrame_structured cfg laserNumber s hmode, PointStore.rings, hnone,
        List.flatMap_nil, List.foldl_nil, hempty]
    · simp only [if_neg hnone]
  · rw [cutFrame_of_not_canEmit (by simpa using h), hempty]

/-- The frame id of the cloud stays as it is. -/
theorem cutFrame_frameId : (cutFrame cfg laserNumber s).outMsg.frameId = s.outMsg.frameId := by
  have hcloud := emittedFrame_frameId cfg laserNumber s
  by_cases h : canEmit cfg s.store = true
  · by_cases hmode : cfg.pclType = 0
    · rw [cutFrame_unstructured hmode h, hcloud]
    · rw [cutFrame_structured hmode h]
      split <;> exact hcloud
  · rw [cutFrame_of_not_canEmit (by simpa using h)]

/-! ## A block with and without a frame -/

variable (cfg) (laserNumber) (s)

/-- The state in which the points of a block are stored. -/
def afterCut (azimuth : Nat) : DriverState F :=
  if emits cfg s azimuth then cutFrame cfg laserNumber s else s

/-- A block in terms of the state after the cut. -/
theorem step_block (azimuth : Nat) (isQT : Bool) (points : List (PPoint F)) :
    step cfg s (.block laserNumber azimuth isQT points) =
      { afterCut cfg laserNumber s azimuth with
        store := storeAll cfg.pclType isQT points (afterCut cfg laserNumber s azimuth).store
        lastAzimuth := azimuth } := by
  unfold afterCut emits step
  by_cases hcut : isFrameCut cfg.startAngle s.lastAzimuth azimuth
  · by_cases hcan : canEmit cfg s.store
    · simp only [hcut, hcan, Bool.and_self, ↓reduceIte]
    -- a cut without points to emit changes nothing
    · have hcan : canEmit cfg s.store = false := by simpa using hcan
      simp only [hcut, hcan, cutFrame_of_not_canEmit hcan, Bool.and_false, Bool.false_eq_true,
        ↓reduceIte]
  · simp only [hcut, Bool.false_and, Bool.false_eq_true, ↓reduceIte]

variable {cfg} {laserNumber} {s}

theorem afterCut_of_emits {azimuth : Nat} (h : emits cfg s azimuth = true) :
    afterCut cfg laserNumber s azimuth = cutFrame cfg laserNumber s := by
  rw [afterCut, if_pos h]

theorem afterCut_of_not_emits {azimuth : Nat} (h : emits cfg s azimuth = false) :
    afterCut cfg laserNumber s azimuth = s := by
  rw [afterCut, if_neg (by simp [h])]

variable (cfg) (laserNumber) (s)

/-- A block publishes its frame, or nothing. -/
theorem step_published (azimuth : Nat) (isQT : Bool) (points : List (PPoint F)) :
    (step cfg s (.block laserNumber azimuth isQT points)).published =
      s.published ++ if emits cfg s azimuth then [emittedFrame cfg laserNumber s] else [] := by
  rw [step_block]
  cases h : emits cfg s azimuth with
  | false => simp [afterCut_of_not_emits h]
  | true => simp [afterCut_of_emits h, (cutFrame_published (canEmit_of_emits h)).1]

/-- The frame takes the pending packet messages with it. -/
theorem step_scan (azimuth : Nat) (isQT : Bool) (points : List (PPoint F)) :
    (step cfg s (.block laserNumber azimuth isQT points)).scan =
      if emits cfg s azimuth then [] else s.scan := by
  rw [step_block]
  cases h : emits cfg s azimuth with
  | false => simp [afterCut_of_not_emits h]
  | true => simp [afterCut_of_emits h, (cutFrame_published (canEmit_of_emits h)).2]

/-- In structured mode a block writes to no cell, and only the QT branch moves the index. -/
theorem step_block_structured (hmode : cfg.pclType ≠ 0) (azimuth : Nat) (isQT : Bool)
    (points : List (PPoint F)) :
    (step cfg s (.block laserNumber azimuth isQT points)).store.written = s.store.written ∧
      (step cfg s (.block laserNumber azimuth isQT points)).store.iPointCloudIndex =
        s.store.iPointCloudIndex + if isQT then points.length else 0 := by
  have hcut : (afterCut cfg laserNumber s azimuth).store.written = s.store.written ∧
      (afterCut cfg laserNumber s azimuth).store.iPointCloudIndex = s.store.iPointCloudIndex := by
    cases hemits : emits cfg s azimuth with
    | true =>
      rw [afterCut_of_emits hemits, cutFrame_structured hmode (canEmit_of_emits hemits)]
      exact ⟨rfl, rfl⟩
    | false =>
      rw [afterCut_of_not_emits hemits]
      exact ⟨rfl, rfl⟩
  rw [step_block]
  constructor
  · rw [storeAll_written_structured hmode, hcut.1]
  · rw [storeAll_index_structured hmode, hcut.2]

end Hesai
