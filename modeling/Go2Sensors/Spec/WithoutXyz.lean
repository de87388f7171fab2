import Go2Sensors.Spec.Accumulation
import Go2Sensors.Spec.Isolation

/-!
# What the calibration does not change

The calibration decides the coordinates of the points and nothing else: which returns
become points, their order, their rings and timestamps, where the frames are cut and which
packets go with a frame are the same under any two calibrations, and also if the
calibration changes between any two steps of the thread.

## Key results

- `blockPoints_withoutXyz`: the points of a block
- `SameButXyz.step`: a step under another calibration
-/

namespace Hesai

open CFloat (ofRat)

variable {F : Type} [CFloat F]

/-! ## Without the coordinates -/

/-- The point at the origin. -/
def PPoint.withoutXyz (p : PPoint F) : PPoint F :=
  { p with x := ofRat 0, y := ofRat 0, z := ofRat 0 }

@[simp] theorem PPoint.withoutXyz_ring (p : PPoint F) : p.withoutXyz.ring = p.ring := rfl

@[simp] theorem PPoint.withoutXyz_timestamp (p : PPoint F) :
    p.withoutXyz.timestamp = p.timestamp := rfl

/-- The cloud with all points at the origin. -/
def PPointCloud.withoutXyz (cld : PPointCloud F) : PPointCloud F :=
  { cld with points := cld.points.map PPoint.withoutXyz }

/-- The static variables with all points at the origin. -/
def PointStore.withoutXyz (st : PointStore F) : PointStore F :=
  { st with
    pointCloudList := fun i => (st.pointCloudList i).map PPoint.withoutXyz
    pointCloud := fun i => (st.pointCloud i).withoutXyz }

/-- The frame with all points at the origin and without its correction packet. -/
def Frame.withoutXyz (f : Frame F) : Frame F :=
  { f with cloud := f.cloud.withoutXyz, scan := f.raws }

/-! ## Points -/

/-- Only the coordinates of a point depend on the calibration. -/
theorem blockPoints_withoutXyz (cfg : Config F) (calib calib' : Calibration F) (stamp : F)
    (blockid : Nat) (pkt : ParsedPacket) :
    (blockPoints cfg calib stamp blockid pkt).map PPoint.withoutXyz =
      (blockPoints cfg calib' stamp blockid pkt).map PPoint.withoutXyz := by
  have hunits : ∀ (laserNumber : Int) (block : LidarBlock)
      (point point' : Nat → LidarUnit → PPoint F),
      (∀ i unit, (point i unit).withoutXyz = (point' i unit).withoutXyz) →
      (unitPoints laserNumber block point).map PPoint.withoutXyz =
        (unitPoints laserNumber block point').map PPoint.withoutXyz := by
    intro laserNumber block point point' hsame
    unfold unitPoints
    rw [List.map_filterMap, List.map_filterMap]
    apply List.filterMap_congr
    intro i _
    -- the skip test does not look at the coordinates
    dsimp only
    split
    · rfl
    · exact congrArg some (hsame i _)
  cases pkt <;> exact hunits _ _ _ _ fun _ _ => rfl

/-- Writing a point to its cell. -/
theorem write_withoutXyz (p : PPoint F) (st : PointStore F) :
    (st.write p).withoutXyz = st.withoutXyz.write p.withoutXyz := by
  have hcell : (fun j => (Function.update st.pointCloud st.iPointCloudIndex p j).withoutXyz) =
      Function.update (fun j => (st.pointCloud j).withoutXyz) st.iPointCloudIndex
        p.withoutXyz := by
    funext j
    by_cases hj : j = st.iPointCloudIndex
    · subst hj
      simp
    · simp [Function.update_of_ne hj]
  by_cases hroom : st.iPointCloudIndex < maxPointCloudNum
  · have hroom' : st.withoutXyz.iPointCloudIndex < maxPointCloudNum := hroom
    rw [PointStore.write, PointStore.write, if_pos hroom, if_pos hroom']
    simp only [PointStore.withoutXyz, hcell]
  · -- past the end no cell changes, on either side
    have hroom' : ¬ st.withoutXyz.iPointCloudIndex < maxPointCloudNum := hroom
    rw [PointStore.write, PointStore.write, if_neg hroom, if_neg hroom']
    rfl

/-- Pushing a point to its ring. -/
theorem pushRing_withoutXyz (i : Nat) (p : PPoint F) (st : PointStore F) :
    (st.pushRing i p).withoutXyz = st.withoutXyz.pushRing i p.withoutXyz := by
  have hring : (fun j => (Function.update st.pointCloudList i
        (st.pointCloudList i ++ [p]) j).map PPoint.withoutXyz) =
      Function.update (fun j => (st.pointCloudList j).map PPoint.withoutXyz) i
        ((st.pointCloudList i).map PPoint.withoutXyz ++ [p.withoutXyz]) := by
    funext j
    by_cases hj : j = i
    · subst hj
      simp
    · simp [Function.update_of_ne hj]
  simp only [PointStore.withoutXyz, PointStore.pushRing, hring]

/-- Storing a point. -/
theorem storePoint_withoutXyz (pclType : Int) (i : Nat) (p : PPoint F) (st : PointStore F) :
    (storePoint pclType i p st).withoutXyz =
      storePoint pclType i p.withoutXyz st.withoutXyz := by
  unfold storePoint
  split
  · exact pushRing_withoutXyz i p st
  · show (st.write p).withoutXyz.advance = _
    rw [write_withoutXyz]

/-- In the QT branch the index advances in both modes. -/
theorem storePointQT_withoutXyz (pclType : Int) (i : Nat) (p : PPoint F) (st : PointStore F) :
    (storePointQT pclType i p st).withoutXyz =
      storePointQT pclType i p.withoutXyz st.withoutXyz := by
  unfold storePointQT
  split
  · show (st.pushRing i p).withoutXyz.advance = _
    rw [pushRing_withoutXyz]
  · show (st.write p).withoutXyz.advance = _
    rw [write_withoutXyz]

/-- Storing the points of a block. -/
theorem storeAll_withoutXyz (pclType : Int) (isQT : Bool) (points : List (PPoint F))
    (st : PointStore F) :
    (storeAll pclType isQT points st).withoutXyz =
      storeAll pclType isQT (points.map PPoint.withoutXyz) st.withoutXyz := by
  induction points generalizing st with
  | nil => rfl
  | cons p points ih =>
    simp only [storeAll, List.foldl_cons, List.map_cons, PPoint.withoutXyz_ring] at ih ⊢
    rw [ih]
    -- the QT branch stores in its own way
    cases isQT with
    | false => simp only [Bool.false_eq_true, ↓reduceIte, storePoint_withoutXyz]
    | true => simp only [↓reduceIte, storePointQT_withoutXyz]

/-! ## Frames -/

/-- Pushing points to a cloud. -/
theorem foldl_pushBack_withoutXyz (points : List (PPoint F)) (cld : PPointCloud F) :
    (points.foldl PPointCloud.pushBack cld).withoutXyz =
      (points.map PPoint.withoutXyz).foldl PPointCloud.pushBack cld.withoutXyz := by
  induction points generalizing cld with
  | nil => rfl
  | cons p points ih =>
    have hpush : (cld.pushBack p).withoutXyz = cld.withoutXyz.pushBack p.withoutXyz := by
      simp [PPointCloud.pushBack, PPointCloud.withoutXyz]
    rw [List.foldl_cons, ih, List.map_cons, List.foldl_cons, hpush]

/-- The cloud of a frame. -/
theorem fillCloud_withoutXyz (cfg : Config F) (chLaserNumber : Int) (st : PointStore F)
    (cld : PPointCloud F) :
    (fillCloud cfg chLaserNumber st cld).withoutXyz =
      fillCloud cfg chLaserNumber st.withoutXyz cld.withoutXyz := by
  unfold fillCloud
  split
  · -- structured: ring by ring
    induction List.range chLaserNumber.toNat generalizing cld with
    | nil => rfl
    | cons i is ih => rw [List.foldl_cons, ih, foldl_pushBack_withoutXyz, List.foldl_cons]; rfl
  · simp [PPointCloud.withoutXyz, PointStore.withoutXyz]

theorem canEmit_withoutXyz (cfg : Config F) (st : PointStore F) :
    canEmit cfg st.withoutXyz = canEmit cfg st := by
  simp [canEmit, PointStore.withoutXyz]

/-- Clearing the rings below the laser number. -/
theorem clearRings_withoutXyz (is : List Nat) (st : PointStore F) :
    PointStore.withoutXyz
        { st with pointCloudList := fun j => if j ∈ is then [] else st.pointCloudList j } =
      { st.withoutXyz with
        pointCloudList := fun j => if j ∈ is then [] else st.withoutXyz.pointCloudList j } := by
  simp only [PointStore.withoutXyz, apply_ite (List.map PPoint.withoutXyz), List.map_nil]

/-- The states of two instances that differ in the calibration, in the coordinates and in
    the correction packets. -/
structure SameButXyz (s s' : DriverState F) : Prop where
  lastAzimuth : s.lastAzimuth = s'.lastAzimuth
  dPktTimestamp : s.dPktTimestamp = s'.dPktTimestamp
  store : s.store.withoutXyz = s'.store.withoutXyz
  outMsg : s.outMsg.withoutXyz = s'.outMsg.withoutXyz
  scan : s.scan = s'.scan
  published : s.published.map Frame.withoutXyz = s'.published.map Frame.withoutXyz

variable {cfg : Config F} {s s' : DriverState F}

theorem SameButXyz.canEmit_eq (h : SameButXyz s s') :
    canEmit cfg s.store = canEmit cfg s'.store := by
  rw [← canEmit_withoutXyz, h.store, canEmit_withoutXyz]

/-- The frames that go out. -/
theorem SameButXyz.emittedFrame (h : SameButXyz s s') (laserNumber : Int) :
    (emittedFrame cfg laserNumber s).withoutXyz =
      (emittedFrame cfg laserNumber s').withoutXyz := by
  -- both clouds are made of the same points, but for coordinates
  have hcloud : (fillCloud cfg laserNumber s.store s.outMsg).withoutXyz =
      (fillCloud cfg laserNumber s'.store s'.outMsg).withoutXyz := by
    rw [fillCloud_withoutXyz, fillCloud_withoutXyz, h.store, h.outMsg]
  -- the timestamp is the one of the first point
  have hstamp : ∀ cld : PPointCloud F, cld.points.head?.map PPoint.timestamp =
      cld.withoutXyz.points.head?.map PPoint.timestamp := by
    intro cld
    simp [PPointCloud.withoutXyz, Function.comp_def]
  have hraws : ∀ (msgs : List PandarPacketMsg) (calib : Calibration F),
      (msgs ++ [saveCorrectionFile calib laserNumber]).filter (!·.isCorrection) =
        msgs.filter (!·.isCorrection) := by
    intro msgs calib
    simp [isCorrection_saveCorrectionFile]
  simp only [Frame.withoutXyz, Frame.raws, Hesai.emittedFrame, hraws, hcloud, h.scan,
    hstamp (fillCloud cfg laserNumber _ _)]

/-- A frame is cut in both, or in neither. -/
theorem SameButXyz.cutFrame (h : SameButXyz s s') (laserNumber : Int) :
    SameButXyz (Hesai.cutFrame cfg laserNumber s) (Hesai.cutFrame cfg laserNumber s') := by
  have hframe := @h.emittedFrame _ _ cfg _ _ laserNumber
  have hcloud : (Hesai.emittedFrame cfg laserNumber s).cloud.withoutXyz =
      (Hesai.emittedFrame cfg laserNumber s').cloud.withoutXyz := congrArg Frame.cloud hframe
  -- the new frame is one more on both sides
  have hframes : (s.published ++ [Hesai.emittedFrame cfg laserNumber s]).map Frame.withoutXyz =
      (s'.published ++ [Hesai.emittedFrame cfg laserNumber s']).map Frame.withoutXyz := by
    rw [List.map_append, List.map_append, h.published, List.map_singleton, List.map_singleton,
      hframe]
  cases hemit : canEmit cfg s.store with
  | false =>
    have hemit' : canEmit cfg s'.store = false := h.canEmit_eq ▸ hemit
    rwa [cutFrame_of_not_canEmit hemit, cutFrame_of_not_canEmit hemit']
  | true =>
    have hemit' : canEmit cfg s'.store = true := h.canEmit_eq ▸ hemit
    by_cases hmode : cfg.pclType = 0
    · rw [cutFrame_unstructured hmode hemit, cutFrame_unstructured hmode hemit']
      refine ⟨h.lastAzimuth, h.dPktTimestamp, ?_, hcloud, rfl, hframes⟩
      show { s.store.withoutXyz with iPointCloudIndex := 0 } =
        { s'.store.withoutXyz with iPointCloudIndex := 0 }
      rw [h.store]
    · rw [cutFrame_structured hmode hemit, cutFrame_structured hmode hemit']
      refine ⟨h.lastAzimuth, h.dPktTimestamp, ?_, ?_, rfl, hframes⟩
      · rw [clearRings_withoutXyz, clearRings_withoutXyz, h.store]
      · rw [apply_ite PPointCloud.withoutXyz, apply_ite PPointCloud.withoutXyz, hcloud]
        split
        · rfl
        · show { (Hesai.emittedFrame cfg laserNumber s).cloud.withoutXyz with
            points := [], width := 0, height := 1 } = _
          rw [hcloud]
          rfl

/-- A step, whatever the calibrations are. -/
theorem SameButXyz.step (h : SameButXyz s s') (calib calib' : Calibration F)
    (e : InstanceStep F) :
    SameButXyz (instanceStep cfg { s with calibration := calib } e)
      (instanceStep cfg { s' with calibration := calib' } e) := by
  have hsame : SameButXyz { s with calibration := calib } { s' with calibration := calib' } :=
    ⟨h.lastAzimuth, h.dPktTimestamp, h.store, h.outMsg, h.scan, h.published⟩
  cases e with
  | take packet => exact ⟨h.lastAzimuth, rfl, h.store, h.outMsg, h.scan, h.published⟩
  | keep packet =>
    refine ⟨h.lastAzimuth, h.dPktTimestamp, h.store, h.outMsg, ?_, h.published⟩
    simp only [instanceStep, h.scan]
  | emission pkt azimuth =>
    cases hcut : isFrameCut cfg.startAngle s.lastAzimuth azimuth with
    | true =>
      have hcut' : isFrameCut cfg.startAngle s'.lastAzimuth azimuth = true :=
        h.lastAzimuth ▸ hcut
      simp only [instanceStep, hcut, hcut', ↓reduceIte]
      exact hsame.cutFrame pkt.laserNumber
    | false =>
      have hcut' : isFrameCut cfg.startAngle s'.lastAzimuth azimuth = false :=
        h.lastAzimuth ▸ hcut
      simp only [instanceStep, hcut, hcut', Bool.false_eq_true, ↓reduceIte]
      exact hsame
  | block pkt blockid azimuth =>
    refine ⟨rfl, h.dPktTimestamp, ?_, h.outMsg, h.scan, h.published⟩
    simp only [instanceStep, calcPoints_eq, storeAll_withoutXyz, h.store, h.dPktTimestamp]
    rw [blockPoints_withoutXyz cfg calib calib']
  | finish =>
    refine ⟨h.lastAzimuth, h.dPktTimestamp, h.store, ?_, h.scan, h.published⟩
    show { s.outMsg.withoutXyz with frameId := cfg.frameId, height := 1 } =
      { s'.outMsg.withoutXyz with frameId := cfg.frameId, height := 1 }
    rw [h.outMsg]

/-- No step takes a frame back. -/
theorem frames_prefix_instanceStep (cfg : Config F) (s : DriverState F) (e : InstanceStep F) :
    s.published <+: (instanceStep cfg s e).published := by
  cases e with
  | emission pkt azimuth =>
    simp only [instanceStep]
    split
    · cases hemit : canEmit cfg s.store with
      | true =>
        rw [(cutFrame_published hemit).1]
        exact List.prefix_append _ _
      | false =>
        have hsame : cutFrame cfg pkt.laserNumber s = s := cutFrame_of_not_canEmit hemit
        simp only [hsame, List.prefix_rfl]
    · exact List.prefix_rfl
  | take | keep | block | finish => exact List.prefix_rfl

end Hesai
