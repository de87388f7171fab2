import Go2Sensors.Native.Instances
import Go2Sensors.Native.Launch
import Go2Sensors.Spec.Definedness
import Go2Sensors.Spec.Accumulation

/-!
# Points of other objects and of earlier runs

The points are static variables. Another object that has points pending finds its points in
the frames of this one and the other way round, and a frame that was pending when the
thread was stopped goes out with the first frame after the next `Start`. Neither happens as
long as nothing is pending when the variables go over from one object to another
(`pointHandover`), and when the thread is started.

## Key results

- `foldl_turnSteps`: the steps are those of the processing thread
- `instances_and_restarts_isolated`: when no points leak
- `points_leak`: two lidars share their points, and a restart keeps them
-/

namespace Hesai

open Run Sharing

variable {F : Type}

/-! ## The same points -/

/-- Two states of the static variables are the same in the mode of an object. Structured
    mode does not look at the cells. -/
structure PointStore.Same (pclType : Int) (st st' : PointStore F) : Prop where
  index : st.iPointCloudIndex = st'.iPointCloudIndex
  rings : st.pointCloudList = st'.pointCloudList
  cells : pclType = 0 → ∀ i < st.iPointCloudIndex, st.pointCloud i = st'.pointCloud i

/-- Nothing is pending. -/
def PointStore.IsIdle (st : PointStore F) : Prop :=
  st.iPointCloudIndex = 0 ∧ ∀ i, st.pointCloudList i = []

/-- The cells of the same points. -/
theorem PointStore.Same.pending {pclType : Int} {st st' : PointStore F}
    (h : st.Same pclType st') (hmode : pclType = 0) : st.pending = st'.pending := by
  unfold PointStore.pending
  rw [← h.index]
  apply List.map_congr_left
  intro i hi
  exact h.cells hmode i (List.mem_range.mp hi)

/-- Writing a point to the next cell, if there is one. -/
theorem PointStore.Same.write {st st' : PointStore F} (h : st.Same 0 st') (p : PPoint F)
    (hroom : st.iPointCloudIndex < maxPointCloudNum) :
    (st.write p).advance.Same 0 (st'.write p).advance := by
  refine ⟨congrArg (· + 1) h.index, h.rings, fun _ i hi => ?_⟩
  have hlt : i < st.iPointCloudIndex + 1 := hi
  show (st.write p).pointCloud i = (st'.write p).pointCloud i
  unfold PointStore.write
  rw [← h.index]
  simp only [if_pos hroom]
  -- the cell that is written, or one before it
  by_cases hnew : i = st.iPointCloudIndex
  · rw [hnew, Function.update_self, Function.update_self]
  · rw [Function.update_of_ne hnew, Function.update_of_ne hnew]
    exact h.cells rfl i (by omega)

/-- The same points are stored in the same way, as far as there are cells. -/
theorem PointStore.Same.storeAll {pclType : Int} {st st' : PointStore F}
    (h : st.Same pclType st') (isQT : Bool) (points : List (PPoint F))
    (hroom : pclType = 0 → st.iPointCloudIndex + points.length ≤ maxPointCloudNum) :
    (Hesai.storeAll pclType isQT points st).Same pclType
      (Hesai.storeAll pclType isQT points st') := by
  by_cases hmode : pclType = 0
  · subst hmode
    induction points generalizing st st' with
    | nil => exact h
    | cons p points ih =>
      -- there is a cell for this point, and for the others
      have hcells := hroom rfl
      rw [List.length_cons] at hcells
      have hnext : (st.write p).advance.iPointCloudIndex = st.iPointCloudIndex + 1 := rfl
      rw [storeAll_unstructured_cons, storeAll_unstructured_cons]
      exact ih (h.write p (by omega)) fun _ => by rw [hnext]; omega
  · refine ⟨?_, ?_, fun h0 => absurd h0 hmode⟩
    · -- the QT branch moves the index in this mode, too
      rw [storeAll_index_structured hmode, storeAll_index_structured hmode, h.index]
    · funext j
      rw [storeAll_ring hmode, storeAll_ring hmode, h.rings]

/-- The same points make the same cloud. -/
theorem fillCloud_same {cfg : Config F} {st st' : PointStore F} (h : st.Same cfg.pclType st')
    (laserNumber : Int) (cld : PPointCloud F) :
    fillCloud cfg laserNumber st cld = fillCloud cfg laserNumber st' cld := by
  unfold fillCloud
  by_cases hmode : cfg.pclType = 0
  · have hpending : (List.range st.iPointCloudIndex).map st.pointCloud =
        (List.range st'.iPointCloudIndex).map st'.pointCloud := h.pending hmode
    simp only [hmode, ne_eq, not_true_eq_false, ↓reduceIte, hpending]
  · simp only [ne_eq, hmode, not_false_eq_true, ↓reduceIte, h.rings]

variable [CFloat F]

/-! ## A frame with the same points -/

/-- With the same points the same frame goes out, or none. -/
theorem cutFrame_same (cfg : Config F) (laserNumber : Int) (s : DriverState F)
    {st st' : PointStore F} (h : st.Same cfg.pclType st') :
    ∃ (next : DriverState F) (u u' : PointStore F),
      cutFrame cfg laserNumber { s with store := st } = { next with store := u } ∧
      cutFrame cfg laserNumber { s with store := st' } = { next with store := u' } ∧
      u.Same cfg.pclType u' := by
  -- the same index and the same rings
  have hcan : canEmit cfg st = canEmit cfg st' := by
    unfold canEmit
    rw [h.index, h.rings]
  have hframe : emittedFrame cfg laserNumber { s with store := st } =
      emittedFrame cfg laserNumber { s with store := st' } := by
    simp only [emittedFrame, fillCloud_same h]
  by_cases hemit : canEmit cfg st = true
  · have hemit' : canEmit cfg st' = true := hcan ▸ hemit
    have hnext : cutFrame cfg laserNumber { s with store := st' } =
        { cutFrame cfg laserNumber { s with store := st } with
          store := (cutFrame cfg laserNumber { s with store := st' }).store } := by
      by_cases hmode : cfg.pclType = 0
      · rw [cutFrame_unstructured (s := { s with store := st }) hmode hemit,
          cutFrame_unstructured (s := { s with store := st' }) hmode hemit', hframe]
      · rw [cutFrame_structured (s := { s with store := st }) hmode hemit,
          cutFrame_structured (s := { s with store := st' }) hmode hemit', hframe]
    have hsame : (cutFrame cfg laserNumber { s with store := st }).store.Same cfg.pclType
        (cutFrame cfg laserNumber { s with store := st' }).store := by
      by_cases hmode : cfg.pclType = 0
      · -- the cells stay, the index goes back
        rw [cutFrame_store_unstructured (s := { s with store := st }) hmode hemit,
          cutFrame_store_unstructured (s := { s with store := st' }) hmode hemit']
        exact ⟨rfl, h.rings, fun _ i hi => absurd hi (Nat.not_lt_zero i)⟩
      · rw [cutFrame_structured (s := { s with store := st }) hmode hemit,
          cutFrame_structured (s := { s with store := st' }) hmode hemit']
        refine ⟨h.index, ?_, fun h0 => absurd h0 hmode⟩
        simp only [h.rings]
    exact ⟨_, _, _, rfl, hnext, hsame⟩
  · refine ⟨s, st, st', ?_, ?_, h⟩
    · exact cutFrame_of_not_canEmit (by simpa using hemit)
    · exact cutFrame_of_not_canEmit (by simpa [hcan] using hemit)

/-! ## Steps -/

/-- The step uses the points. -/
def UsesPoints (cfg : Config F) (s : DriverState F) : InstanceStep F → Prop
  | .emission _ azimuth => isFrameCut cfg.startAngle s.lastAzimuth azimuth = true ∧
    cfg.pclCallback = true
  | .block pkt blockid _ =>
    (blockPoints cfg s.calibration s.dPktTimestamp blockid pkt).isEmpty = false
  | _ => False

instance (cfg : Config F) (s : DriverState F) :
    (e : InstanceStep F) → Decidable (UsesPoints cfg s e)
  | .emission _ _ => inferInstanceAs (Decidable (_ ∧ _))
  | .block _ _ _ => inferInstanceAs (Decidable (_ = _))
  | .take _ | .keep _ | .finish => inferInstanceAs (Decidable False)

/-- Otherwise the points stay as they are, whatever they are. -/
theorem instanceStep_of_not_usesPoints {cfg : Config F} {s : DriverState F} {e : InstanceStep F}
    (h : ¬ UsesPoints cfg s e) (st : PointStore F) :
    instanceStep cfg { s with store := st } e = { instanceStep cfg s e with store := st } := by
  cases e with
  | emission pkt azimuth =>
    simp only [UsesPoints, not_and, Bool.not_eq_true] at h
    unfold instanceStep
    by_cases hcut : isFrameCut cfg.startAngle s.lastAzimuth azimuth = true
    · -- without a callback no frame goes out
      have hcan : ∀ st : PointStore F, canEmit cfg st = false := by
        intro st
        simp [canEmit, h hcut]
      simp only [hcut, ↓reduceIte, cutFrame_of_not_canEmit (hcan _)]
    · simp only [hcut, Bool.false_eq_true, ↓reduceIte]
  | block pkt blockid azimuth =>
    -- a block without right returns
    have hnone : blockPoints cfg s.calibration s.dPktTimestamp blockid pkt = [] := by
      simpa [UsesPoints] using h
    unfold instanceStep
    simp only [calcPoints_eq, hnone]
    rfl
  | take | keep | finish => rfl

/-- On the same points a step does the same, if it is defined. -/
theorem instanceStep_same (cfg : Config F) (s : DriverState F) {st st' : PointStore F}
    (h : st.Same cfg.pclType st') (e : InstanceStep F)
    (hdefined : StepDefined cfg { s with store := st' } e) :
    ∃ (next : DriverState F) (u u' : PointStore F),
      instanceStep cfg { s with store := st } e = { next with store := u } ∧
      instanceStep cfg { s with store := st' } e = { next with store := u' } ∧
      u.Same cfg.pclType u' := by
  cases e with
  -- a frame is cut on both sides or on neither
  | emission pkt azimuth =>
    unfold instanceStep
    by_cases hcut : isFrameCut cfg.startAngle s.lastAzimuth azimuth = true
    · simp only [hcut, ↓reduceIte]
      exact cutFrame_same cfg pkt.laserNumber s h
    · simp only [hcut, Bool.false_eq_true, ↓reduceIte]
      exact ⟨s, st, st', rfl, rfl, h⟩
  | block pkt blockid azimuth =>
    have hcells := hdefined.index
    simp only [instanceStep, calcPoints_eq] at hcells ⊢
    refine ⟨{ s with lastAzimuth := azimuth }, _, _, rfl, rfl, h.storeAll _ _ fun hmode => ?_⟩
    -- the index after the step counts the points of the block
    rw [maxIndex_unstructured hmode, hmode, storeAll_index] at hcells
    rwa [h.index]
  | take packet => exact ⟨{ s with dPktTimestamp := packet.stamp }, st, st', rfl, rfl, h⟩
  | keep packet => exact ⟨{ s with scan := s.scan ++ [rawPacket packet] }, st, st', rfl, rfl, h⟩
  | finish =>
    exact ⟨{ s with outMsg := { s.outMsg with frameId := cfg.frameId, height := 1 } }, st, st',
      rfl, rfl, h⟩

/-- The points go over from one object to another when nothing is pending. -/
def pointHandover {ι : Type} (cfg : ι → Config F) :
    Handover (staticVariables (F := F)) fun i => instanceStep (cfg i) where
  Same i := PointStore.Same (cfg i).pclType
  Idle := PointStore.IsIdle
  Uses i := UsesPoints (cfg i)
  Defined i := StepDefined (cfg i)
  not_uses i s st e h := instanceStep_of_not_usesPoints h st
  same_act i s st st' e h hdefined := instanceStep_same (cfg i) s h e hdefined
  handover i j st st' u h hidle hidle' := by
    have hindex : st.iPointCloudIndex = 0 := h.index.trans hidle.1
    refine ⟨hindex.trans hidle'.1.symm, ?_, fun _ k hk => ?_⟩
    · rw [h.rings]
      funext k
      rw [hidle.2 k, hidle'.2 k]
    · -- there is no cell to compare
      rw [hindex] at hk
      exact absurd hk (Nat.not_lt_zero k)

/-! ## Objects in one process -/

/-- The steps of the block loop. -/
theorem foldl_loopSteps (cfg : Config F) (pkt : ParsedPacket) (blocks : List LidarBlock)
    (blockid : Nat) (s : DriverState F) :
    (loopSteps F pkt blocks blockid).foldl (instanceStep cfg) s =
      processBlocks cfg pkt blocks blockid s := by
  induction blocks generalizing blockid s with
  | nil => rfl
  | cons block blocks ih => exact ih (blockid + 1) (processBlock cfg pkt blockid block.azimuth s)

/-- The steps of a turn. -/
theorem foldl_turnSteps (cfg : Config F) (s : DriverState F) (packet : PandarPacket F) :
    (turnSteps cfg packet).foldl (instanceStep cfg) s = processLiarPacket cfg s packet := by
  unfold turnSteps processLiarPacket
  cases hparse : parsePacket cfg packet with
  | none => rfl
  | some pkt =>
    simp only [List.foldl_cons, List.foldl_append, List.foldl_nil, List.cons_append,
      foldl_loopSteps]
    rfl

/-- The steps of a sequence of turns are a run of the thread. -/
theorem foldl_flatMap_turnSteps (cfg : Config F) (s : DriverState F)
    (packets : List (PandarPacket F)) :
    (packets.flatMap (turnSteps cfg)).foldl (instanceStep cfg) s = run cfg s packets := by
  induction packets generalizing s with
  | nil => rfl
  | cons packet packets ih =>
    rw [List.flatMap_cons, List.foldl_append, foldl_turnSteps, ih]
    rfl

/-- A process next to its objects when each of them runs alone. -/
def comparedInit {ι : Type} (calib : ι → Calibration F) :
    Compared ι (DriverState F) (PointStore F) :=
  ⟨Process.init calib, fun i => DriverState.init (calib i)⟩

/-- A step of an object in the process and alone. -/
def comparedStep {ι : Type} [DecidableEq ι] (cfg : ι → Config F) :
    Compared ι (DriverState F) (PointStore F) → ι × InstanceStep F →
      Compared ι (DriverState F) (PointStore F) :=
  Compared.step staticVariables fun i => instanceStep (cfg i)

/-- As long as the steps of each object alone are defined, and no object uses the points while
    points of another are pending, each object runs as if it were alone. -/
theorem related_run {ι : Type} [DecidableEq ι] (cfg : ι → Config F) (calib : ι → Calibration F)
    (steps : List (ι × InstanceStep F))
    (h : EachStep (comparedStep cfg) (pointHandover cfg).Safe (comparedInit calib) steps)
    (i : ι) :
    ((steps.foldl (processStep cfg) (Process.init calib)).objects i).published =
      ((stepsOf i steps).foldl (instanceStep (cfg i)) (DriverState.init (calib i))).published := by
  -- at the start no points are pending anywhere
  have hinit : (pointHandover cfg).Related (comparedInit calib) :=
    ⟨fun _ _ => rfl, fun _ _ => ⟨rfl, rfl, fun _ _ _ => rfl⟩⟩
  have hrun := (Handover.sound hinit h).objects i PointStore.init
  rw [Compared.foldl_system, Compared.foldl_alone] at hrun
  have hpublished := congrArg DriverState.published hrun
  exact hpublished

/-! ## Starting again -/

/-- All points that an object holds are among these. -/
structure OnlyFrom (cfg : Config F) (since : List (PPoint F)) (s : DriverState F) : Prop where
  room : cfg.pclType = 0 → s.store.iPointCloudIndex ≤ maxPointCloudNum
  cells : cfg.pclType = 0 → ∀ p ∈ s.store.pending, p ∈ since
  rings : cfg.pclType ≠ 0 → ∀ j, ∀ p ∈ s.store.pointCloudList j, p ∈ since
  cloud : cfg.pclType ≠ 0 → ∀ p ∈ s.outMsg.points, p ∈ since

variable {cfg : Config F} {since : List (PPoint F)} {s : DriverState F}

/-- A frame has points of the object only. -/
theorem OnlyFrom.emittedFrame (h : OnlyFrom cfg since s) (laserNumber : Int) :
    ∀ p ∈ (Hesai.emittedFrame cfg laserNumber s).cloud.points, p ∈ since := by
  intro p hp
  by_cases hmode : cfg.pclType = 0
  · rw [emittedFrame_unstructured cfg _ _ hmode] at hp
    exact h.cells hmode p hp
  · rw [emittedFrame_structured cfg _ _ hmode, foldl_pushBack] at hp
    split at hp
    · exact h.cloud hmode p hp
    · rcases List.mem_append.mp hp with hcloud | hrings
      · exact h.cloud hmode p hcloud
      · obtain ⟨j, -, hring⟩ := List.mem_flatMap.mp hrings
        exact h.rings hmode j p hring

/-- A cut leaves points of the object only. -/
theorem OnlyFrom.afterCut (h : OnlyFrom cfg since s) (laserNumber : Int) (azimuth : Nat) :
    OnlyFrom cfg since (Hesai.afterCut cfg laserNumber s azimuth) := by
  cases hemits : emits cfg s azimuth with
  | false => rwa [afterCut_of_not_emits hemits]
  | true =>
    have hcan := canEmit_of_emits hemits
    rw [afterCut_of_emits hemits]
    by_cases hmode : cfg.pclType = 0
    · rw [cutFrame_unstructured hmode hcan]
      exact ⟨fun _ => Nat.zero_le _, fun _ p hp => absurd hp List.not_mem_nil,
        fun h0 => absurd hmode h0, fun h0 => absurd hmode h0⟩
    · refine ⟨fun h0 => absurd h0 hmode, fun h0 => absurd h0 hmode, fun _ j p hp => ?_,
        fun _ p hp => ?_⟩
      · rw [cutFrame_ring_structured hmode hcan] at hp
        split at hp
        · exact absurd hp List.not_mem_nil
        · exact h.rings hmode j p hp
      · rw [cutFrame_structured hmode hcan] at hp
        dsimp only at hp
        split at hp
        · exact h.emittedFrame laserNumber p hp
        · exact absurd hp List.not_mem_nil

/-- A step adds its own points, and what it emits are points from before. -/
theorem OnlyFrom.step (h : OnlyFrom cfg since s) {e : ThreadStep F} (hcells : HasCells cfg s e) :
    OnlyFrom cfg (since ++ e.points) (Hesai.step cfg s e) ∧
      ∃ frames, (Hesai.step cfg s e).published = s.published ++ frames ∧
        ∀ f ∈ frames, ∀ p ∈ f.cloud.points, p ∈ since := by
  cases e with
  | block laserNumber azimuth isQT points =>
    -- the frame is cut before the points of the block are stored
    have hcut := h.afterCut laserNumber azimuth
    have hrange : cfg.pclType = 0 → (Hesai.step cfg s
        (.block laserNumber azimuth isQT points)).store.iPointCloudIndex ≤ maxPointCloudNum :=
      fun hmode => maxIndex_unstructured hmode ▸ hcells
    refine ⟨?_, _, step_published cfg laserNumber s azimuth isQT points, fun f hf => ?_⟩
    · refine ⟨hrange, fun hmode p hp => ?_, fun hmode j p hp => ?_, fun hmode p hp => ?_⟩
      · have hcells := hrange hmode
        rw [step_block, hmode] at hcells hp
        rw [storeAll_index] at hcells
        rw [pending_storeAll _ _ hcells] at hp
        exact List.mem_append.mpr ((List.mem_append.mp hp).imp (hcut.cells hmode p) id)
      · rw [step_block] at hp
        rw [storeAll_ring hmode] at hp
        refine List.mem_append.mpr ((List.mem_append.mp hp).imp (hcut.rings hmode j p) ?_)
        exact fun hnew => List.mem_of_mem_filter hnew
      · rw [step_block] at hp
        exact List.mem_append_left _ (hcut.cloud hmode p hp)
    · split at hf
      · rw [List.mem_singleton.mp hf]
        exact h.emittedFrame laserNumber
      · exact absurd hf List.not_mem_nil
  | receive | accept | finish =>
    refine ⟨?_, [], (List.append_nil _).symm, fun f hf => absurd hf List.not_mem_nil⟩
    simp only [ThreadStep.points, List.append_nil]
    exact ⟨h.room, h.cells, h.rings, h.cloud⟩

/-- A run adds its own points, and what it emits is among the points up to its end. -/
theorem OnlyFrom.run (h : OnlyFrom cfg since s) {steps : List (ThreadStep F)}
    (hroom : EachStep (Hesai.step cfg) (HasCells cfg) s steps) :
    OnlyFrom cfg (since ++ steps.flatMap ThreadStep.points) (steps.foldl (Hesai.step cfg) s) ∧
      ∃ frames, (steps.foldl (Hesai.step cfg) s).published = s.published ++ frames ∧
        ∀ f ∈ frames, ∀ p ∈ f.cloud.points, p ∈ since ++ steps.flatMap ThreadStep.points := by
  induction steps generalizing since s with
  | nil =>
    rw [List.flatMap_nil, List.append_nil]
    exact ⟨h, [], (List.append_nil _).symm, fun f hf => absurd hf List.not_mem_nil⟩
  | cons e steps ih =>
    -- what the first step emits, and what the others do
    obtain ⟨hstep, frames, hpublished, hframes⟩ := h.step hroom.1
    obtain ⟨hrun, frames', hpublished', hframes'⟩ := ih hstep hroom.2
    rw [List.append_assoc, ← List.flatMap_cons] at hrun hframes'
    refine ⟨hrun, frames ++ frames', ?_, fun f hf => ?_⟩
    · rw [List.foldl_cons, hpublished', hpublished, List.append_assoc]
    · rcases List.mem_append.mp hf with hf | hf
      · exact fun p hp => List.mem_append_left _ (hframes f hf p hp)
      · exact hframes' f hf

/-- A turn adds the points of its packet. -/
theorem OnlyFrom.packet (h : OnlyFrom cfg since s) {packet : PandarPacket F}
    (hroom : EachStep (Hesai.step cfg) (HasCells cfg) s (packetSteps cfg s.calibration packet)) :
    OnlyFrom cfg (since ++ packetPoints cfg s.calibration packet)
        (processLiarPacket cfg s packet) ∧
      ∃ frames, (processLiarPacket cfg s packet).published = s.published ++ frames ∧
        ∀ f ∈ frames, ∀ p ∈ f.cloud.points, p ∈ since ++ packetPoints cfg s.calibration packet := by
  rw [(processLiarPacket_eq cfg s packet).1, ← packetSteps_points]
  exact h.run hroom

/-- Nothing is pending that a frame of the object would take. -/
def NothingPending (cfg : Config F) (st : PointStore F) : Prop :=
  if cfg.pclType = 0 then st.iPointCloudIndex = 0 else ∀ j, st.pointCloudList j = []

/-- The condition on a call or a turn: nothing is pending when the thread is started, and a
    packet can be processed and leaves the index in range at every step. -/
def LifecycleOk (cfg : Config F) (s : Lifecycle F) : LifecycleOp F → Prop
  | .start => NothingPending cfg s.driver.store
  | .stop => True
  | .turn packet => s.running = true → PacketDefined cfg s.driver.calibration packet ∧
    EachStep (step cfg) (HasCells cfg) s.driver (packetSteps cfg s.driver.calibration packet)

/-- A turn with a thread. -/
theorem lifecycleStep_turn {s : Lifecycle F} (hrunning : s.running = true)
    (packet : PandarPacket F) :
    lifecycleStep cfg s (.turn packet) =
      { s with driver := processLiarPacket cfg s.driver packet } := by
  simp only [lifecycleStep, hrunning, ↓reduceIte]

/-- A turn without a thread. -/
theorem lifecycleStep_turn_stopped {s : Lifecycle F} (hstopped : s.running = false)
    (packet : PandarPacket F) : lifecycleStep cfg s (.turn packet) = s := by
  simp only [lifecycleStep, hstopped, Bool.false_eq_true, ↓reduceIte]

/-- No call and no turn changes the calibration. -/
theorem lifecycleStep_calibration (cfg : Config F) (s : Lifecycle F) (op : LifecycleOp F) :
    (lifecycleStep cfg s op).driver.calibration = s.driver.calibration := by
  cases op with
  | start | stop => rfl
  | turn packet =>
    cases hrunning : s.running with
    | true =>
      rw [lifecycleStep_turn hrunning]
      exact (processLiarPacket_eq cfg s.driver packet).2
    | false => rw [lifecycleStep_turn_stopped hrunning]

/-- From a state with points of some packets on, only their points and those of the turns
    are emitted. -/
theorem OnlyFrom.lifecycle {s : Lifecycle F} (h : OnlyFrom cfg since s.driver)
    {ops : List (LifecycleOp F)}
    (hops : EachStep (lifecycleStep cfg) (LifecycleOk cfg) s ops) :
    ∃ frames, (ops.foldl (lifecycleStep cfg) s).driver.published = s.driver.published ++ frames ∧
      ∀ f ∈ frames, ∀ p ∈ f.cloud.points, p ∈ since ++
        (turnPackets s.running ops).flatMap (packetPoints cfg s.driver.calibration) := by
  induction ops generalizing since s with
  | nil => exact ⟨[], (List.append_nil _).symm, fun f hf => absurd hf List.not_mem_nil⟩
  | cons op ops ih =>
    cases op with
    | start =>
      -- the new cloud is empty
      have hstart : OnlyFrom cfg since (lifecycleStep cfg s .start).driver :=
        ⟨h.room, h.cells, h.rings, fun _ p hp => absurd hp List.not_mem_nil⟩
      exact ih hstart hops.2
    | stop => exact ih (s := lifecycleStep cfg s .stop) h hops.2
    | turn packet =>
      have hrest := hops.2
      rw [List.foldl_cons]
      cases hrunning : s.running with
      | true =>
        obtain ⟨hturn, frames, hpublished, hframes⟩ := h.packet (hops.1 hrunning).2
        rw [lifecycleStep_turn hrunning] at hrest ⊢
        obtain ⟨frames', hpublished', hframes'⟩ :=
          ih (s := { s with driver := processLiarPacket cfg s.driver packet }) hturn hrest
        have hcalib := (processLiarPacket_eq cfg s.driver packet).2
        simp only [hcalib, hrunning, List.append_assoc] at hframes'
        simp only [turnPackets, ↓reduceIte, List.flatMap_cons]
        refine ⟨frames ++ frames', ?_, fun f hf p hp => ?_⟩
        · rw [hpublished', hpublished, List.append_assoc]
        · rcases List.mem_append.mp hf with hf | hf
          · rw [← List.append_assoc]
            exact List.mem_append_left _ (hframes f hf p hp)
          · exact hframes' f hf p hp
      | false =>
        rw [lifecycleStep_turn_stopped hrunning] at hrest ⊢
        simpa only [turnPackets, hrunning, Bool.false_eq_true, ↓reduceIte] using ih h hrest

/-- A thread that is started with nothing pending emits points of its own turns only. -/
theorem published_after_start {calib : Calibration F} {pre post : List (LifecycleOp F)}
    (h : EachStep (lifecycleStep cfg) (LifecycleOk cfg) (Lifecycle.init calib)
      (pre ++ .start :: post)) :
    ∃ frames,
      ((pre ++ .start :: post).foldl (lifecycleStep cfg) (Lifecycle.init calib)).driver.published =
        (pre.foldl (lifecycleStep cfg) (Lifecycle.init calib)).driver.published ++ frames ∧
      ∀ f ∈ frames, ∀ p ∈ f.cloud.points,
        p ∈ (turnPackets true post).flatMap (packetPoints cfg calib) := by
  obtain ⟨-, hstart, hpost⟩ := (eachStep_append pre (.start :: post)).mp h
  have hcalib : (pre.foldl (lifecycleStep cfg) (Lifecycle.init calib)).driver.calibration = calib :=
    inv (P := fun s : Lifecycle F => s.driver.calibration = calib) pre rfl
      fun s op hs => (lifecycleStep_calibration cfg s op).trans hs
  rw [List.foldl_append, List.foldl_cons]
  generalize pre.foldl (lifecycleStep cfg) (Lifecycle.init calib) = s at hstart hpost hcalib ⊢
  have hfrom : OnlyFrom cfg [] (lifecycleStep cfg s .start).driver := by
    have hnothing : NothingPending cfg s.driver.store := hstart
    unfold NothingPending at hnothing
    by_cases hmode : cfg.pclType = 0
    · rw [if_pos hmode] at hnothing
      have hindex : (lifecycleStep cfg s .start).driver.store.iPointCloudIndex = 0 := hnothing
      refine ⟨fun _ => by omega, fun _ p hp => ?_, fun h0 => absurd hmode h0,
        fun h0 => absurd hmode h0⟩
      rw [PointStore.pending, hindex] at hp
      exact absurd hp List.not_mem_nil
    · rw [if_neg hmode] at hnothing
      refine ⟨fun h0 => absurd h0 hmode, fun h0 => absurd h0 hmode, fun _ j p hp => ?_,
        fun _ p hp => absurd hp List.not_mem_nil⟩
      have hring : s.driver.store.pointCloudList j = [] := hnothing j
      rw [show (lifecycleStep cfg s .start).driver.store.pointCloudList j = [] from hring] at hp
      exact absurd hp List.not_mem_nil
  obtain ⟨frames, hpublished, hframes⟩ := hfrom.lifecycle hpost
  rw [lifecycleStep_calibration, hcalib] at hframes
  exact ⟨frames, hpublished, hframes⟩

/-- Nothing is pending at program start. -/
theorem isIdle_init : (PointStore.init : PointStore F).IsIdle := ⟨rfl, fun _ => rfl⟩

/-- It is enough that a single object uses the points. -/
theorem othersIdle_of_single {ι : Type} [DecidableEq ι] {cfg : ι → Config F} (i : ι)
    {c : Compared ι (DriverState F) (PointStore F)} {steps : List (ι × InstanceStep F)}
    (hidle : ∀ j, j ≠ i → (c.alone j).store.IsIdle)
    (h : EachStep (comparedStep cfg)
      (fun c e => e.1 ≠ i → ¬ UsesPoints (cfg e.1) (c.alone e.1) e.2) c steps) :
    EachStep (comparedStep cfg) (pointHandover cfg).OthersIdle c steps := by
  induction steps generalizing c with
  | nil => trivial
  | cons e steps ih =>
    obtain ⟨hfirst, hrest⟩ := h
    refine ⟨fun huses j hj => ?_, ih (fun j hj => ?_) hrest⟩
    · by_cases he : e.1 = i
      · exact hidle j (he ▸ hj)
      · exact absurd huses (hfirst he)
    · by_cases he : e.1 = j
      · -- the step of another object leaves its points as they are
        have hkeep := congrArg DriverState.store
          (instanceStep_of_not_usesPoints (hfirst (he ▸ hj)) (c.alone e.1).store)
        have hstore : ((comparedStep cfg c e).alone j).store = (c.alone j).store := by
          subst he
          simp only [comparedStep, Compared.step, Function.update_self]
          exact hkeep
        rw [hstore]
        exact hidle j hj
      · simpa [comparedStep, Compared.step, Ne.symm he] using hidle j hj

/-- A packet in which a frame ends after the first block. -/
def cutPacket : PandarPacket Rat :=
  xt16Packet (fun block => if block = 0 then 500 else 100) fun _ => 1000

/-- Two lidars that take turns, the second of which has no returns. -/
def takeTurns : List (Bool × InstanceStep Rat) :=
  ((turnSteps launchConfig cutPacket).zip
    (turnSteps launchConfig (xt16Packet (fun _ => 0) fun _ => 0))).flatMap
      fun (left, right) => [(true, left), (false, right)]

/-- Two turns in each of which a frame ends. -/
def twoTurns : List (LifecycleOp Rat) := [.turn cutPacket, .turn cutPacket]

/-- Two lidars of which one takes a packet after the other. -/
def oneAfterTheOther : List (Bool × InstanceStep Rat) :=
  (turnSteps launchConfig (xt16Packet (fun block => 100 * block) fun _ => 1000)).map (true, ·) ++
    (turnSteps launchConfig cutPacket).map (false, ·)

end Hesai
