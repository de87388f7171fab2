import Go2Sensors.ForStd.Grouping
import Go2Sensors.Native.Launch
import Go2Sensors.Spec.PointCloudBounds

/-!
# Structured mode against unstructured mode

The thread in structured mode keeps each ring on its own. As long as both modes have
emitted the same frames, its rings are the pending points of the frame builder by ring
(`Grouped`). The test before an emission looks at the index and at ring `0` only: it
misses frames without a point in ring `0`, and in the QT branch, whose index is never
reset, it lets frames without any point through (`ModesCondition`).

## Key results

- `modes_agree_iff`: when the two modes emit the same frames
- `ring_zero_missing`: a frame that structured mode does not emit
-/

namespace Hesai

open Run Grouping

variable {F : Type}

/-- The same parameters in structured mode. -/
def Config.structured (cfg : Config F) : Config F := { cfg with pclType := 1 }

/-- The emission test of a structured step lets a frame out exactly when there is one. -/
def ModesCondition (cfg : Config F) (isQT : Bool) (m : Framing F) (e : ThreadStep F) : Prop :=
  match e with
  | .block _ azimuth _ _ =>
    (cfg.pclCallback && isFrameCut cfg.startAngle m.lastAzimuth azimuth) = true →
      if isQT then m.points.pending ≠ [] ∨ m.points.flatten = []
      else m.points.pending = [] ∨ ∃ p ∈ m.points.pending, p.ring = 0
  | _ => True

/-- A step of a sequence of packets with one laser number and one branch. -/
def ThreadStep.OfKind (n : Int) (isQT : Bool) (e : ThreadStep F) : Prop :=
  match e with
  | .block laserNumber _ isQT' points =>
    laserNumber = n ∧ isQT' = isQT ∧ ∀ p ∈ points, p.ring < n.toNat
  | _ => True

/-- The rings hold the pending points of the frame builder, and the emitted frames are
    those of the frame builder, grouped by ring. -/
structure Grouped (n : Int) (isQT : Bool) (s : DriverState F) (m : Framing F) : Prop where
  lastAzimuth : s.lastAzimuth = m.lastAzimuth
  ring : ∀ j, s.store.pointCloudList j = m.points.pending.filter (·.ring = j)
  index : s.store.iPointCloudIndex = if isQT then m.points.flatten.length else 0
  cloud : s.outMsg.points = []
  below : ∀ p ∈ m.points.pending, p.ring < n.toNat
  frames : List.Forall₂ (IsStableGrouping PPoint.ring) m.points.closed
    (s.published.map (·.cloud.points))

variable {cfg : Config F} {n : Int} {isQT : Bool} {s : DriverState F} {m : Framing F}

/-- The emission test in structured mode. -/
theorem Grouped.canEmit_iff (h : Grouped n isQT s m) :
    canEmit cfg s.store = true ↔ cfg.pclCallback = true ∧
      if isQT then m.points.flatten ≠ [] else ∃ p ∈ m.points.pending, p.ring = 0 := by
  have hring : 0 < (m.points.pending.filter (·.ring = 0)).length ↔
      ∃ p ∈ m.points.pending, p.ring = 0 := by
    simp [List.length_pos_iff, List.filter_eq_nil_iff]
  unfold canEmit
  rw [h.index, h.ring]
  simp only [Bool.and_eq_true, Bool.or_eq_true, decide_eq_true_eq, gt_iff_lt, hring]
  apply and_congr_right
  intro _
  cases isQT with
  | true =>
    -- a pending point of ring `0` is one of all points
    simp only [↓reduceIte, List.length_pos_iff]
    refine ⟨fun hor => ?_, Or.inl⟩
    rcases hor with hsome | ⟨p, hp, -⟩
    · exact hsome
    · exact List.ne_nil_of_mem (List.mem_append_right _ hp)
  | false => simp

/-- Where `p` implies `q`, the two are equivalent exactly if `q` fails or `p` holds. -/
private theorem iff_iff_of_imp {p q : Prop} (himp : p → q) : (p ↔ q) ↔ ¬q ∨ p := by
  by_cases hq : q
  · simp [hq]
  · simp [hq, mt himp hq]

/-- The two modes emit at the same blocks exactly under the condition. -/
theorem emits_structured_eq_iff {s₀ s₁ : DriverState F} (h₀ : Coupled s₀ m)
    (h₁ : Grouped n isQT s₁ m) (laserNumber : Int) (azimuth : Nat) (isQT' : Bool)
    (points : List (PPoint F)) :
    emits cfg.structured s₁ azimuth = emits cfg s₀ azimuth ↔
      ModesCondition cfg isQT m (.block laserNumber azimuth isQT' points) := by
  have hcan₀ : canEmit cfg s₀.store = true ↔ _ := h₀.canEmit_iff
  have hcan₁ : canEmit cfg.structured s₁.store = true ↔ _ := h₁.canEmit_iff
  -- both guards need a point: of the QT guard any point ever stored, of the other one
  -- a pending point of ring `0`
  have hsome : m.points.pending ≠ [] → m.points.flatten ≠ [] :=
    fun hpending hnone => hpending (List.append_eq_nil_iff.mp hnone).2
  have hring : (∃ p ∈ m.points.pending, p.ring = 0) → m.points.pending ≠ [] :=
    fun ⟨_, hp, _⟩ => List.ne_nil_of_mem hp
  rw [Bool.eq_iff_iff, emits, emits, Bool.and_eq_true, Bool.and_eq_true, hcan₀, hcan₁,
    h₀.lastAzimuth, h₁.lastAzimuth]
  simp only [ModesCondition, Config.structured, Bool.and_eq_true]
  by_cases hcut : isFrameCut cfg.startAngle m.lastAzimuth azimuth = true
  · by_cases hset : cfg.pclCallback = true
    · -- a cut with a callback: the guards of the two modes are compared
      cases isQT with
      | true =>
        simp only [hcut, hset, true_and, ↓reduceIte, forall_const, and_self]
        rw [@iff_comm (m.points.flatten ≠ []), iff_iff_of_imp hsome, not_not, or_comm]
      | false =>
        simp only [hcut, hset, true_and, Bool.false_eq_true, ↓reduceIte, forall_const, and_self]
        rw [iff_iff_of_imp hring, not_not]
    · -- without a callback neither mode emits
      simp [hset]
  · simp [hcut]

/-- The points of a structured frame are the pending points by ring. -/
theorem Grouped.rings_eq (h : Grouped n isQT s m) :
    s.store.rings n = byKey PPoint.ring n.toNat m.points.pending := by
  have hring : s.store.pointCloudList = fun j => m.points.pending.filter (·.ring = j) :=
    funext h.ring
  rw [PointStore.rings, hring, byKey]

variable [CFloat F]

/-- After the cut the rings hold what is pending. -/
theorem Grouped.afterCut_ring (hmode : cfg.pclType ≠ 0) (h : Grouped n isQT s m)
    (azimuth j : Nat) :
    (afterCut cfg n s azimuth).store.pointCloudList j =
      (m.afterEmit (emits cfg s azimuth)).pending.filter (·.ring = j) := by
  cases hemits : emits cfg s azimuth with
  | true =>
    rw [afterCut_of_emits hemits, cutFrame_ring_structured hmode (canEmit_of_emits hemits)]
    split
    · rfl
    · rename_i hj
      -- no point is pending in a ring above the laser number
      rw [h.ring, List.filter_eq_nil_iff.mpr]
      · rfl
      · intro p hp
        have := h.below p hp
        simp only [decide_eq_true_eq]
        omega
  | false =>
    rw [afterCut_of_not_emits hemits, h.ring]
    rfl

/-- The index does not notice the cut. -/
theorem Grouped.afterCut_index (hmode : cfg.pclType ≠ 0) (h : Grouped n isQT s m)
    (azimuth : Nat) :
    (afterCut cfg n s azimuth).store.iPointCloudIndex =
      if isQT then (m.afterEmit (emits cfg s azimuth)).flatten.length else 0 := by
  -- the index counts all points ever stored, and closing a frame loses none
  have hflatten : (m.afterEmit (emits cfg s azimuth)).flatten = m.points.flatten := by
    unfold Framing.afterEmit
    split
    · simp [Chunks.flatten]
    · rfl
  rw [hflatten, ← h.index]
  cases hemits : emits cfg s azimuth with
  | true => rw [afterCut_of_emits hemits, cutFrame_index_structured hmode]
  | false => rw [afterCut_of_not_emits hemits]

/-- The cloud is empty after the cut. -/
theorem Grouped.afterCut_cloud (hmode : cfg.pclType ≠ 0) (h : Grouped n isQT s m)
    (azimuth : Nat) : (afterCut cfg n s azimuth).outMsg.points = [] := by
  cases hemits : emits cfg s azimuth with
  | true => rw [afterCut_of_emits hemits, cutFrame_points_structured hmode h.cloud]
  | false => rw [afterCut_of_not_emits hemits, h.cloud]

/-- The frames after the cut. -/
theorem Grouped.afterCut_frames (hmode : cfg.pclType ≠ 0) (h : Grouped n isQT s m)
    (azimuth : Nat) :
    List.Forall₂ (IsStableGrouping PPoint.ring) (m.afterEmit (emits cfg s azimuth)).closed
      ((s.published ++ if emits cfg s azimuth then [emittedFrame cfg n s] else []).map
        (·.cloud.points)) := by
  cases hemits : emits cfg s azimuth with
  | true =>
    -- the rings, one after the other, are the pending points by key
    have hpoints : (emittedFrame cfg n s).cloud.points =
        byKey PPoint.ring n.toNat m.points.pending := by
      rw [emittedFrame_structured cfg n s hmode, foldl_pushBack, ← h.rings_eq]
      split
      · rename_i hnone
        rw [hnone, h.cloud]
      · rw [h.cloud, List.nil_append]
    rw [if_pos rfl, List.map_append, List.map_singleton, hpoints]
    apply List.rel_append h.frames
    exact List.Forall₂.cons (isStableGrouping_byKey h.below) List.Forall₂.nil
  | false => simpa [Framing.afterEmit] using h.frames

/-- A step at which the frame builder closes a frame exactly when the thread emits one
    keeps the grouping. -/
theorem Grouped.step {cfg₀ : Config F} (hmode : cfg.pclType ≠ 0) (h : Grouped n isQT s m)
    {e : ThreadStep F} (hkind : e.OfKind n isQT)
    (hcut : ∀ laserNumber azimuth isQT' points, e = .block laserNumber azimuth isQT' points →
      m.cut cfg₀ azimuth = m.afterEmit (emits cfg s azimuth)) :
    Grouped n isQT (Hesai.step cfg s e) (m.step cfg₀ e) := by
  cases e with
  | block laserNumber azimuth isQT' points =>
    obtain ⟨rfl, rfl, hbelow⟩ := hkind
    have hpublished := step_published cfg laserNumber s azimuth isQT' points
    have hring := h.afterCut_ring hmode azimuth
    have hindex := h.afterCut_index hmode azimuth
    have hcloud := h.afterCut_cloud hmode azimuth
    have hframes := h.afterCut_frames hmode azimuth
    rw [Framing.step, hcut _ _ _ _ rfl]
    refine ⟨?_, ?_, ?_, ?_, ?_, ?_⟩
    · rw [step_block]
    · intro j
      rw [step_block]
      simp only [storeAll_ring hmode, hring, Chunks.push, List.filter_append]
    · rw [step_block]
      simp only [storeAll_index_structured hmode, hindex, Chunks.flatten_push,
        List.length_append]
      split <;> rfl
    · rw [step_block]
      exact hcloud
    · intro p hp
      rcases List.mem_append.mp hp with hold | hnew
      · unfold Framing.afterEmit at hold
        split at hold
        · exact absurd hold List.not_mem_nil
        · exact h.below p hold
      · exact hbelow p hnew
    · rw [hpublished]
      exact hframes
  | receive | accept | finish =>
    exact ⟨h.lastAzimuth, h.ring, h.index, h.cloud, h.below, h.frames⟩

/-! ## Both modes side by side -/

/-- The same step in both modes. -/
def stepBoth (cfg : Config F) (s : DriverState F × DriverState F) (e : ThreadStep F) :
    DriverState F × DriverState F :=
  (step cfg s.1 e, step cfg.structured s.2 e)

/-- After the step both modes have emitted the same number of frames, and each structured
    frame is the stable grouping by ring of its counterpart. -/
def ModesAgree (cfg : Config F) (s : DriverState F × DriverState F) (e : ThreadStep F) : Prop :=
  List.Forall₂ (IsStableGrouping PPoint.ring)
    ((stepBoth cfg s e).1.published.map (·.cloud.points))
    ((stepBoth cfg s e).2.published.map (·.cloud.points))

/-- The modes agree after a step exactly if the step meets the condition. -/
theorem modesAgree_iff {s₀ s₁ : DriverState F} (hmode : cfg.pclType = 0)
    (h₀ : Represents s₀ m) (h₁ : Grouped n isQT s₁ m) {e : ThreadStep F}
    (hkind : e.OfKind n isQT) (hroom : HasRoom cfg m e) :
    (ModesAgree cfg (s₀, s₁) e ↔ ModesCondition cfg isQT m e) ∧
      (ModesCondition cfg isQT m e →
        Grouped n isQT (step cfg.structured s₁ e) (m.step cfg e)) := by
  have hstep₀ := h₀.step hmode e hroom
  have hstructured : cfg.structured.pclType ≠ 0 := Int.one_ne_zero
  -- under the condition both emit, or neither, and the grouping is kept
  have hkeep : ModesCondition cfg isQT m e →
      Grouped n isQT (step cfg.structured s₁ e) (m.step cfg e) := by
    intro hcond
    apply h₁.step hstructured hkind
    rintro laserNumber azimuth isQT' points rfl
    rw [h₀.toCoupled.cut_eq, (emits_structured_eq_iff h₀.toCoupled h₁ laserNumber azimuth
      isQT' points).mpr hcond]
  refine ⟨⟨fun hagree => ?_, fun hcond => ?_⟩, hkeep⟩
  · cases e with
    | block laserNumber azimuth isQT' points =>
      rw [← emits_structured_eq_iff h₀.toCoupled h₁ laserNumber azimuth isQT' points]
      -- the numbers of frames agree before and after the step
      have hbefore := h₁.frames.length_eq
      have hafter := hagree.length_eq
      rw [← h₀.frames] at hbefore
      simp only [stepBoth, step_published, List.length_map, List.length_append] at hbefore hafter
      cases hemits₀ : emits cfg s₀ azimuth <;>
        cases hemits₁ : emits cfg.structured s₁ azimuth <;> simp_all
    | receive | accept | finish => trivial
  · have hframes := (hkeep hcond).frames
    rw [← hstep₀.frames] at hframes
    exact hframes

/-- The modes agree at every step of a run exactly if every step meets the condition. -/
theorem modesAgree_run_iff {s₀ s₁ : DriverState F} (hmode : cfg.pclType = 0)
    (h₀ : Represents s₀ m) (h₁ : Grouped n isQT s₁ m) {steps : List (ThreadStep F)}
    (hkind : ∀ e ∈ steps, e.OfKind n isQT)
    (hroom : EachStep (Framing.step cfg) (HasRoom cfg) m steps) :
    EachStep (stepBoth cfg) (ModesAgree cfg) (s₀, s₁) steps ↔
      EachStep (Framing.step cfg) (ModesCondition cfg isQT) m steps := by
  induction steps generalizing s₀ s₁ m with
  | nil => exact Iff.rfl
  | cons e steps ih =>
    obtain ⟨hfirst, hkeep⟩ := modesAgree_iff hmode h₀ h₁ (hkind e List.mem_cons_self) hroom.1
    simp only [EachStep]
    rw [hfirst]
    apply and_congr_right
    intro hcond
    exact ih (h₀.step hmode e hroom.1) (hkeep hcond)
      (fun e' he' => hkind e' (List.mem_cons_of_mem e he')) hroom.2

/-- The accepted packets have one laser number and belong to one branch. -/
def SameKind (cfg : Config F) (packets : List (PandarPacket F)) (n : Int) (isQT : Bool) : Prop :=
  ∀ packet ∈ packets, ∀ pkt, parsePacket cfg packet = some pkt →
    pkt.laserNumber = n ∧ pkt.isQT = isQT

omit [CFloat F] in
/-- Only lasers below the laser number give points. -/
theorem ring_lt_of_mem_unitPoints {laserNumber : Int} {block : LidarBlock}
    {point : Nat → LidarUnit → PPoint F} (hring : ∀ i unit, (point i unit).ring = i)
    {p : PPoint F} (hp : p ∈ unitPoints laserNumber block point) : p.ring < laserNumber.toNat := by
  obtain ⟨i, hi, -, rfl⟩ := mem_unitPoints.mp hp
  rw [hring]
  exact hi

theorem ring_lt_of_mem_blockPoints {calib : Calibration F} {stamp : F} {blockid : Nat}
    {pkt : ParsedPacket} {p : PPoint F} (hp : p ∈ blockPoints cfg calib stamp blockid pkt) :
    p.ring < pkt.laserNumber.toNat := by
  cases pkt <;> exact ring_lt_of_mem_unitPoints (fun _ _ => rfl) hp

theorem packetsSteps_ofKind (calib : Calibration F) {packets : List (PandarPacket F)}
    (hkind : SameKind cfg packets n isQT) :
    ∀ e ∈ packetsSteps cfg calib packets, e.OfKind n isQT := by
  intro e he
  cases e with
  | block laserNumber azimuth isQT' points =>
    obtain ⟨packet, hpacket, pkt, hparse, block, -, blockid, rfl, -, rfl, rfl⟩ :=
      block_mem_packetsSteps he
    obtain ⟨rfl, rfl⟩ := hkind packet hpacket pkt hparse
    exact ⟨rfl, rfl, fun p hp => ring_lt_of_mem_blockPoints hp⟩
  | receive | accept | finish => trivial

theorem grouped_init (calib : Calibration F) (n : Int) (isQT : Bool) :
    Grouped n isQT (DriverState.init calib) (Framing.init : Framing F) where
  lastAzimuth := rfl
  ring _ := rfl
  index := by cases isQT <;> rfl
  cloud := rfl
  below _ hp := absurd hp List.not_mem_nil
  frames := List.Forall₂.nil

/-- The block steps do not depend on the mode. -/
theorem blockSteps_structured (cfg : Config F) (calib : Calibration F) (stamp : F)
    (pkt : ParsedPacket) (blocks : List LidarBlock) (blockid : Nat) :
    blockSteps cfg.structured calib stamp pkt blocks blockid =
      blockSteps cfg calib stamp pkt blocks blockid := by
  induction blocks generalizing blockid with
  | nil => rfl
  | cons block blocks ih =>
    have hpoints : blockPoints cfg.structured calib stamp blockid pkt =
        blockPoints cfg calib stamp blockid pkt := by
      cases pkt <;> rfl
    rw [blockSteps, blockSteps, ih, hpoints]

/-- Nor do the steps of a sequence of packets. -/
theorem packetsSteps_structured (cfg : Config F) (calib : Calibration F)
    (packets : List (PandarPacket F)) :
    packetsSteps cfg.structured calib packets = packetsSteps cfg calib packets := by
  unfold packetsSteps
  congr 1
  funext packet
  have hparse : parsePacket cfg.structured packet = parsePacket cfg packet := rfl
  unfold packetSteps
  rw [hparse]
  cases parsePacket cfg packet with
  | none => rfl
  | some pkt => simp only [blockSteps_structured]

/-- Both modes side by side are the two runs. -/
theorem foldl_stepBoth (cfg : Config F) (calib : Calibration F)
    (packets : List (PandarPacket F)) :
    (packetsSteps cfg calib packets).foldl (stepBoth cfg)
        (DriverState.init calib, DriverState.init calib) =
      (run cfg (DriverState.init calib) packets,
        run cfg.structured (DriverState.init calib) packets) := by
  rw [run_init_eq_steps, run_init_eq_steps, packetsSteps_structured]
  generalize packetsSteps cfg calib packets = steps
  generalize DriverState.init calib = s₀
  -- the second component gets a start state of its own
  suffices h : ∀ s₁, steps.foldl (stepBoth cfg) (s₀, s₁) =
      (steps.foldl (step cfg) s₀, steps.foldl (step cfg.structured) s₁) from h s₀
  induction steps generalizing s₀ with
  | nil => exact fun _ => rfl
  | cons e steps ih => exact fun s₁ => ih (step cfg s₀ e) (step cfg.structured s₁ e)

/-! ## Both runs are defined -/

/-- After the step there is a cell for each pending point, and in the QT branch, whose index
    counts all points ever stored in structured mode, their number is an `int`. -/
structure HasRoomInBoth (cfg : Config F) (isQT : Bool) (m : Framing F) (e : ThreadStep F) :
    Prop where
  pending : HasRoom cfg m e
  total : isQT = true → (m.step cfg e).points.flatten.length < 2 ^ 31

/-- In structured mode the index counts the points of the QT branch, whatever was emitted. -/
theorem foldl_index_structured (hmode : cfg.pclType ≠ 0) {steps : List (ThreadStep F)}
    (hkind : ∀ e ∈ steps, e.OfKind n isQT) (s : DriverState F) :
    (steps.foldl (step cfg) s).store.iPointCloudIndex =
      s.store.iPointCloudIndex +
        if isQT then (steps.flatMap ThreadStep.points).length else 0 := by
  induction steps generalizing s with
  | nil => cases isQT <;> rfl
  | cons e steps ih =>
    have hstep : (step cfg s e).store.iPointCloudIndex =
        s.store.iPointCloudIndex + if isQT then e.points.length else 0 := by
      cases e with
      | block laserNumber azimuth isQT' points =>
        obtain ⟨-, rfl, -⟩ := hkind _ List.mem_cons_self
        exact (step_block_structured cfg laserNumber s hmode azimuth isQT' points).2
      | receive | accept | finish => cases isQT <;> rfl
    rw [List.foldl_cons, ih fun e' he' => hkind e' (List.mem_cons_of_mem e he'), hstep,
      List.flatMap_cons, List.length_append]
    split <;> omega

/-- So the structured run is defined exactly if this number is an `int` after each step. -/
theorem eachStep_hasCells_structured_iff (cfg : Config F) (calib : Calibration F)
    {steps : List (ThreadStep F)} (hkind : ∀ e ∈ steps, e.OfKind n isQT) :
    EachStep (step cfg.structured) (HasCells cfg.structured) (DriverState.init calib) steps ↔
      EachStep (Framing.step cfg)
        (fun m e => isQT = true → (m.step cfg e).points.flatten.length < 2 ^ 31)
        Framing.init steps := by
  have hstructured : cfg.structured.pclType ≠ 0 := Int.one_ne_zero
  rw [eachStep_iff, eachStep_iff]
  apply forall_congr'
  intro pre
  apply forall₂_congr
  intro e post
  apply imp_congr_right
  rintro rfl
  -- the state after the step, as the end of a run
  have hpre : ∀ e' ∈ pre ++ [e], e'.OfKind n isQT := fun e' he' => hkind e' (by
    rw [List.append_cons]
    exact List.mem_append_left _ he')
  have hindex := foldl_index_structured hstructured hpre (DriverState.init calib)
  have hflatten := Framing.flatten_foldl cfg (pre ++ [e]) Framing.init
  rw [List.foldl_append, List.foldl_cons, List.foldl_nil] at hindex hflatten
  have hstart : (Framing.init : Framing F).points.flatten = [] := rfl
  rw [hstart, List.nil_append] at hflatten
  have hzero : (DriverState.init calib : DriverState F).store.iPointCloudIndex = 0 := rfl
  rw [HasCells, maxIndex_structured hstructured, hindex, hzero, hflatten]
  cases isQT with
  | false => simp
  | true =>
    simp only [forall_const, ↓reduceIte]
    omega

/-- Both runs are defined. -/
structure BothDefined (cfg : Config F) (calib : Calibration F) (packets : List (PandarPacket F)) :
    Prop where
  unstructured : RunDefined cfg calib packets
  structured : RunDefined cfg.structured calib packets

/-- They are so exactly if the packets can be processed and there is room at each step. -/
theorem bothDefined_iff (calib : Calibration F) {packets : List (PandarPacket F)}
    (hmode : cfg.pclType = 0)
    (hsteps : ∀ e ∈ packetsSteps cfg calib packets, e.OfKind n isQT) :
    BothDefined cfg calib packets ↔
      (∀ packet ∈ packets, PacketDefined cfg calib packet) ∧
        EachStep (Framing.step cfg) (HasRoomInBoth cfg isQT) Framing.init
          (packetsSteps cfg calib packets) := by
  have hunstructured := (run_defined_iff cfg calib packets).trans
    ((coupled_init calib).eachStep_hasCells_iff hmode _)
  have hstructured := run_defined_iff cfg.structured calib packets
  rw [packetsSteps_structured, eachStep_hasCells_structured_iff cfg calib hsteps] at hstructured
  constructor
  · rintro ⟨h₀, h₁⟩
    have hboth := (eachStep_and _).mpr
      ⟨hunstructured.mp h₀.store, hstructured.mp h₁.store⟩
    exact ⟨h₀.processed, hboth.mono fun _ _ h => ⟨h.1, h.2⟩⟩
  · -- what a packet reads does not depend on the mode
    rintro ⟨hpackets, hroom⟩
    exact ⟨⟨hpackets, hunstructured.mpr (hroom.mono fun _ _ h => h.pending)⟩,
      ⟨hpackets, hstructured.mpr (hroom.mono fun _ _ h => h.total)⟩⟩

/-- Both modes are defined and emit the same frames, grouped by ring, exactly in the runs whose
    packets can be processed and in which all steps have room and meet the condition. -/
theorem modes_agree_iff (cfg : Config F) (calib : Calibration F)
    (packets : List (PandarPacket F)) (n : Int) (isQT : Bool) (hmode : cfg.pclType = 0)
    (hkind : SameKind cfg packets n isQT) :
    let steps := packetsSteps cfg calib packets
    (BothDefined cfg calib packets ∧
        EachStep (stepBoth cfg) (ModesAgree cfg) (DriverState.init calib, DriverState.init calib)
          steps) ↔
      (∀ packet ∈ packets, PacketDefined cfg calib packet) ∧
        EachStep (Framing.step cfg)
          (fun m e => HasRoomInBoth cfg isQT m e ∧ ModesCondition cfg isQT m e) Framing.init
          steps := by
  intro steps
  have hsteps := packetsSteps_ofKind calib hkind
  rw [bothDefined_iff calib hmode hsteps, eachStep_and, and_assoc]
  apply and_congr_right
  intro _
  apply and_congr_right
  intro hroom
  exact modesAgree_run_iff hmode (represents_init calib) (grouped_init calib n isQT) hsteps
    (hroom.mono fun _ _ h => h.pending)

/-- Packets of the launched lidar around one turn, without a return of laser `0`. -/
def ringZeroPackets : List (PandarPacket Rat) :=
  [xt16Packet (fun block => 35000 + 100 * block) fun laser => if laser = 0 then 0 else 1000,
    xt16Packet (fun block => 100 * block) fun laser => if laser = 0 then 0 else 1000]

theorem sameKind_ringZeroPackets : SameKind launchConfig ringZeroPackets 16 false := by
  intro packet hpacket pkt hparse
  have hall : ringZeroPackets.all (fun packet =>
      ((parsePacket launchConfig packet).map fun pkt =>
        decide (pkt.laserNumber = 16 ∧ pkt.isQT = false)).getD true) = true := by decide +kernel
  have hone := List.all_eq_true.mp hall packet hpacket
  simpa [hparse] using hone

/-- These packets meet the assumption. -/
theorem modes_agree_iff_ringZero :
    let steps := packetsSteps launchConfig Calibration.zero ringZeroPackets
    (BothDefined launchConfig Calibration.zero ringZeroPackets ∧
        EachStep (stepBoth launchConfig) (ModesAgree launchConfig)
          (DriverState.init Calibration.zero, DriverState.init Calibration.zero) steps) ↔
      (∀ packet ∈ ringZeroPackets, PacketDefined launchConfig Calibration.zero packet) ∧
        EachStep (Framing.step launchConfig)
          (fun m e => HasRoomInBoth launchConfig false m e ∧ ModesCondition launchConfig false m e)
          Framing.init steps :=
  modes_agree_iff launchConfig Calibration.zero ringZeroPackets 16 false rfl
    sameKind_ringZeroPackets

/-- Unstructured mode emits a frame of `120` points, structured mode none. -/
theorem ring_zero_missing :
    ¬ ∀ packets : List (PandarPacket Rat),
      (∀ packet ∈ packets, acceptedFits launchConfig packet = true ∧
        PacketDefined launchConfig Calibration.zero packet) →
      SameKind launchConfig packets 16 false →
      EachStep (stepBoth launchConfig) (ModesAgree launchConfig)
        (DriverState.init Calibration.zero, DriverState.init Calibration.zero)
        (packetsSteps launchConfig Calibration.zero packets) := by
  intro hclaim
  have haccepted : ∀ packet ∈ ringZeroPackets, acceptedFits launchConfig packet = true ∧
      PacketDefined launchConfig Calibration.zero packet := by
    decide +kernel
  have hagree := hclaim ringZeroPackets haccepted sameKind_ringZeroPackets
  -- agreement at every step means as many frames at the end
  have hlength := hagree.inv (P := fun s => s.1.published.length = s.2.published.length) rfl
    fun s e _ h => by simpa using h.length_eq
  rw [foldl_stepBoth] at hlength
  exact absurd hlength (by decide +kernel)

end Hesai
