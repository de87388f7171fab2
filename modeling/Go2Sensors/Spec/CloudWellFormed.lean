import Mathlib.Data.List.Induction
import Go2Sensors.Native.Launch
import Go2Sensors.Spec.PointCloudBounds

/-!
# The clouds the callback is given

A cloud goes out in the middle of a packet, but its frame id is set at the end of one:
what the first accepted packet emits has none. And the emission test does not look at
the rings that the cloud is made of. Apart from these two, every cloud of a run that is
defined is well formed.

## Key results

- `emitted_clouds_wellFormed_iff`: when all clouds of a run are well formed
- `first_frame_without_id`: a frame without a frame id
-/

namespace Hesai

open Run

variable {F : Type}

/-- At least one point, the configured frame id, and the shape of an unorganised cloud. -/
structure CloudWellFormed (cfg : Config F) (cld : PPointCloud F) : Prop where
  nonempty : cld.points ≠ []
  frameId : cld.frameId = cfg.frameId
  height : cld.height = 1
  width : cld.width = cld.points.length

instance [DecidableEq F] (cfg : Config F) (cld : PPointCloud F) :
    Decidable (CloudWellFormed cfg cld) :=
  decidable_of_iff (cld.points ≠ [] ∧ cld.frameId = cfg.frameId ∧ cld.height = 1 ∧
    cld.width = cld.points.length)
    ⟨fun ⟨h1, h2, h3, h4⟩ => ⟨h1, h2, h3, h4⟩, fun ⟨h1, h2, h3, h4⟩ => ⟨h1, h2, h3, h4⟩⟩

/-- A width that fits into 32 bits is the number of points. -/
theorem toUInt32_eq_self_iff (k : Nat) : toUInt32 k = k ↔ k < 2 ^ 32 := by
  unfold toUInt32
  omega

/-- The pending points that a frame of laser number `laserNumber` takes. -/
def framePoints (cfg : Config F) (laserNumber : Int) (st : PointStore F) : List (PPoint F) :=
  if cfg.pclType = 0 then st.pending else st.rings laserNumber

/-- Some ring of the frame holds a point. -/
def RingPending (laserNumber : Int) (st : PointStore F) : Prop :=
  ∃ i < laserNumber.toNat, st.pointCloudList i ≠ []

theorem rings_ne_nil_iff {laserNumber : Int} {st : PointStore F} :
    st.rings laserNumber ≠ [] ↔ RingPending laserNumber st := by
  simp [PointStore.rings, RingPending, List.flatMap_eq_nil_iff]

/-- The invariant of all runs: in structured mode the cloud is empty between two frames,
    in unstructured mode ring `0` is; the frame id is the configured one, or there is none
    and no packet has been finished. -/
structure CloudInv (cfg : Config F) (finished : Prop) (s : DriverState F) : Prop where
  cloud : cfg.pclType ≠ 0 → s.outMsg.points = []
  ring : cfg.pclType = 0 → s.store.pointCloudList 0 = []
  frameId : (finished → s.outMsg.frameId = cfg.frameId) ∧ (¬finished → s.outMsg.frameId = "")

variable {cfg : Config F} {s : DriverState F}

/-- In unstructured mode a block only emits if points are pending. -/
theorem CloudInv.framePoints_ne_nil_iff {finished : Prop} (h : CloudInv cfg finished s)
    (laserNumber : Int) {azimuth : Nat} (hemits : emits cfg s azimuth = true) :
    framePoints cfg laserNumber s.store ≠ [] ↔
      (cfg.pclType ≠ 0 → RingPending laserNumber s.store) := by
  unfold framePoints
  by_cases hmode : cfg.pclType = 0
  · rw [if_pos hmode]
    -- ring `0` is empty, so the guard must have seen the index
    have hcan := canEmit_of_emits hemits
    unfold canEmit at hcan
    rw [h.ring hmode] at hcan
    apply iff_of_true _ fun hne => absurd hmode hne
    have hindex : 0 < s.store.iPointCloudIndex := by simpa using (Bool.and_eq_true_iff.mp hcan).2
    rw [PointStore.pending, ne_eq, List.map_eq_nil_iff, List.range_eq_nil]
    omega
  · rw [if_neg hmode, rings_ne_nil_iff]
    exact ⟨fun hring _ => hring, fun hring => hring hmode⟩

variable [CFloat F]

theorem cloudInv_init (cfg : Config F) (calib : Calibration F) {finished : Prop}
    (h : ¬finished) : CloudInv cfg finished (DriverState.init calib) :=
  ⟨fun _ => rfl, fun _ => rfl, fun hf => absurd hf h, fun _ => rfl⟩

/-- A block keeps the invariant. -/
theorem CloudInv.step_block {finished : Prop} (h : CloudInv cfg finished s) (laserNumber : Int)
    (azimuth : Nat) (isQT : Bool) (points : List (PPoint F)) :
    CloudInv cfg finished (step cfg s (.block laserNumber azimuth isQT points)) := by
  rw [Hesai.step_block]
  cases hemits : emits cfg s azimuth with
  | true =>
    rw [afterCut_of_emits hemits]
    refine ⟨fun hmode => ?_, fun hmode => ?_, ?_⟩
    · -- clearing the rings clears the cloud as well
      exact cutFrame_points_structured hmode (h.cloud hmode)
    · rw [hmode]
      simp only [storeAll_rings]
      rw [cutFrame_store_unstructured hmode (canEmit_of_emits hemits)]
      exact h.ring hmode
    · simp only [cutFrame_frameId]
      exact h.frameId
  | false =>
    rw [afterCut_of_not_emits hemits]
    refine ⟨h.cloud, fun hmode => ?_, h.frameId⟩
    rw [hmode]
    simp only [storeAll_rings]
    exact h.ring hmode

/-- The invariant at every point of a run. -/
theorem cloudInv_run (cfg : Config F) (calib : Calibration F) (steps : List (ThreadStep F)) :
    CloudInv cfg (.finish ∈ steps) (steps.foldl (step cfg) (DriverState.init calib)) := by
  induction steps using List.reverseRecOn with
  | nil => exact cloudInv_init cfg calib List.not_mem_nil
  | append_singleton steps e ih =>
    rw [List.foldl_append, List.foldl_cons, List.foldl_nil]
    cases e with
    | block laserNumber azimuth isQT points =>
      -- a block finishes no packet
      have hblock := ih.step_block laserNumber azimuth isQT points
      simpa using hblock
    | receive | accept =>
      have hsame := ih
      simp only [List.mem_append, List.mem_singleton, reduceCtorEq, or_false]
      exact ⟨hsame.cloud, hsame.ring, hsame.frameId⟩
    | finish =>
      refine ⟨ih.cloud, ih.ring, fun _ => rfl, fun hnot => ?_⟩
      exact absurd (List.mem_append_right _ List.mem_cons_self) hnot

/-- The cloud that goes out holds the points of the frame, with their number as width. -/
theorem emittedFrame_cloud {finished : Prop} (h : CloudInv cfg finished s) (laserNumber : Int) :
    (emittedFrame cfg laserNumber s).cloud.points = framePoints cfg laserNumber s.store ∧
      (framePoints cfg laserNumber s.store ≠ [] →
        (emittedFrame cfg laserNumber s).cloud.height = 1 ∧
          (emittedFrame cfg laserNumber s).cloud.width =
            toUInt32 (framePoints cfg laserNumber s.store).length) := by
  unfold framePoints
  by_cases hmode : cfg.pclType = 0
  · rw [emittedFrame_unstructured cfg laserNumber s hmode, if_pos hmode]
    exact ⟨rfl, fun _ => ⟨rfl, rfl⟩⟩
  · rw [emittedFrame_structured cfg laserNumber s hmode, if_neg hmode, foldl_pushBack,
      h.cloud hmode]
    split
    · rename_i hnone
      exact ⟨by rw [h.cloud hmode, hnone], fun hsome => absurd hnone hsome⟩
    · exact ⟨List.nil_append _, fun _ => ⟨rfl, by rw [List.nil_append]⟩⟩

/-- The cloud of a frame has the configured frame id once a packet has been finished. -/
theorem CloudInv.frameId_iff {finished : Prop} (h : CloudInv cfg finished s)
    (laserNumber : Int) :
    (emittedFrame cfg laserNumber s).cloud.frameId = cfg.frameId ↔
      cfg.frameId = "" ∨ finished := by
  rw [emittedFrame_frameId]
  by_cases hf : finished
  · exact iff_of_true (h.frameId.1 hf) (Or.inr hf)
  · rw [h.frameId.2 hf]
    exact ⟨fun hid => Or.inl hid.symm, fun hid => (hid.resolve_right hf).symm⟩

/-- Every frame that a step publishes satisfies `W`. -/
def FramesOf (cfg : Config F) (W : Frame F → Prop) (s : DriverState F) (e : ThreadStep F) :
    Prop :=
  match e with
  | .block laserNumber azimuth _ _ =>
    emits cfg s azimuth = true → W (emittedFrame cfg laserNumber s)
  | _ => True

theorem step_published_iff (W : Frame F → Prop) (s : DriverState F) (e : ThreadStep F) :
    (∀ f ∈ (step cfg s e).published, W f) ↔
      (∀ f ∈ s.published, W f) ∧ FramesOf cfg W s e := by
  cases e with
  | block laserNumber azimuth isQT points =>
    rw [step_published, List.forall_mem_append]
    apply and_congr_right
    intro _
    cases hemits : emits cfg s azimuth <;> simp [FramesOf, hemits]
  | receive | accept | finish => exact (and_iff_left trivial).symm

/-- All frames of a run satisfy `W` exactly if those of every step do. -/
theorem run_published_iff (W : Frame F → Prop) (steps : List (ThreadStep F))
    (s : DriverState F) :
    (∀ f ∈ (steps.foldl (step cfg) s).published, W f) ↔
      (∀ f ∈ s.published, W f) ∧ EachStep (step cfg) (FramesOf cfg W) s steps := by
  induction steps generalizing s with
  | nil => exact (and_iff_left trivial).symm
  | cons e steps ih => rw [List.foldl_cons, ih, step_published_iff, EachStep, and_assoc]

/-- The condition on a step for its cloud to be well formed, where `finished` says that a
    packet has been finished before: this is so, or there is no frame id to set; in
    structured mode some ring of the frame holds a point; and the number of points fits
    into the width. -/
def CloudCondition (cfg : Config F) (finished : Prop) (s : DriverState F) (e : ThreadStep F) :
    Prop :=
  match e with
  | .block laserNumber azimuth _ _ =>
    emits cfg s azimuth = true →
      (cfg.frameId = "" ∨ finished) ∧ (cfg.pclType ≠ 0 → RingPending laserNumber s.store) ∧
        (framePoints cfg laserNumber s.store).length < 2 ^ 32
  | _ => True

/-- The condition decides the cloud of a step. -/
theorem CloudInv.framesOf_iff {finished : Prop} (h : CloudInv cfg finished s)
    (e : ThreadStep F) :
    FramesOf cfg (fun f => CloudWellFormed cfg f.cloud) s e ↔ CloudCondition cfg finished s e := by
  cases e with
  | receive | accept | finish => exact Iff.rfl
  | block laserNumber azimuth isQT points =>
    apply imp_congr_right
    intro hemits
    obtain ⟨hpoints, hshape⟩ := emittedFrame_cloud h laserNumber
    have hsome := h.framePoints_ne_nil_iff laserNumber hemits
    have hid := h.frameId_iff laserNumber
    rw [← hid, ← hsome]
    constructor
    · -- the width of a cloud is what the conversion left of its number of points
      intro hwell
      have hne := hwell.nonempty
      rw [hpoints] at hne
      refine ⟨hwell.frameId, hne, ?_⟩
      rw [← toUInt32_eq_self_iff, ← (hshape hne).2, hwell.width, hpoints]
    · rintro ⟨hframeId, hne, hfits⟩
      obtain ⟨hheight, hwidth⟩ := hshape hne
      refine ⟨by rwa [hpoints], hframeId, hheight, ?_⟩
      rw [hwidth, hpoints, (toUInt32_eq_self_iff _).mpr hfits]

/-- In either mode, a run is defined and all clouds that the callback is given are well formed
    exactly if its packets can be processed and every step leaves the index in range and
    meets the condition. -/
theorem emitted_clouds_wellFormed_iff (cfg : Config F) (calib : Calibration F)
    (packets : List (PandarPacket F)) :
    (RunDefined cfg calib packets ∧
        ∀ f ∈ (run cfg (DriverState.init calib) packets).published,
          CloudWellFormed cfg f.cloud) ↔
      (∀ packet ∈ packets, PacketDefined cfg calib packet) ∧
        ∀ pre e post, packetsSteps cfg calib packets = pre ++ e :: post →
          let s := pre.foldl (step cfg) (DriverState.init calib)
          HasCells cfg s e ∧ CloudCondition cfg (.finish ∈ pre) s e := by
  have hstart : ∀ f ∈ (DriverState.init calib : DriverState F).published,
      CloudWellFormed cfg f.cloud := fun f hf => absurd hf List.not_mem_nil
  -- the clouds of the run, step by step
  have hclouds : (∀ f ∈ (run cfg (DriverState.init calib) packets).published,
      CloudWellFormed cfg f.cloud) ↔
        ∀ pre e post, packetsSteps cfg calib packets = pre ++ e :: post →
          CloudCondition cfg (.finish ∈ pre) (pre.foldl (step cfg) (DriverState.init calib)) e := by
    rw [run_init_eq_steps, run_published_iff (fun f => CloudWellFormed cfg f.cloud),
      and_iff_right hstart, eachStep_iff]
    apply forall_congr'
    intro pre
    apply forall₂_congr
    intro e post
    apply imp_congr_right
    intro _
    -- the invariant of the part of the run before the step
    exact (cloudInv_run cfg calib pre).framesOf_iff e
  rw [runDefined_iff, hclouds, eachStep_iff, and_assoc]
  apply and_congr_right
  intro _
  simp only [← forall_and]

/-- A turn that ends inside the first packet. -/
def firstPacket : PandarPacket Rat :=
  xt16Packet (fun block => (35300 + 100 * block) % 36000) (fun _ => 1000)

/-- The first frame goes out with the empty frame id. -/
theorem first_frame_without_id :
    ¬ ∀ packets : List (PandarPacket Rat),
      (∀ packet ∈ packets, acceptedFits launchConfig packet = true) →
      ∀ f ∈ (run launchConfig (DriverState.init Calibration.zero) packets).published,
        CloudWellFormed launchConfig f.cloud := by
  intro hclaim
  have haccepted : ∀ packet ∈ [firstPacket], acceptedFits launchConfig packet = true := by
    decide +kernel
  have hwell := hclaim [firstPacket] haccepted
  have hids : (run launchConfig (DriverState.init Calibration.zero) [firstPacket]).published.map
      (fun f => f.cloud.frameId) = [""] := by decide +kernel
  have hone : "" ∈ (run launchConfig (DriverState.init Calibration.zero)
      [firstPacket]).published.map (fun f => f.cloud.frameId) := by
    rw [hids]
    exact List.mem_cons_self
  obtain ⟨f, hf, hid⟩ := List.mem_map.mp hone
  have hconfigured := (hwell f hf).frameId
  rw [hid] at hconfigured
  exact absurd hconfigured (by decide)

end Hesai
