import Mathlib.Data.List.Pairwise
import Mathlib.Algebra.Order.Ring.Rat
import Go2Sensors.ForStd.Grouping
import Go2Sensors.Spec.Accumulation
import Go2Sensors.Spec.CloudWellFormed
import Go2Sensors.Spec.StructuredMode

/-!
# The stamp of a frame

The callback is given the timestamp of `points[0]`. With the time of reception as
timestamp, points arrive in the order of their stamps, and what waits in `PointCloud`
or in a ring is part of them, in this order. So `points[0]` is the earliest point of an
unstructured cloud. In a structured cloud it is only the earliest of its ring, and
another ring may have got a point before (`LowestRingFirst`).

## Key results

- `frame_stamp_earliest_iff`: when all stamps of a run are those of the earliest points
- `late_ring_zero`: a stamp later than most points of its cloud
-/

namespace Hesai

open Run

variable {F : Type}

/-! ## Points in the order of their stamps -/

/-- The timestamps never decrease. -/
def InStampOrder [LE F] (points : List (PPoint F)) : Prop :=
  points.Pairwise fun p q => p.timestamp ≤ q.timestamp

/-- The stamp of a frame is at most that of every point of its cloud. -/
def StampIsEarliest [LE F] (f : Frame F) : Prop :=
  ∀ stamp, f.timestamp = some stamp → ∀ p ∈ f.cloud.points, stamp ≤ p.timestamp

/-- A stamp precedes all points of a sequence in order if it precedes the first one. -/
theorem le_all_iff_le_head [Preorder F] {points : List (PPoint F)} (h : InStampOrder points)
    (stamp : F) :
    (∀ p ∈ points, stamp ≤ p.timestamp) ↔ ∀ p, points.head? = some p → stamp ≤ p.timestamp := by
  cases points with
  | nil => simp
  | cons p points =>
    have hrest : ∀ q ∈ points, p.timestamp ≤ q.timestamp := (List.pairwise_cons.mp h).1
    simp only [List.mem_cons, forall_eq_or_imp, List.head?_cons, Option.some.injEq, forall_eq']
    exact ⟨fun hall => hall.1, fun hp => ⟨hp, fun q hq => le_trans hp (hrest q hq)⟩⟩

/-- In structured mode, when a frame goes out: the lowest ring that has a point got its
    first one no later than any other ring of the frame did. -/
def LowestRingFirst [LE F] (cfg : Config F) (s : DriverState F) (e : ThreadStep F) : Prop :=
  match e with
  | .block laserNumber azimuth _ _ =>
    emits cfg s azimuth = true → ∀ i < laserNumber.toNat, ∀ k < laserNumber.toNat,
      (∀ j < i, s.store.pointCloudList j = []) →
      ∀ p, (s.store.pointCloudList i).head? = some p →
      ∀ q, (s.store.pointCloudList k).head? = some q → p.timestamp ≤ q.timestamp
  | _ => True

/-- If every ring is in order, the first point of the rings is the earliest one exactly
    if no ring starts before the lowest ring with a point. -/
theorem rings_earliest_iff [Preorder F] {st : PointStore F} {laserNumber : Int}
    (h : ∀ j, InStampOrder (st.pointCloudList j)) :
    (∀ p, (st.rings laserNumber).head? = some p →
        ∀ q ∈ st.rings laserNumber, p.timestamp ≤ q.timestamp) ↔
      ∀ i < laserNumber.toNat, ∀ k < laserNumber.toNat,
        (∀ j < i, st.pointCloudList j = []) →
        ∀ p, (st.pointCloudList i).head? = some p →
        ∀ q, (st.pointCloudList k).head? = some q → p.timestamp ≤ q.timestamp := by
  -- every ring on its own starts with its earliest point
  have hrings : ∀ stamp : F, (∀ q ∈ st.rings laserNumber, stamp ≤ q.timestamp) ↔
      ∀ k < laserNumber.toNat, ∀ q, (st.pointCloudList k).head? = some q →
        stamp ≤ q.timestamp := by
    intro stamp
    simp only [PointStore.rings, List.mem_flatMap, List.mem_range, forall_exists_index, and_imp]
    rw [forall_comm]
    apply forall_congr'
    intro k
    rw [forall_comm]
    apply imp_congr_right
    intro _
    exact le_all_iff_le_head (h k) stamp
  simp only [hrings]
  constructor
  · intro hfirst i hi k hk hlowest p hp q hq
    exact hfirst p (Grouping.head?_flatMap_range.mpr ⟨i, hi, hlowest, hp⟩) k hk q hq
  · intro hfirst p hp k hk q hq
    obtain ⟨i, hi, hlowest, hp⟩ := Grouping.head?_flatMap_range.mp hp
    exact hfirst i hi k hk hlowest p hp q hq

variable [CFloat F] {cfg : Config F}

/-! ## The stamps of the points -/

/-- With the time of reception, the points of a block have the stamp of their packet. -/
theorem timestamp_of_mem_blockPoints (hreal : cfg.timestampType = "realtime")
    {calib : Calibration F} {stamp : F} {blockid : Nat} {pkt : ParsedPacket} {p : PPoint F}
    (hp : p ∈ blockPoints cfg calib stamp blockid pkt) : p.timestamp = stamp := by
  have hunits : ∀ {n : Int} {block : LidarBlock} {point : Nat → LidarUnit → PPoint F},
      (∀ i unit, (point i unit).timestamp = stamp) → p ∈ unitPoints n block point →
      p.timestamp = stamp := by
    intro n block point hpoint hmem
    obtain ⟨i, -, -, rfl⟩ := mem_unitPoints.mp hmem
    exact hpoint i _
  -- all five branches take the stamp through `pointTimestamp`
  cases pkt <;> exact hunits (fun _ _ => if_pos hreal) hp

theorem timestamp_of_mem_packetPoints (hreal : cfg.timestampType = "realtime")
    {calib : Calibration F} {packet : PandarPacket F} {p : PPoint F}
    (hp : p ∈ packetPoints cfg calib packet) : p.timestamp = packet.stamp := by
  unfold packetPoints at hp
  cases hparse : parsePacket cfg packet with
  | none => simp [hparse] at hp
  | some pkt =>
    simp only [hparse, List.mem_flatMap] at hp
    obtain ⟨blockid, -, hp⟩ := hp
    exact timestamp_of_mem_blockPoints hreal hp

/-- Packets in the order of their stamps give points in the order of their stamps. -/
theorem inStampOrder_points [Preorder F] (hreal : cfg.timestampType = "realtime")
    (calib : Calibration F) {packets : List (PandarPacket F)}
    (hstamps : packets.Pairwise fun p q => p.stamp ≤ q.stamp) :
    InStampOrder ((packetsSteps cfg calib packets).flatMap ThreadStep.points) := by
  rw [packetsSteps_points, InStampOrder, List.pairwise_flatMap]
  constructor
  · intro packet _
    apply List.pairwise_of_forall_mem_list
    intro p hp q hq
    rw [timestamp_of_mem_packetPoints hreal hp, timestamp_of_mem_packetPoints hreal hq]
  · apply hstamps.imp
    intro packet packet' hle p hp q hq
    rwa [timestamp_of_mem_packetPoints hreal hp, timestamp_of_mem_packetPoints hreal hq]

/-! ## What waits is part of what arrived -/

/-- In structured mode every ring holds part of the points so far, in their order. -/
theorem ring_sublist (hmode : cfg.pclType ≠ 0) (calib : Calibration F)
    (steps : List (ThreadStep F)) (j : Nat) :
    ((steps.foldl (step cfg) (DriverState.init calib)).store.pointCloudList j).Sublist
      (steps.flatMap ThreadStep.points) := by
  induction steps using List.reverseRecOn with
  | nil => exact List.Sublist.refl []
  | append_singleton steps e ih =>
    rw [List.foldl_append, List.foldl_cons, List.foldl_nil, List.flatMap_append,
      List.flatMap_singleton]
    generalize steps.foldl (step cfg) (DriverState.init calib) = s at ih ⊢
    cases e with
    | block laserNumber azimuth isQT points =>
      -- what the cut leaves in the ring, then the new points of the ring
      have hcut : ((afterCut cfg laserNumber s azimuth).store.pointCloudList j).Sublist
          (steps.flatMap ThreadStep.points) := by
        cases hemits : emits cfg s azimuth with
        | true =>
          rw [afterCut_of_emits hemits, cutFrame_ring_structured hmode (canEmit_of_emits hemits)]
          split
          · exact List.nil_sublist _
          · exact ih
        | false =>
          rw [afterCut_of_not_emits hemits]
          exact ih
      rw [step_block]
      simp only [storeAll_ring hmode, ThreadStep.points]
      exact hcut.append List.filter_sublist
    | receive | accept | finish =>
      exact List.sublist_append_of_sublist_left ih

/-- The stamp of a frame is the timestamp of the first point of its cloud. -/
theorem published_timestamp (steps : List (ThreadStep F)) (calib : Calibration F) :
    ∀ f ∈ (steps.foldl (step cfg) (DriverState.init calib)).published,
      f.timestamp = f.cloud.points.head?.map PPoint.timestamp := by
  rw [run_published_iff fun f => f.timestamp = f.cloud.points.head?.map PPoint.timestamp]
  refine ⟨fun f hf => absurd hf List.not_mem_nil, (eachStep_iff steps).mpr ?_⟩
  rintro pre e post -
  cases e with
  | block => exact fun _ => rfl
  | receive | accept | finish => trivial

/-! ## Both modes -/

/-- In unstructured mode, while there is room. -/
theorem stampIsEarliest_unstructured [Preorder F] (hmode : cfg.pclType = 0)
    (calib : Calibration F) {steps : List (ThreadStep F)}
    (horder : InStampOrder (steps.flatMap ThreadStep.points))
    (hroom : EachStep (Framing.step cfg) (HasRoom cfg) Framing.init steps) :
    ∀ f ∈ (steps.foldl (step cfg) (DriverState.init calib)).published, StampIsEarliest f := by
  intro f hf stamp hstamp
  have hrep := (represents_init calib).run hmode hroom
  -- the cloud is one of the closed frames, and these are part of all points
  have hclosed : f.cloud.points ∈ (steps.foldl (Framing.step cfg) Framing.init).points.closed := by
    rw [← hrep.frames]
    exact List.mem_map_of_mem hf
  have hflatten : (steps.foldl (Framing.step cfg) Framing.init).points.flatten =
      steps.flatMap ThreadStep.points := Framing.flatten_foldl cfg steps Framing.init
  have hpart : f.cloud.points.Sublist (steps.flatMap ThreadStep.points) := by
    rw [← hflatten, Chunks.flatten]
    exact List.sublist_append_of_sublist_left (List.sublist_flatten_of_mem hclosed)
  rw [published_timestamp steps calib f hf, Option.map_eq_some_iff] at hstamp
  obtain ⟨p, hp, rfl⟩ := hstamp
  rw [le_all_iff_le_head (horder.sublist hpart)]
  intro q hq
  rw [hp] at hq
  rw [Option.some.inj hq]

/-- In structured mode, frame by frame. -/
theorem framesOf_stampIsEarliest_iff [Preorder F] (hmode : cfg.pclType ≠ 0)
    (calib : Calibration F) (pre : List (ThreadStep F))
    (horder : InStampOrder (pre.flatMap ThreadStep.points)) (e : ThreadStep F) :
    FramesOf cfg StampIsEarliest (pre.foldl (step cfg) (DriverState.init calib)) e ↔
      LowestRingFirst cfg (pre.foldl (step cfg) (DriverState.init calib)) e := by
  have hrings := fun j => horder.sublist (ring_sublist hmode calib pre j)
  have hinv := cloudInv_run cfg calib pre
  generalize pre.foldl (step cfg) (DriverState.init calib) = s at hrings hinv ⊢
  cases e with
  | receive | accept | finish => exact Iff.rfl
  | block laserNumber azimuth isQT points =>
    apply imp_congr_right
    intro _
    have hcloud := (emittedFrame_cloud hinv laserNumber).1
    rw [framePoints, if_neg hmode] at hcloud
    rw [← rings_earliest_iff hrings, StampIsEarliest, hcloud]
    have hstamp : (emittedFrame cfg laserNumber s).timestamp =
        (s.store.rings laserNumber).head?.map PPoint.timestamp := by
      rw [← hcloud]
      rfl
    simp [hstamp]

/-- In structured mode, over a whole run. -/
theorem stampIsEarliest_structured_iff [Preorder F] (hmode : cfg.pclType ≠ 0)
    (calib : Calibration F) {steps : List (ThreadStep F)}
    (horder : InStampOrder (steps.flatMap ThreadStep.points)) :
    (∀ f ∈ (steps.foldl (step cfg) (DriverState.init calib)).published, StampIsEarliest f) ↔
      EachStep (step cfg) (LowestRingFirst cfg) (DriverState.init calib) steps := by
  have hstart : ∀ f ∈ (DriverState.init calib : DriverState F).published, StampIsEarliest f :=
    fun f hf => absurd hf List.not_mem_nil
  rw [run_published_iff StampIsEarliest, and_iff_right hstart, eachStep_iff, eachStep_iff]
  apply forall_congr'
  intro pre
  apply forall₂_congr
  intro e post
  apply imp_congr_right
  intro hsplit
  -- what arrived before the step is in order too
  have hpre : InStampOrder (pre.flatMap ThreadStep.points) := by
    rw [hsplit, List.flatMap_append] at horder
    exact (List.pairwise_append.mp horder).1
  exact framesOf_stampIsEarliest_iff hmode calib pre hpre e

/-- Packets in the order of their stamps, with the time of reception as timestamp: the run is
    defined and the stamp of every frame is that of its earliest point exactly if the packets
    can be processed, the index is in range at every step, and in structured mode the lowest
    ring of every frame is also the first one that got a point. -/
theorem frame_stamp_earliest_iff [Preorder F] (cfg : Config F) (calib : Calibration F)
    (packets : List (PandarPacket F)) (hreal : cfg.timestampType = "realtime")
    (hstamps : packets.Pairwise fun p q => p.stamp ≤ q.stamp) :
    let steps := packetsSteps cfg calib packets
    (RunDefined cfg calib packets ∧
        ∀ f ∈ (run cfg (DriverState.init calib) packets).published, StampIsEarliest f) ↔
      ((∀ packet ∈ packets, PacketDefined cfg calib packet) ∧
        EachStep (step cfg) (HasCells cfg) (DriverState.init calib) steps) ∧
      (cfg.pclType ≠ 0 →
        EachStep (step cfg) (LowestRingFirst cfg) (DriverState.init calib) steps) := by
  intro steps
  have horder : InStampOrder (steps.flatMap ThreadStep.points) :=
    inStampOrder_points hreal calib hstamps
  rw [runDefined_iff, run_init_eq_steps]
  apply and_congr_right
  rintro ⟨-, hcells⟩
  by_cases hmode : cfg.pclType = 0
  · -- without structure the first point is the earliest one, as long as all are stored
    have hroom := ((coupled_init calib).eachStep_hasCells_iff hmode steps).mp hcells
    exact iff_of_true (stampIsEarliest_unstructured hmode calib horder hroom)
      fun hstructured => absurd hmode hstructured
  · rw [stampIsEarliest_structured_iff hmode calib horder]
    exact ⟨fun hfirst _ => hfirst, fun hfirst => hfirst hmode⟩

/-- Three packets of the launched lidar, received one second after the other. Laser `0`
    has its first return in the second one, and the third one starts a new frame. -/
def lateRingZeroPackets : List (PandarPacket Rat) :=
  [{ xt16Packet (fun block => 34000 + 100 * block) (fun laser =>
      if laser = 0 then 0 else 1000) with stamp := 1 },
    { xt16Packet (fun block => 35000 + 100 * block) (fun _ => 1000) with stamp := 2 },
    { xt16Packet (fun block => 100 * block) (fun _ => 1000) with stamp := 3 }]

/-- These packets meet the assumptions. -/
theorem frame_stamp_earliest_iff_lateRingZero :
    let cfg := launchConfig.structured
    let steps := packetsSteps cfg Calibration.zero lateRingZeroPackets
    (RunDefined cfg Calibration.zero lateRingZeroPackets ∧
        ∀ f ∈ (run cfg (DriverState.init Calibration.zero) lateRingZeroPackets).published,
          StampIsEarliest f) ↔
      ((∀ packet ∈ lateRingZeroPackets, PacketDefined cfg Calibration.zero packet) ∧
        EachStep (step cfg) (HasCells cfg) (DriverState.init Calibration.zero) steps) ∧
      (cfg.pclType ≠ 0 →
        EachStep (step cfg) (LowestRingFirst cfg) (DriverState.init Calibration.zero) steps) :=
  frame_stamp_earliest_iff launchConfig.structured Calibration.zero lateRingZeroPackets rfl
    (by decide +kernel)

/-- In structured mode the frame of these packets has the stamp of the second one, and
    its points of the first packet are earlier. -/
theorem late_ring_zero :
    ¬ ∀ packets : List (PandarPacket Rat),
      (∀ packet ∈ packets, acceptedFits launchConfig.structured packet = true) →
      (packets.Pairwise fun p q => p.stamp ≤ q.stamp) →
      ∀ f ∈ (run launchConfig.structured (DriverState.init Calibration.zero) packets).published,
        StampIsEarliest f := by
  intro hclaim
  have haccepted : ∀ packet ∈ lateRingZeroPackets,
      acceptedFits launchConfig.structured packet = true := by decide +kernel
  have hearliest := hclaim lateRingZeroPackets haccepted (by decide +kernel)
  have hlate : (run launchConfig.structured (DriverState.init Calibration.zero)
      lateRingZeroPackets).published.any (fun f => f.timestamp = some 2 &&
        f.cloud.points.any fun p => p.timestamp = 1) = true := by decide +kernel
  obtain ⟨f, hf, hboth⟩ := List.any_eq_true.mp hlate
  obtain ⟨hstamp, hsome⟩ := Bool.and_eq_true_iff.mp hboth
  obtain ⟨p, hp, hearly⟩ := List.any_eq_true.mp hsome
  have hle := hearliest f hf 2 (of_decide_eq_true hstamp) p hp
  rw [of_decide_eq_true hearly] at hle
  exact absurd hle (by decide)

end Hesai
