import Go2Sensors.ForStd.Chunks
import Go2Sensors.Spec.Emission

/-!
# The thread builds frames

What the processing thread is for, in unstructured mode: the points arrive block by
block and are cut into frames (`Framing`). The index of the thread counts the pending
points of the frame builder at every step of every run (`Coupled`), and as long as
`PointCloud` has room for them the thread holds exactly these points
(`Represents`).

## Key results

- `Framing.flatten_foldl`: the frame builder keeps every point, in order
- `Coupled.step`: the index counts the pending points
- `Represents.run`: the thread refines the frame builder while there is room
-/

namespace Hesai

open Run

variable {F : Type}

/-! ## The abstract frame builder -/

/-- The points cut into frames. -/
structure Framing (F : Type) where
  lastAzimuth : Nat
  points : Chunks (PPoint F)

namespace Framing

/-- Before the first block. -/
def init : Framing F := ⟨0, Chunks.empty⟩

/-- The points when those of a block of azimuth `azimuth` are added. -/
def cut (cfg : Config F) (m : Framing F) (azimuth : Nat) : Chunks (PPoint F) :=
  if cfg.pclCallback && isFrameCut cfg.startAngle m.lastAzimuth azimuth then m.points.close
  else m.points

/-- Only the blocks matter. -/
def step (cfg : Config F) (m : Framing F) : ThreadStep F → Framing F
  | .block _ azimuth _ points => ⟨azimuth, (m.cut cfg azimuth).push points⟩
  | _ => m

end Framing

/-- The points of a step. -/
def ThreadStep.points : ThreadStep F → List (PPoint F)
  | .block _ _ _ points => points
  | _ => []

/-- The frame builder keeps every point, in order. -/
theorem Framing.flatten_foldl (cfg : Config F) (steps : List (ThreadStep F)) (m : Framing F) :
    (steps.foldl (Framing.step cfg) m).points.flatten =
      m.points.flatten ++ steps.flatMap ThreadStep.points := by
  induction steps generalizing m with
  | nil => simp
  | cons e steps ih =>
    rw [List.foldl_cons, ih, List.flatMap_cons, ← List.append_assoc]
    congr 1
    cases e with
    | block n azimuth isQT points =>
      simp only [Framing.step, Framing.cut, Chunks.flatten_push, ThreadStep.points]
      split
      · rw [Chunks.flatten_close]
      · rfl
    | receive | accept | finish => simp [Framing.step, ThreadStep.points]

/-- A cut leaves at most the points that were pending. -/
theorem Framing.cut_pending_le (cfg : Config F) (m : Framing F) (azimuth : Nat) :
    (m.cut cfg azimuth).pending.length ≤ m.points.pending.length := by
  rw [Framing.cut]
  split
  · simp
  · exact Nat.le_refl _

/-! ## The index counts the pending points -/

/-- The azimuth and the index agree with the frame builder. -/
structure Coupled (s : DriverState F) (m : Framing F) : Prop where
  lastAzimuth : s.lastAzimuth = m.lastAzimuth
  index : s.store.iPointCloudIndex = m.points.pending.length
  ring : s.store.pointCloudList 0 = []

variable {cfg : Config F} {s : DriverState F} {m : Framing F}

/-- There is a frame to emit exactly when points are pending. -/
theorem Coupled.canEmit_iff (h : Coupled s m) :
    canEmit cfg s.store = true ↔ cfg.pclCallback = true ∧ m.points.pending ≠ [] := by
  unfold canEmit
  rw [h.index, h.ring]
  simp [List.length_pos_iff]

/-- The points after a frame went out, or not. -/
def Framing.afterEmit (m : Framing F) (emitted : Bool) : Chunks (PPoint F) :=
  if emitted then ⟨m.points.closed ++ [m.points.pending], []⟩ else m.points

/-- A frame is closed exactly when the block emits: without a callback there is no cut,
    and a cut without pending points closes nothing. -/
theorem Coupled.cut_eq (h : Coupled s m) (azimuth : Nat) :
    m.cut cfg azimuth = m.afterEmit (emits cfg s azimuth) := by
  have hcan : canEmit cfg s.store = true ↔ _ := h.canEmit_iff
  rw [Framing.cut, Framing.afterEmit, emits, h.lastAzimuth]
  by_cases hcut : isFrameCut cfg.startAngle m.lastAzimuth azimuth = true
  · by_cases hset : cfg.pclCallback = true
    · -- the builder and the guard both look at the pending points
      by_cases hnone : m.points.pending = []
      · have hcannot : canEmit cfg s.store = false := by
          rw [← Bool.not_eq_true, hcan]
          exact fun hboth => hboth.2 hnone
        rw [hcut, hset, hcannot, Chunks.close_of_pending_nil hnone]
        rfl
      · have hcanemit : canEmit cfg s.store = true := hcan.mpr ⟨hset, hnone⟩
        rw [hcut, hset, hcanemit, Chunks.close_of_pending_ne_nil hnone]
    · simp [canEmit, hset]
  · simp [hcut]

variable [CFloat F]

theorem coupled_init (calib : Calibration F) :
    Coupled (DriverState.init calib) (Framing.init : Framing F) :=
  ⟨rfl, rfl, rfl⟩

/-- After the cut the index still counts the pending points, and no ring is filled. -/
theorem Coupled.afterCut (hmode : cfg.pclType = 0) (h : Coupled s m) (laserNumber : Int)
    (azimuth : Nat) :
    (Hesai.afterCut cfg laserNumber s azimuth).store.iPointCloudIndex =
        (m.cut cfg azimuth).pending.length ∧
      (Hesai.afterCut cfg laserNumber s azimuth).store.pointCloudList 0 = [] := by
  cases hemits : emits cfg s azimuth with
  | true =>
    -- the index is reset where the builder closes its frame
    rw [afterCut_of_emits hemits, cutFrame_store_unstructured hmode (canEmit_of_emits hemits),
      h.cut_eq, hemits]
    exact ⟨rfl, h.ring⟩
  | false =>
    rw [afterCut_of_not_emits hemits, h.cut_eq, hemits]
    exact ⟨h.index, h.ring⟩

/-- Every step keeps the coupling. -/
theorem Coupled.step (hmode : cfg.pclType = 0) (h : Coupled s m) (e : ThreadStep F) :
    Coupled (Hesai.step cfg s e) (m.step cfg e) := by
  cases e with
  | block laserNumber azimuth isQT points =>
    obtain ⟨hindex, hring⟩ := h.afterCut hmode laserNumber azimuth
    rw [step_block, hmode]
    refine ⟨rfl, ?_, ?_⟩
    · simp only [storeAll_index, hindex, Framing.step, Chunks.push, List.length_append]
    · simp only [storeAll_rings, hring]
  | receive | accept | finish => exact ⟨h.lastAzimuth, h.index, h.ring⟩

/-! ## The frames of the thread are those of the frame builder -/

/-- The thread in unstructured mode holds what the frame builder holds. -/
structure Represents (s : DriverState F) (m : Framing F) : Prop extends Coupled s m where
  pending : s.store.pending = m.points.pending
  frames : s.published.map (·.cloud.points) = m.points.closed

theorem represents_init (calib : Calibration F) :
    Represents (DriverState.init calib) (Framing.init : Framing F) :=
  ⟨coupled_init calib, rfl, rfl⟩

/-- After the cut the filled part of `PointCloud` is what is pending. -/
theorem Represents.afterCut_pending (hmode : cfg.pclType = 0) (h : Represents s m)
    (laserNumber : Int) (azimuth : Nat) :
    (afterCut cfg laserNumber s azimuth).store.pending = (m.cut cfg azimuth).pending := by
  cases hemits : emits cfg s azimuth with
  | true =>
    rw [afterCut_of_emits hemits, cutFrame_store_unstructured hmode (canEmit_of_emits hemits),
      h.cut_eq, hemits]
    rfl
  | false =>
    rw [afterCut_of_not_emits hemits, h.cut_eq, hemits, h.pending]
    rfl

/-- The cloud of the frame that goes out is the closed frame. -/
theorem Represents.frames_afterCut (hmode : cfg.pclType = 0) (h : Represents s m)
    (laserNumber : Int) (azimuth : Nat) :
    (s.published ++
        if emits cfg s azimuth then [emittedFrame cfg laserNumber s] else []).map
      (·.cloud.points) = (m.cut cfg azimuth).closed := by
  rw [h.cut_eq]
  cases emits cfg s azimuth with
  | true =>
    rw [if_pos rfl, List.map_append, h.frames, List.map_singleton,
      emittedFrame_unstructured cfg laserNumber s hmode, h.pending]
    rfl
  | false =>
    rw [if_neg Bool.false_ne_true, List.append_nil, h.frames]
    rfl

/-- The step leaves at most as many pending points as `PointCloud` has room for. -/
def HasRoom (cfg : Config F) (m : Framing F) (e : ThreadStep F) : Prop :=
  (m.step cfg e).points.pending.length ≤ maxPointCloudNum

instance (cfg : Config F) (m : Framing F) (e : ThreadStep F) : Decidable (HasRoom cfg m e) :=
  inferInstanceAs (Decidable (_ ≤ _))

/-- A step with room keeps the representation. -/
theorem Represents.step (hmode : cfg.pclType = 0) (h : Represents s m) (e : ThreadStep F)
    (hroom : HasRoom cfg m e) : Represents (Hesai.step cfg s e) (m.step cfg e) := by
  cases e with
  | block laserNumber azimuth isQT points =>
    refine ⟨h.toCoupled.step hmode _, ?_, ?_⟩
    · obtain ⟨hindex, -⟩ := h.toCoupled.afterCut hmode laserNumber azimuth
      have hpending := h.afterCut_pending hmode laserNumber azimuth
      simp only [HasRoom, Framing.step, Chunks.push, List.length_append] at hroom
      rw [step_block, hmode]
      simp only
      -- this is where the room is needed
      rw [pending_storeAll isQT points (by rw [hindex]; exact hroom), hpending]
      rfl
    · rw [step_published, h.frames_afterCut hmode]
      rfl
  | receive | accept | finish => exact ⟨h.toCoupled.step hmode _, h.pending, h.frames⟩

/-- A run with room keeps the representation. -/
theorem Represents.run (hmode : cfg.pclType = 0) {steps : List (ThreadStep F)}
    (h : Represents s m) (hroom : EachStep (Framing.step cfg) (HasRoom cfg) m steps) :
    Represents (steps.foldl (Hesai.step cfg) s) (steps.foldl (Framing.step cfg) m) := by
  apply hroom.sim (S := fun m s => Represents s m) h
  intro m s e h hroom
  exact h.step hmode e hroom

end Hesai
