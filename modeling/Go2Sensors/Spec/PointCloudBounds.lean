import Go2Sensors.Spec.Accumulation

/-!
# When the stores stay inside `PointCloud`

The index is only reset when a frame goes out, and nothing compares it with the size
of `PointCloud`. Since it counts the pending points of the frame builder, the stores
of a run are in range exactly when the frame builder never holds more points than
`PointCloud` has cells.

## Key results

- `stores_in_range_iff`: the condition, for every run in unstructured mode
- `run_defined_iff`: in either mode, a run is defined if the index is in range at each step
- `still_lidar_overflows`: a lidar that stands still violates it
-/

namespace Hesai

open Run

variable {F : Type}

/-! ## Steps without a cut -/

/-- A step that does not move the azimuth. -/
def ThreadStep.keepsAzimuth (azimuth : Nat) : ThreadStep F → Bool
  | .block _ azimuth' _ _ => azimuth' = azimuth
  | _ => true

/-- Steps that do not move the azimuth cut no frame: the points pile up. -/
theorem Framing.pending_foldl_constant (cfg : Config F) (steps : List (ThreadStep F))
    (m : Framing F) (hsteps : ∀ e ∈ steps, e.keepsAzimuth m.lastAzimuth = true) :
    (steps.foldl (Framing.step cfg) m).points.pending =
      m.points.pending ++ steps.flatMap ThreadStep.points := by
  induction steps generalizing m with
  | nil => simp
  | cons e steps ih =>
    have he := hsteps e List.mem_cons_self
    have hrest := fun e' he' => hsteps e' (List.mem_cons_of_mem e he')
    cases e with
    | block n azimuth isQT points =>
      -- equal azimuths fail the first test of `isFrameCut`
      have hsame : azimuth = m.lastAzimuth := by simpa [ThreadStep.keepsAzimuth] using he
      subst hsame
      have hcut : m.cut cfg m.lastAzimuth = m.points := by
        simp [Framing.cut, isFrameCut]
      have htail := ih (m.step cfg (.block n m.lastAzimuth isQT points)) hrest
      rw [List.foldl_cons, htail, Framing.step, hcut, List.flatMap_cons, Chunks.push,
        List.append_assoc]
      rfl
    | receive | accept | finish => exact ih m hrest

variable [CFloat F] (cfg : Config F) {m : Framing F}

/-! ## Stores inside `PointCloud` -/

/-- The indices of a block that is stored from a full or partly filled array on. -/
theorem forall_written_lt_iff {written : List Nat} {start n : Nat}
    (hwritten : ∀ i ∈ written, i < maxPointCloudNum) (hstart : start ≤ maxPointCloudNum) :
    (∀ i ∈ written ++ List.range' start n, i < maxPointCloudNum) ↔
      start + n ≤ maxPointCloudNum := by
  constructor
  · intro h
    by_contra hlt
    -- the cell just past the end would be among the indices
    have hmem : maxPointCloudNum ∈ List.range' start n :=
      List.mem_range'_1.mpr ⟨hstart, by omega⟩
    exact Nat.lt_irrefl _ (h _ (List.mem_append_right _ hmem))
  · intro h i hi
    rcases List.mem_append.mp hi with hold | hnew
    · exact hwritten i hold
    · have := List.mem_range'_1.mp hnew
      omega

/-- The indices that a block writes. -/
theorem Coupled.step_written (hmode : cfg.pclType = 0) {s : DriverState F} {m : Framing F}
    (h : Coupled s m) (laserNumber : Int) (azimuth : Nat) (isQT : Bool)
    (points : List (PPoint F)) :
    (Hesai.step cfg s (.block laserNumber azimuth isQT points)).store.written =
      s.store.written ++ List.range' (m.cut cfg azimuth).pending.length points.length := by
  obtain ⟨hindex, -⟩ := h.afterCut hmode laserNumber azimuth
  rw [step_block, hmode]
  simp only [storeAll_written, hindex]
  congr 1
  cases hemits : emits cfg s azimuth with
  | true =>
    rw [afterCut_of_emits hemits, cutFrame_store_unstructured hmode (canEmit_of_emits hemits)]
  | false => rw [afterCut_of_not_emits hemits]

variable {cfg}

/-- What has been written stays written. -/
theorem Coupled.written_prefix (hmode : cfg.pclType = 0) {s : DriverState F} {m : Framing F}
    (h : Coupled s m) (steps : List (ThreadStep F)) :
    s.store.written <+: (steps.foldl (Hesai.step cfg) s).store.written := by
  induction steps generalizing s m with
  | nil => exact List.prefix_rfl
  | cons e steps ih =>
    apply List.IsPrefix.trans _ (ih (h.step hmode e))
    cases e with
    | block laserNumber azimuth isQT points =>
      rw [h.step_written cfg hmode]
      exact List.prefix_append _ _
    | receive | accept | finish => exact List.prefix_rfl

/-- A step from a state with all stores in range writes in range exactly when there is
    room. -/
theorem Coupled.step_in_range_iff (hmode : cfg.pclType = 0) {s : DriverState F} {m : Framing F}
    (h : Coupled s m) (hwritten : ∀ i ∈ s.store.written, i < maxPointCloudNum)
    (hpending : m.points.pending.length ≤ maxPointCloudNum) (e : ThreadStep F) :
    (∀ i ∈ (Hesai.step cfg s e).store.written, i < maxPointCloudNum) ↔ HasRoom cfg m e := by
  cases e with
  | block laserNumber azimuth isQT points =>
    -- the indices go on from what is pending after the cut
    have hcut := Framing.cut_pending_le cfg m azimuth
    rw [h.step_written cfg hmode, forall_written_lt_iff hwritten (by omega), HasRoom]
    simp only [Framing.step, Chunks.push, List.length_append]
  | receive | accept | finish => exact iff_of_true hwritten hpending

/-- A run from such a state writes in range exactly when there is room at every step. -/
theorem Coupled.run_in_range_iff (hmode : cfg.pclType = 0) {s : DriverState F} {m : Framing F}
    (h : Coupled s m) (hwritten : ∀ i ∈ s.store.written, i < maxPointCloudNum)
    (hpending : m.points.pending.length ≤ maxPointCloudNum) (steps : List (ThreadStep F)) :
    (∀ i ∈ (steps.foldl (Hesai.step cfg) s).store.written, i < maxPointCloudNum) ↔
      EachStep (Framing.step cfg) (HasRoom cfg) m steps := by
  induction steps generalizing s m with
  | nil => exact iff_of_true hwritten trivial
  | cons e steps ih =>
    have hnow := h.step_in_range_iff hmode hwritten hpending e
    have hnext := h.step hmode e
    constructor
    · intro hall
      -- the stores of this step are among those of the run
      have hstep : ∀ i ∈ (Hesai.step cfg s e).store.written, i < maxPointCloudNum :=
        fun i hi => hall i ((hnext.written_prefix hmode steps).subset hi)
      have hroom := hnow.mp hstep
      exact ⟨hroom, (ih hnext hstep hroom).mp hall⟩
    · rintro ⟨hroom, hrest⟩
      exact (ih hnext (hnow.mpr hroom) hroom).mpr hrest

/-- In unstructured mode every store is inside `PointCloud` exactly when never more
    than `1000000` right returns arrive between two frame cuts. -/
theorem stores_in_range_iff (cfg : Config F) (calib : Calibration F)
    (packets : List (PandarPacket F)) (hmode : cfg.pclType = 0) :
    (∀ i ∈ (run cfg (DriverState.init calib) packets).store.written, i < maxPointCloudNum) ↔
      EachStep (Framing.step cfg) (HasRoom cfg) Framing.init
        (packetsSteps cfg calib packets) := by
  rw [run_init_eq_steps]
  exact (coupled_init calib).run_in_range_iff hmode
    (fun i hi => absurd hi List.not_mem_nil) (Nat.zero_le _) _

/-- A packet of the launched lidar, all of whose stores are in range. -/
theorem stores_in_range_iff_launch :
    let packets := [xt16Packet (fun block => 100 * block) (fun _ => 1000)]
    (∀ i ∈ (run launchConfig (DriverState.init Calibration.zero) packets).store.written,
        i < maxPointCloudNum) ↔
      EachStep (Framing.step launchConfig) (HasRoom launchConfig) Framing.init
        (packetsSteps launchConfig Calibration.zero packets) :=
  stores_in_range_iff launchConfig Calibration.zero _ rfl

/-! ## Runs that are defined -/

/-- Without structure the cells are counted. -/
theorem Coupled.defined_iff (hmode : cfg.pclType = 0) {s : DriverState F} {m : Framing F}
    (h : Coupled s m) (hs : s.store.Defined cfg) (steps : List (ThreadStep F)) :
    (steps.foldl (Hesai.step cfg) s).store.Defined cfg ↔
      EachStep (Hesai.step cfg) (HasCells cfg) s steps := by
  have hindex := hs.index
  rw [h.index, maxIndex_unstructured hmode] at hindex
  have hrange := h.run_in_range_iff hmode hs.written hindex steps
  rw [h.eachStep_hasCells_iff hmode, ← hrange]
  refine ⟨PointStore.Defined.written, fun hwritten => ⟨hwritten, ?_⟩⟩
  -- with room at every step the index is in range at the end
  exact ((h.eachStep_hasCells_iff hmode steps).mpr (hrange.mp hwritten)).inv
    (P := fun s => s.store.iPointCloudIndex ≤ cfg.maxIndex) hs.index fun _ _ _ hcells => hcells

/-- With structure no cell is written, and the index never goes back. -/
theorem step_structured (hmode : cfg.pclType ≠ 0) (s : DriverState F) (e : ThreadStep F) :
    (Hesai.step cfg s e).store.written = s.store.written ∧
      s.store.iPointCloudIndex ≤ (Hesai.step cfg s e).store.iPointCloudIndex := by
  cases e with
  | block laserNumber azimuth isQT points =>
    obtain ⟨hwritten, hindex⟩ := step_block_structured cfg laserNumber s hmode azimuth isQT points
    exact ⟨hwritten, by rw [hindex]; exact Nat.le_add_right _ _⟩
  | receive | accept | finish => exact ⟨rfl, Nat.le_refl _⟩

/-- So a run is defined as far as its end is. -/
theorem defined_structured_iff (hmode : cfg.pclType ≠ 0) {s : DriverState F}
    (hs : s.store.Defined cfg) (steps : List (ThreadStep F)) :
    (steps.foldl (Hesai.step cfg) s).store.Defined cfg ↔
      EachStep (Hesai.step cfg) (HasCells cfg) s steps := by
  have hgrows : ∀ (steps : List (ThreadStep F)) (s : DriverState F),
      s.store.iPointCloudIndex ≤ (steps.foldl (Hesai.step cfg) s).store.iPointCloudIndex := by
    intro steps s
    exact inv (P := fun t => s.store.iPointCloudIndex ≤ t.store.iPointCloudIndex) steps
      (Nat.le_refl _) fun t e h => Nat.le_trans h (step_structured hmode t e).2
  induction steps generalizing s with
  | nil => exact iff_of_true hs trivial
  | cons e steps ih =>
    have hnext : HasCells cfg s e → (Hesai.step cfg s e).store.Defined cfg := fun hcells =>
      ⟨(step_structured hmode s e).1 ▸ hs.written, hcells⟩
    constructor
    · intro hend
      have hcells : HasCells cfg s e := Nat.le_trans (hgrows steps _) hend.index
      exact ⟨hcells, (ih (hnext hcells)).mp hend⟩
    · rintro ⟨hcells, hrest⟩
      exact (ih (hnext hcells)).mpr hrest

/-- A run from program start is defined exactly if the index is in range at each step. -/
theorem run_defined_iff (cfg : Config F) (calib : Calibration F)
    (packets : List (PandarPacket F)) :
    (run cfg (DriverState.init calib) packets).store.Defined cfg ↔
      EachStep (step cfg) (HasCells cfg) (DriverState.init calib)
        (packetsSteps cfg calib packets) := by
  rw [run_init_eq_steps]
  by_cases hmode : cfg.pclType = 0
  · exact (coupled_init calib).defined_iff hmode (defined_init cfg calib) _
  · exact defined_structured_iff hmode (defined_init cfg calib) _

/-- The run is defined: its packets can be processed, no store was past the end of `PointCloud`,
    and the index is in range. -/
structure RunDefined (cfg : Config F) (calib : Calibration F) (packets : List (PandarPacket F)) :
    Prop where
  processed : ∀ packet ∈ packets, PacketDefined cfg calib packet
  store : (run cfg (DriverState.init calib) packets).store.Defined cfg

theorem runDefined_iff {cfg : Config F} {calib : Calibration F} {packets : List (PandarPacket F)} :
    RunDefined cfg calib packets ↔
      (∀ packet ∈ packets, PacketDefined cfg calib packet) ∧
        EachStep (step cfg) (HasCells cfg) (DriverState.init calib)
          (packetsSteps cfg calib packets) := by
  rw [← run_defined_iff]
  exact ⟨fun h => ⟨h.processed, h.store⟩, fun ⟨hpackets, hstore⟩ => ⟨hpackets, hstore⟩⟩

/-! ## A lidar that stands still -/

/-- A packet of a lidar that stands still at azimuth `0`: 128 right returns. -/
def stillPacket : PandarPacket Rat := xt16Packet (fun _ => 0) (fun _ => 1000)

/-- The points of `n` such packets. -/
private theorem length_points_still (n : Nat) :
    ((List.replicate n stillPacket).flatMap
      (packetPoints launchConfig Calibration.zero)).length = n * 128 := by
  induction n with
  | zero => rfl
  | succ n ih =>
    have hone : (packetPoints launchConfig Calibration.zero stillPacket).length = 128 := by
      decide +kernel
    rw [List.replicate_succ, List.flatMap_cons, List.length_append, ih, hone]
    omega

/-- The steps of such packets never move the azimuth. -/
private theorem keepsAzimuth_still (n : Nat) :
    ∀ e ∈ packetsSteps launchConfig Calibration.zero (List.replicate n stillPacket),
      e.keepsAzimuth 0 = true := by
  intro e he
  obtain ⟨packet, hpacket, he⟩ := List.mem_flatMap.mp he
  rw [List.eq_of_mem_replicate hpacket] at he
  have hall : (packetSteps launchConfig Calibration.zero stillPacket).all
      (·.keepsAzimuth 0) = true := by decide +kernel
  exact List.all_eq_true.mp hall e he

/-- Enough of them and a store is out of range. -/
private theorem still_out_of_range {n : Nat} (hn : maxPointCloudNum < n * 128) :
    ¬ ∀ i ∈ (run launchConfig (DriverState.init Calibration.zero)
      (List.replicate n stillPacket)).store.written, i < maxPointCloudNum := by
  intro hrange
  have hmode : launchConfig.pclType = 0 := rfl
  rw [run_init_eq_steps] at hrange
  have hroom := ((coupled_init Calibration.zero).run_in_range_iff hmode
    (fun i hi => absurd hi List.not_mem_nil) (Nat.zero_le _) _).mp hrange
  -- there was room to the end, but the points of all packets are pending there
  have hend := hroom.inv (P := fun m => m.points.pending.length ≤ maxPointCloudNum)
    (Nat.zero_le _) fun _ _ _ h => h
  have hpending := Framing.pending_foldl_constant launchConfig _ Framing.init
    (keepsAzimuth_still n)
  rw [packetsSteps_points] at hpending
  have hlength := congrArg List.length hpending
  rw [List.length_append, length_points_still] at hlength
  exact absurd hn (Nat.not_lt.mpr (Nat.le_trans (by omega) hend))

/-- A lidar that stands still overflows `PointCloud` with packet number `7813`. -/
theorem still_lidar_overflows :
    ¬ ∀ packets : List (PandarPacket Rat),
      (∀ packet ∈ packets, acceptedFits launchConfig packet = true) →
      ∀ i ∈ (run launchConfig (DriverState.init Calibration.zero) packets).store.written,
        i < maxPointCloudNum := by
  intro hclaim
  have haccepted : acceptedFits launchConfig stillPacket = true := by decide +kernel
  have hn : maxPointCloudNum < 7813 * 128 := by decide
  apply still_out_of_range hn
  apply hclaim
  intro packet hpacket
  rwa [List.eq_of_mem_replicate hpacket]

end Hesai
