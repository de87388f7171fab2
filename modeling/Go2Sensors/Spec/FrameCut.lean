import Go2Sensors.ForStd.Circle
import Go2Sensors.Native.Launch
import Go2Sensors.Spec.Definedness

/-!
# Where frames are cut

A frame ends where the rotation of the lidar steps over the start angle
(`StepsOver`). The driver compares azimuths as numbers and takes the gap of a
decreasing azimuth for `0`, so it finds this out exactly when the azimuth does not
pass position `0`, and otherwise only if the start angle lies on the near side
(`CutAgrees`).

## Key results

- `isFrameCut_iff_stepsOver`: the cut test against the rotation
- `frame_cut_correct_iff`: the frames of every run
- `cuts_of_full_turn`: one frame for each turn, where the test agrees
-/

namespace Hesai

open Run Circle

/-! ## The cut test -/

/-- The rotation from azimuth `lastAzimuth` to `azimuth`, of less than six degrees,
    steps over the start angle. -/
def StepsOver (startAngle lastAzimuth azimuth : Nat) : Prop :=
  0 < forward 36000 lastAzimuth azimuth ∧ forward 36000 lastAzimuth azimuth < 600 ∧
    Crosses 36000 lastAzimuth azimuth startAngle

instance (startAngle lastAzimuth azimuth : Nat) :
    Decidable (StepsOver startAngle lastAzimuth azimuth) :=
  inferInstanceAs (Decidable (_ ∧ _))

/-- The azimuth does not pass position `0`, or it does, by less than six degrees and
    with the start angle not above the last azimuth, or by a backward step to below the
    start angle. -/
def CutAgrees (startAngle lastAzimuth azimuth : Nat) : Prop :=
  lastAzimuth ≤ azimuth ∨
    (forward 36000 lastAzimuth azimuth < 600 ∧ startAngle ≤ lastAzimuth) ∨
    (600 ≤ forward 36000 lastAzimuth azimuth ∧ azimuth < startAngle)

variable {startAngle lastAzimuth azimuth : Nat}

/-- The cut test without the gap. -/
theorem isFrameCut_iff :
    isFrameCut startAngle lastAzimuth azimuth = true ↔
      (azimuth < lastAzimuth ∧ startAngle ≤ azimuth) ∨
      (lastAzimuth < startAngle ∧ startAngle ≤ azimuth ∧ azimuth - lastAzimuth < 600) := by
  simp only [isFrameCut, Bool.and_eq_true, Bool.or_eq_true, decide_eq_true_eq, bne_iff_ne, ne_eq]
  split <;> omega

/-- The cut test finds the start angle stepped over exactly where `CutAgrees` holds. -/
theorem isFrameCut_iff_stepsOver (hstart : startAngle < 36000) (hlast : lastAzimuth < 36000)
    (hazimuth : azimuth < 36000) :
    (isFrameCut startAngle lastAzimuth azimuth = true ↔
        StepsOver startAngle lastAzimuth azimuth) ↔
      CutAgrees startAngle lastAzimuth azimuth := by
  rw [isFrameCut_iff, StepsOver, CutAgrees]
  rcases Nat.lt_or_ge azimuth lastAzimuth with hlt | hge
  · -- the azimuth decreases: it passes position `0`, or it is a backward step
    rw [crosses_iff_of_lt hlt hlast hstart, forward_of_lt hlt hlast]
    omega
  · -- the azimuth grows: both tests compare numbers
    rw [crosses_iff_of_le hge hazimuth hstart, forward_of_le hge hazimuth]
    omega

/-! ## Full turns -/

/-- How often the cut test answers `true` along a path of azimuths. -/
def cuts (startAngle : Nat) : List Nat → Nat
  | a :: b :: path =>
    (if isFrameCut startAngle a b = true then 1 else 0) + cuts startAngle (b :: path)
  | _ => 0

/-- Every rotation of the path is forward, of less than six degrees, and the cut test
    agrees with it. -/
def SteadyPath (startAngle : Nat) : List Nat → Prop
  | a :: b :: path =>
    (0 < forward 36000 a b ∧ forward 36000 a b < 600 ∧ CutAgrees startAngle a b) ∧
      SteadyPath startAngle (b :: path)
  | _ => True

/-- On a steady path the cuts are the crossings. -/
theorem cuts_eq_crossings (hstart : startAngle < 36000) (path : List Nat)
    (hpath : ∀ a ∈ path, a < 36000) (hsteady : SteadyPath startAngle path) :
    cuts startAngle path = crossings 36000 startAngle path := by
  induction path with
  | nil => rfl
  | cons a path ih =>
    cases path with
    | nil => rfl
    | cons b path =>
      obtain ⟨⟨hpos, hsmall, hagrees⟩, hrest⟩ := hsteady
      have ha := hpath a List.mem_cons_self
      have hb := hpath b (List.mem_cons_of_mem _ List.mem_cons_self)
      -- on a steady path the gap is never the reason for a `false`
      have hcut := (isFrameCut_iff_stepsOver hstart ha hb).mpr hagrees
      have hcross : isFrameCut startAngle a b = true ↔ Crosses 36000 a b startAngle :=
        hcut.trans ⟨fun h => h.2.2, fun h => ⟨hpos, hsmall, h⟩⟩
      rw [cuts, crossings, ih (fun x hx => hpath x (List.mem_cons_of_mem _ hx)) hrest]
      simp only [hcross]

/-- One full forward turn in steps below six degrees, where the cut test agrees with
    the rotation, cuts one frame. -/
theorem cuts_of_full_turn (hstart : startAngle < 36000) {a : Nat} (path : List Nat)
    (hpath : ∀ b ∈ a :: path, b < 36000) (hsteady : SteadyPath startAngle (a :: path))
    (hclosed : (a :: path).getLast (List.cons_ne_nil _ _) = a)
    (hturn : rotation 36000 (a :: path) = 36000) : cuts startAngle (a :: path) = 1 := by
  rw [cuts_eq_crossings hstart _ hpath hsteady]
  exact crossings_of_full_turn hstart path hpath hclosed hturn

/-! ## The frames of a run -/

variable {F : Type} [CFloat F] {cfg : Config F}

/-- The step emits a frame. -/
def EmitsFrame (cfg : Config F) (s : DriverState F) (e : ThreadStep F) : Prop :=
  (step cfg s e).published.length = s.published.length + 1

instance (cfg : Config F) (s : DriverState F) (e : ThreadStep F) :
    Decidable (EmitsFrame cfg s e) :=
  inferInstanceAs (Decidable (_ = _))

theorem emitsFrame_block_iff (laserNumber : Int) (s : DriverState F) (azimuth : Nat) (isQT : Bool)
    (points : List (PPoint F)) :
    EmitsFrame cfg s (.block laserNumber azimuth isQT points) ↔ emits cfg s azimuth = true := by
  rw [EmitsFrame, step_published]
  cases emits cfg s azimuth <;> simp

/-- Once a point is stored, the block emits a frame exactly when the rotation from the
    previous block steps over the start angle. -/
def FrameCutCorrect (cfg : Config F) (s : DriverState F) (e : ThreadStep F) : Prop :=
  match e with
  | .block _ azimuth _ _ =>
    0 < s.store.iPointCloudIndex →
      (EmitsFrame cfg s e ↔ StepsOver cfg.startAngle s.lastAzimuth azimuth)
  | _ => True

instance (cfg : Config F) (s : DriverState F) :
    (e : ThreadStep F) → Decidable (FrameCutCorrect cfg s e)
  | .block _ _ _ _ => inferInstanceAs (Decidable (_ → _))
  | .receive _ | .accept _ | .finish => isTrue trivial

/-- The condition on a step. -/
def CutCondition (cfg : Config F) (s : DriverState F) (e : ThreadStep F) : Prop :=
  match e with
  | .block _ azimuth _ _ =>
    0 < s.store.iPointCloudIndex → CutAgrees cfg.startAngle s.lastAzimuth azimuth
  | _ => True

/-- The azimuth of a block is below `36000`. -/
def ThreadStep.azimuthBelow (e : ThreadStep F) : Prop :=
  match e with
  | .block _ azimuth _ _ => azimuth < 36000
  | _ => True

theorem step_lastAzimuth_lt {s : DriverState F} {e : ThreadStep F} (hs : s.lastAzimuth < 36000)
    (he : e.azimuthBelow) : (step cfg s e).lastAzimuth < 36000 := by
  cases e with
  | block laserNumber azimuth isQT points =>
    rw [step_block]
    exact he
  | receive | accept | finish => exact hs

/-- The condition decides the frames of a step. -/
theorem frameCutCorrect_iff (hcallback : cfg.pclCallback = true)
    (hstart : cfg.startAngle < 36000) {s : DriverState F} (hs : s.lastAzimuth < 36000)
    {e : ThreadStep F} (he : e.azimuthBelow) :
    FrameCutCorrect cfg s e ↔ CutCondition cfg s e := by
  cases e with
  | block laserNumber azimuth isQT points =>
    simp only [FrameCutCorrect, CutCondition]
    apply imp_congr_right
    intro hstored
    have hcan : canEmit cfg s.store = true := by
      simp [canEmit, hcallback, hstored]
    rw [emitsFrame_block_iff, emits, hcan, Bool.and_true]
    exact isFrameCut_iff_stepsOver hstart hs he
  | receive | accept | finish => exact Iff.rfl

/-- The blocks of an accepted packet have azimuths below `36000`. -/
def AzimuthsBelow (cfg : Config F) (packet : PandarPacket F) : Prop :=
  ∀ pkt, parsePacket cfg packet = some pkt → ∀ block ∈ pkt.blocks, block.azimuth < 36000

/-- The steps of such packets inherit it. -/
theorem packetsSteps_azimuthBelow (calib : Calibration F) {packets : List (PandarPacket F)}
    (hpackets : ∀ packet ∈ packets, AzimuthsBelow cfg packet) :
    ∀ e ∈ packetsSteps cfg calib packets, e.azimuthBelow := by
  intro e he
  cases e with
  | block laserNumber azimuth isQT points =>
    obtain ⟨packet, hpacket, pkt, hparse, block, hblock, -, -, haz, -⟩ :=
      block_mem_packetsSteps he
    subst haz
    exact hpackets packet hpacket pkt hparse block hblock
  | receive | accept | finish => trivial

/-- At every block of every run that is defined, a frame goes out exactly when the lidar has
    stepped over the start angle if and only if the cut test agrees with the rotation
    there. -/
theorem frame_cut_correct_iff (cfg : Config F) (calib : Calibration F)
    (packets : List (PandarPacket F)) (hcallback : cfg.pclCallback = true)
    (hstart : cfg.startAngle < 36000)
    (hpackets : ∀ packet ∈ packets, PacketDefined cfg calib packet ∧ AzimuthsBelow cfg packet)
    (hcells : EachStep (step cfg) (HasCells cfg) (DriverState.init calib)
      (packetsSteps cfg calib packets)) :
    EachStep (step cfg) (fun s e => FrameCutCorrect cfg s e ↔ CutCondition cfg s e)
      (DriverState.init calib) (packetsSteps cfg calib packets) := by
  have hsteps := packetsSteps_azimuthBelow calib fun packet hpacket => (hpackets packet hpacket).2
  -- the test only looks at azimuths, which stay below one turn
  apply hcells.strengthen (P := fun s => s.lastAzimuth < 36000) (Nat.zero_lt_succ _)
  intro s e he hs _
  exact ⟨frameCutCorrect_iff hcallback hstart hs (hsteps e he),
    step_lastAzimuth_lt hs (hsteps e he)⟩

/-- Two packets of the launched lidar: the azimuths of the second are a tenth of a degree
    smaller. -/
def jitterPackets : List (PandarPacket Rat) :=
  [xt16Packet (fun _ => 200) (fun _ => 1000), xt16Packet (fun _ => 190) (fun _ => 1000)]

theorem jitterPackets_below :
    ∀ packet ∈ jitterPackets,
      PacketDefined launchConfig Calibration.zero packet ∧ AzimuthsBelow launchConfig packet := by
  intro packet hpacket
  have hdefined : ∀ packet ∈ jitterPackets,
      PacketDefined launchConfig Calibration.zero packet := by
    decide +kernel
  refine ⟨hdefined packet hpacket, fun pkt hparse => ?_⟩
  have hall : jitterPackets.all (fun packet =>
      ((parsePacket launchConfig packet).map fun pkt =>
        pkt.blocks.all (·.azimuth < 36000)).getD true) = true := by decide +kernel
  have hone := List.all_eq_true.mp hall packet hpacket
  simpa [hparse] using hone

/-- The two packets meet the assumptions. -/
theorem frame_cut_correct_iff_jitter :
    EachStep (step launchConfig)
      (fun s e => FrameCutCorrect launchConfig s e ↔ CutCondition launchConfig s e)
      (DriverState.init Calibration.zero)
      (packetsSteps launchConfig Calibration.zero jitterPackets) :=
  frame_cut_correct_iff launchConfig Calibration.zero jitterPackets rfl (by decide)
    jitterPackets_below (by decide +kernel)

/-- A backward step of a tenth of a degree emits a frame. -/
theorem jitter_emits_frame :
    ¬ ∀ packets : List (PandarPacket Rat),
      (∀ packet ∈ packets, acceptedFits launchConfig packet = true) →
      (∀ packet ∈ packets, AzimuthsBelow launchConfig packet) →
      EachStep (step launchConfig) (HasCells launchConfig) (DriverState.init Calibration.zero)
        (packetsSteps launchConfig Calibration.zero packets) →
      EachStep (step launchConfig) (FrameCutCorrect launchConfig)
        (DriverState.init Calibration.zero)
        (packetsSteps launchConfig Calibration.zero packets) := by
  intro hclaim
  have haccepted : ∀ packet ∈ jitterPackets, acceptedFits launchConfig packet = true := by
    decide +kernel
  have hcorrect := hclaim jitterPackets haccepted
    (fun packet hpacket => (jitterPackets_below packet hpacket).2) (by decide +kernel)
  exact absurd hcorrect (by decide +kernel)

end Hesai
