import Go2Sensors.Spec.Live
import Go2Sensors.Spec.QtCorrection

/-!
# Points at their measured distance

A point of a published cloud is a right return of a packet of the ring. In exact arithmetic,
and without coordinate correction, it is as far from the lidar as was measured, whatever
calibrations are loaded and whenever: a calibration only turns the beams.

## Key results

- `AllPoints.instanceStep`: what holds of all points of the blocks holds of all points
- `published_points_measured`: where the points of all clouds of a run come from
-/

namespace Hesai

open Run
open CFloat (ofRat toInt)

/-! ## All points of an object -/

section

variable {F : Type} [CFloat F]

/-- All points that an object holds, or has published, satisfy `P`. -/
structure AllPoints (cfg : Config F) (P : PPoint F → Prop) (s : DriverState F) : Prop where
  room : cfg.pclType = 0 → s.store.iPointCloudIndex ≤ maxPointCloudNum
  cells : cfg.pclType = 0 → ∀ p ∈ s.store.pending, P p
  rings : cfg.pclType ≠ 0 → ∀ j, ∀ p ∈ s.store.pointCloudList j, P p
  cloud : cfg.pclType ≠ 0 → ∀ p ∈ s.outMsg.points, P p
  published : ∀ f ∈ s.published, ∀ p ∈ f.cloud.points, P p

variable {cfg : Config F} {P Q : PPoint F → Prop} {s : DriverState F}

omit [CFloat F] in
theorem AllPoints.mono (h : AllPoints cfg P s) (himp : ∀ p, P p → Q p) : AllPoints cfg Q s where
  room := h.room
  cells hmode p hp := himp p (h.cells hmode p hp)
  rings hmode j p hp := himp p (h.rings hmode j p hp)
  cloud hmode p hp := himp p (h.cloud hmode p hp)
  published f hf p hp := himp p (h.published f hf p hp)

/-- The points of the frame that goes out. -/
theorem AllPoints.emittedFrame (h : AllPoints cfg P s) (laserNumber : Int) :
    ∀ p ∈ (Hesai.emittedFrame cfg laserNumber s).cloud.points, P p := by
  intro p hp
  by_cases hmode : cfg.pclType = 0
  · -- the pending points
    rw [emittedFrame_unstructured cfg _ _ hmode] at hp
    exact h.cells hmode p hp
  · rw [emittedFrame_structured cfg _ _ hmode, foldl_pushBack] at hp
    -- the cloud before the frame, and the points of all rings
    split at hp
    · exact h.cloud hmode p hp
    · rcases List.mem_append.mp hp with hcloud | hrings
      · exact h.cloud hmode p hcloud
      · obtain ⟨j, -, hring⟩ := List.mem_flatMap.mp hrings
        exact h.rings hmode j p hring

/-- The emission of a frame. -/
theorem AllPoints.cutFrame (h : AllPoints cfg P s) (laserNumber : Int) :
    AllPoints cfg P (Hesai.cutFrame cfg laserNumber s) := by
  have hframe := h.emittedFrame laserNumber
  cases hemit : canEmit cfg s.store with
  | false => rwa [cutFrame_of_not_canEmit hemit]
  | true =>
    have hpublished : ∀ f ∈ (Hesai.cutFrame cfg laserNumber s).published,
        ∀ p ∈ f.cloud.points, P p := by
      intro f hf p hp
      rw [(cutFrame_published hemit).1] at hf
      rcases List.mem_append.mp hf with hold | hnew
      · exact h.published f hold p hp
      · rw [List.mem_singleton.mp hnew] at hp
        exact hframe p hp
    -- nothing is pending afterwards, or the rings are empty
    by_cases hmode : cfg.pclType = 0
    · refine ⟨fun _ => ?_, fun _ p hp => ?_, fun h0 => absurd hmode h0, fun h0 => absurd hmode h0,
        hpublished⟩
      · rw [cutFrame_unstructured hmode hemit]
        exact Nat.zero_le _
      · rw [cutFrame_unstructured hmode hemit] at hp
        exact absurd hp List.not_mem_nil
    · refine ⟨fun h0 => absurd h0 hmode, fun h0 => absurd h0 hmode, fun _ j p hp => ?_,
        fun _ p hp => ?_, hpublished⟩
      · rw [cutFrame_ring_structured hmode hemit] at hp
        split at hp
        · exact absurd hp List.not_mem_nil
        · exact h.rings hmode j p hp
      · rw [cutFrame_structured hmode hemit] at hp
        dsimp only at hp
        split at hp
        · exact hframe p hp
        · exact absurd hp List.not_mem_nil

/-- A step adds the points of its block, if it is one. -/
theorem AllPoints.instanceStep (h : AllPoints cfg P s) {e : InstanceStep F}
    (hblock : ∀ pkt blockid azimuth, e = .block pkt blockid azimuth →
      ∀ p ∈ blockPoints cfg s.calibration s.dPktTimestamp blockid pkt, P p)
    (hroom : cfg.pclType = 0 →
      (Hesai.instanceStep cfg s e).store.iPointCloudIndex ≤ maxPointCloudNum) :
    AllPoints cfg P (Hesai.instanceStep cfg s e) := by
  cases e with
  | take packet => exact ⟨h.room, h.cells, h.rings, h.cloud, h.published⟩
  | keep packet => exact ⟨h.room, h.cells, h.rings, h.cloud, h.published⟩
  | finish => exact ⟨h.room, h.cells, h.rings, h.cloud, h.published⟩
  | emission pkt azimuth =>
    simp only [Hesai.instanceStep]
    split
    · exact h.cutFrame pkt.laserNumber
    · exact h
  | block pkt blockid azimuth =>
    have hnew := hblock pkt blockid azimuth rfl
    have hstore : (Hesai.instanceStep cfg s (.block pkt blockid azimuth)).store =
        storeAll cfg.pclType pkt.isQT
          (blockPoints cfg s.calibration s.dPktTimestamp blockid pkt) s.store :=
      calcPoints_eq cfg s.calibration s.dPktTimestamp pkt blockid s.store
    refine ⟨hroom, fun hmode p hp => ?_, fun hmode j p hp => ?_, h.cloud, h.published⟩
    · -- unstructured: they are appended to the pending points
      have hcells := hroom hmode
      rw [hstore, hmode] at hcells hp
      rw [storeAll_index] at hcells
      rw [pending_storeAll _ _ hcells] at hp
      exact (List.mem_append.mp hp).elim (h.cells hmode p) (hnew p)
    · -- structured: each goes to the list of its ring
      rw [hstore, storeAll_ring hmode] at hp
      exact (List.mem_append.mp hp).elim (h.rings hmode j p)
        fun hp => hnew p (List.mem_of_mem_filter hp)

/-- A point of a block is a right return of it. -/
theorem exists_unit_of_mem_blockPoints {calib : Calibration F} {stamp : F} {blockid : Nat}
    {pkt : ParsedPacket} {p : PPoint F} (h : p ∈ blockPoints cfg calib stamp blockid pkt) :
    ∃ unit, unit = (pkt.blocks.getD blockid default).units.getD p.ring default ∧
      unit.isWrong = false ∧ p.intensity = unit.intensity := by
  have hunits : ∀ (laserNumber : Int) (block : LidarBlock) (point : Nat → LidarUnit → PPoint F),
      (∀ i unit, (point i unit).ring = i ∧ (point i unit).intensity = unit.intensity) →
      p ∈ unitPoints laserNumber block point →
      ∃ unit, unit = block.units.getD p.ring default ∧ unit.isWrong = false ∧
        p.intensity = unit.intensity := by
    intro laserNumber block point hpoint hp
    -- the ring of a point is the index of its unit
    obtain ⟨i, -, hright, rfl⟩ := mem_unitPoints.mp hp
    obtain ⟨hring, hintensity⟩ := hpoint i (block.units.getD i default)
    exact ⟨block.units.getD i default, by rw [hring], hright, hintensity⟩
  cases pkt <;> exact hunits _ _ _ (fun _ _ => ⟨rfl, rfl⟩) h

end

/-! ## Distances -/

/-- The sine and cosine of an angle. -/
def OnCircle (sin cos : ℝ) : Prop := sin ^ 2 + cos ^ 2 = 1

/-- The tables that are indexed by an azimuth hold sines and cosines. -/
def Tables.OnCircle (tables : Tables ℝ) : Prop :=
  ∀ k, Hesai.OnCircle (tables.sinAzimuthMap k) (tables.cosAzimuthMap k)

/-- The first `n` lasers have the sines and cosines of their elevations. -/
def Calibration.OnCircle (calib : Calibration ℝ) (n : Nat) : Prop :=
  ∀ i < n, Hesai.OnCircle (calib.sinElevationMap i) (calib.cosElevationMap i)

/-- `sinf` and `cosf` are the ones of an angle. -/
def LoadEnv.OnCircle (env : LoadEnv ℝ) : Prop :=
  ∀ x, Hesai.OnCircle (env.sinDegree x) (env.cosDegree x)

/-- The distance from the lidar, squared. -/
def Xyz.distanceSq (p : Xyz ℝ) : ℝ := p.x ^ 2 + p.y ^ 2 + p.z ^ 2

variable {cfg : Config ℝ} {calib : Calibration ℝ}

theorem distanceSq_calcXYZ {tables : Tables ℝ} {i : Nat} {azimuth : Int}
    (hazimuth : OnCircle (tables.sinAzimuthMap azimuth) (tables.cosAzimuthMap azimuth))
    (helevation : OnCircle (calib.sinElevationMap i) (calib.cosElevationMap i)) (distance : Rat) :
    (calcXYZ tables calib i azimuth distance).distanceSq = (distance : ℝ) ^ 2 := by
  unfold OnCircle at hazimuth helevation
  show (distance * calib.cosElevationMap i * tables.sinAzimuthMap azimuth) ^ 2 +
      (distance * calib.cosElevationMap i * tables.cosAzimuthMap azimuth) ^ 2 +
        (distance * calib.sinElevationMap i) ^ 2 = (distance : ℝ) ^ 2
  linear_combination (distance * calib.cosElevationMap i) ^ 2 * hazimuth +
    (distance : ℝ) ^ 2 * helevation

theorem distanceSq_calcXTXYZ (hflag : cfg.coordinateCorrectionFlag = false) {i : Nat}
    {azimuth : Int}
    (hazimuth : OnCircle (cfg.tables.sinAzimuthMap azimuth) (cfg.tables.cosAzimuthMap azimuth))
    (helevation : OnCircle (calib.sinElevationMap i) (calib.cosElevationMap i)) (distance : Rat) :
    (calcXTXYZ cfg calib i azimuth distance).distanceSq = (distance : ℝ) ^ 2 := by
  unfold OnCircle at hazimuth helevation
  -- the axes are turned, which keeps the distance
  have hxyz : calcXTXYZ cfg calib i azimuth distance =
      { x := -(distance * calib.cosElevationMap i * cfg.tables.cosAzimuthMap azimuth)
        y := distance * calib.cosElevationMap i * cfg.tables.sinAzimuthMap azimuth
        z := distance * calib.sinElevationMap i } := by
    simp only [calcXTXYZ, hflag]
    rfl
  rw [hxyz]
  show (-(distance * calib.cosElevationMap i * cfg.tables.cosAzimuthMap azimuth)) ^ 2 +
      (distance * calib.cosElevationMap i * cfg.tables.sinAzimuthMap azimuth) ^ 2 +
        (distance * calib.sinElevationMap i) ^ 2 = (distance : ℝ) ^ 2
  linear_combination (distance * calib.cosElevationMap i) ^ 2 * hazimuth +
    (distance : ℝ) ^ 2 * helevation

/-- The points of a block are as far away as was measured. -/
theorem distanceSq_blockPoints (hflag : cfg.coordinateCorrectionFlag = false)
    (htables : cfg.tables.OnCircle) {n : Nat} (hcalib : calib.OnCircle n) {stamp : ℝ}
    {blockid : Nat} {pkt : ParsedPacket} {p : PPoint ℝ}
    (h : p ∈ blockPoints cfg calib stamp blockid pkt) (hring : p.ring < n) :
    p.x ^ 2 + p.y ^ 2 + p.z ^ 2 =
      (((pkt.blocks.getD blockid default).units.getD p.ring default).distance : ℝ) ^ 2 := by
  have hunits : ∀ (laserNumber : Int) (block : LidarBlock) (xyz : Nat → Int → Rat → Xyz ℝ)
      (timestamp : Nat → ℝ),
      (∀ i < n, ∀ azimuth distance, (xyz i azimuth distance).distanceSq = (distance : ℝ) ^ 2) →
      p ∈ unitPoints laserNumber block (fun i unit =>
        makePoint (xyz i) calib block.azimuth (timestamp i) i unit) →
      p.x ^ 2 + p.y ^ 2 + p.z ^ 2 = ((block.units.getD p.ring default).distance : ℝ) ^ 2 := by
    intro laserNumber block xyz timestamp hxyz hp
    obtain ⟨i, -, -, rfl⟩ := mem_unitPoints.mp hp
    exact hxyz i hring _ _
  -- three families have no correction
  have hplain : ∀ i < n, ∀ azimuth distance,
      (calcXYZ cfg.tables calib i azimuth distance).distanceSq = (distance : ℝ) ^ 2 :=
    fun i hi azimuth distance => distanceSq_calcXYZ (htables azimuth) (hcalib i hi) distance
  cases pkt with
  | pandar40P pkt => exact hunits _ _ _ _ hplain h
  | l64 pkt => exact hunits _ _ _ _ hplain h
  | l20 pkt => exact hunits _ _ _ _ hplain h
  | qt pkt =>
    refine hunits _ _ (calcQTXYZ cfg calib) _ (fun i hi azimuth distance => ?_) h
    -- without the correction a QT is like the others
    rw [calcQTXYZ, hflag]
    exact hplain i hi azimuth distance
  | xt pkt =>
    exact hunits _ _ (calcXTXYZ cfg calib) _ (fun i hi azimuth distance =>
      distanceSq_calcXTXYZ hflag (htables azimuth) (hcalib i hi) distance) h

/-! ## Calibrations that are loaded -/

variable {env : LoadEnv ℝ} {n : Nat}

/-- Whatever the text is, the elevations that are loaded have their sines and cosines. -/
theorem onCircle_loadCorrectionFile (henv : env.OnCircle) {tables : CalibrationTables ℝ}
    (h : tables.OnCircle n) (content : List Char) :
    (loadCorrectionFile env tables content).tables.OnCircle n := by
  intro i hi
  simp only [loadCorrectionFile, copyRows]
  -- a row of the text, or a laser that keeps its elevation
  split
  · exact henv _
  · exact h i hi

theorem onCircle_pushCorrection (henv : env.OnCircle) {memory : List UInt8}
    {localFile : LocalFile} {s s' : CorrectionState ℝ} {msg : PandarPacketMsg}
    (h : s.tables.OnCircle n) (hpush : pushCorrection env memory localFile s msg = some s') :
    s'.tables.OnCircle n := by
  -- what was found in the messages
  have hpacket : ∀ {s' : CorrectionState ℝ}, loadFromPacket env memory s msg = some s' →
      s'.tables.OnCircle n := by
    intro s' hload
    unfold loadFromPacket at hload
    split at hload
    · dsimp only at hload
      split at hload
      · split at hload
        · exact absurd hload (Option.some_ne_none _).symm
        · rw [← Option.some.inj hload]
          exact onCircle_loadCorrectionFile henv h _
      · rwa [← Option.some.inj hload]
    · exact absurd hload (Option.some_ne_none _).symm
  unfold pushCorrection at hpush
  split at hpush
  · rwa [← Option.some.inj hpush]
  · obtain ⟨s₁, hload, rfl⟩ := Option.map_eq_some_iff.mp hpush
    split
    · exact hpacket hload
    · -- nothing was loaded, and the local file is tried
      cases localFile with
      | none =>
        have hs₁ : s₁.tables.OnCircle n := hpacket hload
        exact hs₁
      | some file => exact onCircle_loadCorrectionFile henv (hpacket hload) _

theorem onCircle_getCalibrationFromDevice (henv : env.OnCircle) {s : CorrectionState ℝ}
    (h : s.tables.OnCircle n) (localFile : LocalFile) (result : CallResult) :
    (getCalibrationFromDevice env localFile result s).tables.OnCircle n := by
  unfold getCalibrationFromDevice
  cases result.buffer with
  | none =>
    -- the call has failed
    dsimp only
    split
    · exact h
    · cases localFile with
      | none => exact h
      | some file => exact onCircle_loadCorrectionFile henv h _
  | some buffer =>
    -- the text from the lidar is loaded, and after it a local file
    dsimp only
    split
    · split
      · exact onCircle_loadCorrectionFile henv h _
      · cases localFile with
        | none => exact onCircle_loadCorrectionFile henv h _
        | some file =>
          exact onCircle_loadCorrectionFile henv (onCircle_loadCorrectionFile henv h _) _
    · split
      · exact h
      · cases localFile with
        | none => exact h
        | some file => exact onCircle_loadCorrectionFile henv h _

/-- No step loads anything else. -/
theorem onCircle_liveStep (henv : env.OnCircle) {s : ReplayState ℝ}
    (h : s.correction.tables.OnCircle n) (op : LiveOp ℝ) :
    (liveStep cfg env s op).correction.tables.OnCircle n := by
  cases op with
  | push stale memory =>
    simp only [liveStep, replayPush]
    -- messages that bring a calibration
    split
    · exact h
    · split
      · exact h
      · split
        · rename_i hpush
          exact onCircle_pushCorrection henv h hpush
        · exact h
      · exact h
  | calibrate localFile result => exact onCircle_getCalibrationFromDevice henv h localFile result
  | receive | capture | process =>
    rw [liveStep_correction cfg env s rfl]
    exact h

/-! ## Runs -/

/-- The point is a right return of one of the packets, and if it is from one of the first `n`
    lasers it is at the measured distance. -/
def Measured (cfg : Config ℝ) (n : Nat) (packets : List (PandarPacket ℝ)) (p : PPoint ℝ) :
    Prop :=
  ∃ packet ∈ packets, ∃ pkt, parsePacket cfg packet = some pkt ∧
    ∃ block ∈ pkt.blocks, ∃ unit, unit = block.units.getD p.ring default ∧
      unit.isWrong = false ∧ p.intensity = unit.intensity ∧
      (p.ring < n → p.x ^ 2 + p.y ^ 2 + p.z ^ 2 = (unit.distance : ℝ) ^ 2)

/-- Where the points of an instance come from. -/
structure MeasuredInv (cfg : Config ℝ) (calib : Calibration ℝ) (n : Nat) (s : ReplayState ℝ) :
    Prop where
  live : LiveInv cfg calib SameButXyz s
  circle : s.correction.tables.OnCircle n
  points : AllPoints cfg (Measured cfg n s.ring.issued) s.driver

variable {s : ReplayState ℝ}

/-- A step of the thread. -/
theorem MeasuredInv.points_process (h : MeasuredInv cfg calib n s)
    (hflag : cfg.coordinateCorrectionFlag = false) (htables : cfg.tables.OnCircle)
    (hdefined : ThreadDefined cfg s) :
    AllPoints cfg (Measured cfg n s.ring.issued) (replayProcess cfg s).driver := by
  have hpoints := h.points
  unfold replayProcess
  cases hturn : s.turn with
  | nil => exact hpoints
  | cons e turn =>
    have hindex := (hdefined.step e (by rw [hturn]; rfl)).index
    -- the tables of the turn are those that are loaded now
    have hsame : AllPoints cfg (Measured cfg n s.ring.issued)
        { s.driver with calibration := s.correction.tables.toCalibration } :=
      ⟨hpoints.room, hpoints.cells, hpoints.rings, hpoints.cloud, hpoints.published⟩
    refine hsame.instanceStep ?_ fun hmode => maxIndex_unstructured hmode ▸ hindex
    rintro pkt blockid azimuth rfl p hp
    -- the block is one of a packet that was moved out of the ring
    obtain ⟨e, he, rfl⟩ := h.live.thread.exists_of_mem (hturn ▸ List.mem_cons_self)
    obtain ⟨packet, hpacket, he⟩ := List.mem_flatMap.mp he
    obtain ⟨hparse, hlt⟩ := parsePacket_of_mem_turnSteps he
    have hblock : pkt.blocks.getD blockid default ∈ pkt.blocks := by
      rw [List.getD_eq_getElem?_getD, List.getElem?_eq_getElem hlt]
      exact List.getElem_mem hlt
    obtain ⟨unit, rfl, hright, hintensity⟩ := exists_unit_of_mem_blockPoints hp
    exact ⟨packet, List.mem_of_mem_take hpacket, pkt, hparse, _, hblock, _, rfl, hright, hintensity,
      distanceSq_blockPoints hflag htables h.circle hp⟩

theorem MeasuredInv.step (h : MeasuredInv cfg calib n s)
    (hflag : cfg.coordinateCorrectionFlag = false) (htables : cfg.tables.OnCircle)
    (henv : env.OnCircle) {op : LiveOp ℝ} (hok : LiveOk cfg env s op) :
    MeasuredInv cfg calib n (liveStep cfg env s op) := by
  refine ⟨h.live.step_withoutXyz hok, onCircle_liveStep henv h.circle op, ?_⟩
  by_cases hop : op = .process
  · -- a step of the thread
    subst hop
    show AllPoints cfg (Measured cfg n (replayProcess cfg s).ring.issued) _
    rw [(replayProcess_ring cfg s).1]
    exact h.points_process hflag htables (hok.thread rfl)
  · -- any other step only adds packets to the ring
    obtain ⟨hring, -, hdriver⟩ := liveStep_other cfg env s hop
    have hissued : ∀ packet ∈ s.ring.issued, packet ∈ (liveStep cfg env s op).ring.issued := by
      intro packet hpacket
      rw [hring]
      cases op.input s with
      | pushed pkt => exact List.mem_append_left [pkt] hpacket
      | nothing | undefined => exact hpacket
    rw [hdriver]
    refine h.points.mono ?_
    rintro p ⟨packet, hpacket, hrest⟩
    exact ⟨packet, hissued packet hpacket, hrest⟩

/-- In every run of an instance without coordinate correction whose steps are defined, with
    calibrations from anywhere loaded between any two of them, every point of every cloud is a
    right return of a packet of the ring, and as far from the lidar as was measured. -/
theorem published_points_measured (cfg : Config ℝ) (env : LoadEnv ℝ)
    (tables : CalibrationTables ℝ) (messages : List PandarPacketMsg) (n : Nat)
    (ops : List (LiveOp ℝ)) (hflag : cfg.coordinateCorrectionFlag = false)
    (htables : cfg.tables.OnCircle) (henv : env.OnCircle) (hcalib : tables.OnCircle n)
    (hops : EachStep (liveStep cfg env) (LiveOk cfg env) (ReplayState.init tables messages) ops) :
    let s := ops.foldl (liveStep cfg env) (ReplayState.init tables messages)
    ∀ f ∈ s.driver.published, ∀ p ∈ f.cloud.points, Measured cfg n s.ring.issued p := by
  -- nothing is stored or published at the start
  have hinit : MeasuredInv cfg tables.toCalibration n (ReplayState.init tables messages) := by
    refine ⟨liveInv_init ⟨rfl, rfl, rfl, rfl, rfl, rfl⟩, hcalib, fun _ => Nat.zero_le _, ?_, ?_, ?_,
      ?_⟩
    · exact fun _ p hp => absurd hp List.not_mem_nil
    · exact fun _ j p hp => absurd hp List.not_mem_nil
    · exact fun _ p hp => absurd hp List.not_mem_nil
    · exact fun f hf => absurd hf List.not_mem_nil
  exact (hops.inv hinit fun _ _ h hok => h.step hflag htables henv hok).points.published

/-! ## An instance in exact arithmetic -/

/-- The launched lidar, in structured mode. -/
noncomputable def exactConfig : Config ℝ where
  charSigned := true
  pclCallback := true
  startAngle := 0
  pclType := 1
  lidarType := "PandarXT-16"
  frameId := "rslidar"
  timestampType := "realtime"
  coordinateCorrectionFlag := false
  tzSecond := 0
  mktime := fun _ => 0
  tables := Tables.exact

noncomputable def exactTables : CalibrationTables ℝ :=
  initCalibration LoadEnv.exact ⟨⟨fun _ => 0, fun _ => 0, fun _ => 0, fun _ => 0⟩, 0⟩
    exactConfig.lidarType

/-- The arithmetic is exact. -/
instance : CFloat.Accurate ℝ where
  toInt_hundredths q _ := by
    have herror : |((toInt ((q : ℝ) * (100 : Rat)) : Int) : ℝ) - (q : ℝ) * (100 : Rat)| < 1 :=
      abs_trunc_sub_lt _
    show |((toInt ((q : ℝ) * (100 : Rat)) : Int) : Rat) - 100 * q| < 2
    generalize toInt ((q : ℝ) * (100 : Rat)) = k at herror ⊢
    rw [mul_comm 100 q]
    exact lt_trans (by exact_mod_cast herror) (by norm_num : (1 : Rat) < 2)
  toInt_hundredths_add q n _ _ := by
    have herror : |((toInt ((q : ℝ) * (100 : Rat) + (n : Rat)) : Int) : ℝ) -
        ((q : ℝ) * (100 : Rat) + (n : Rat))| < 1 := abs_trunc_sub_lt _
    show |((toInt ((q : ℝ) * (100 : Rat) + (n : Rat)) : Int) : Rat) - (100 * q + n)| < 2
    generalize toInt ((q : ℝ) * (100 : Rat) + (n : Rat)) = k at herror ⊢
    rw [mul_comm 100 q]
    exact lt_trans (by exact_mod_cast herror) (by norm_num : (1 : Rat) < 2)

/-- A text of the sixteen lasers, as bytes. -/
def sixteenRowsText : List UInt8 := sixteenRows.map fun c => UInt8.ofNat c.toNat

/-- Three packets, and a calibration in the first turn. -/
noncomputable def loadedBetween : List (LiveOp ℝ) :=
  (threePackets.map fun packet => .receive 0 (fun _ => 0)
    ⟨1, ⟨true, false, false, false, .datagram (bytes packet.data packet.size)⟩, none⟩) ++
  List.replicate 8 .process ++ [.calibrate none ⟨0, some (sixteenRowsText ++ [0])⟩] ++
  List.replicate 32 .process

/-- The packets that come in have sixteen lasers. -/
theorem usable_of_mem_threePackets : ∀ packet ∈ threePackets,
    ∀ packet' ∈ (LiveOp.receive (0 : ℝ) (fun _ => 0)
      ⟨1, ⟨true, false, false, false, .datagram (bytes packet.data packet.size)⟩, none⟩).packets,
      PacketFits exactConfig packet' ∧
        ∀ pkt ∈ parsePacket exactConfig packet', pkt.laserNumber.toNat ≤ 16 := by
  decide +kernel

theorem cString_sixteenRowsText : cString (sixteenRowsText ++ [0]) [] = sixteenRows := by
  decide +kernel

theorem usable_loadedBetween : ∀ op ∈ loadedBetween, op.Usable exactConfig LoadEnv.exact := by
  intro op hop
  simp only [loadedBetween, List.mem_append, List.mem_map, List.mem_replicate,
    List.mem_singleton] at hop
  rcases hop with ((⟨packet, hpacket, rfl⟩ | ⟨-, rfl⟩) | rfl) | ⟨-, rfl⟩
  · refine LiveOp.usable_of_quiet rfl (receive_defined 0 _ _) fun packet' hpacket' => ?_
    obtain ⟨hfits, hlasers⟩ := usable_of_mem_threePackets packet hpacket packet' hpacket'
    exact packetUsable_of_laserNumber hfits hlasers
  · -- turns before the calibration
    exact LiveOp.usable_process
  · refine ⟨fun _ => by simp [LiveOp.input], fun _ _ h => absurd h List.not_mem_nil,
      fun s _ => ?_⟩
    -- the text has a row for each laser, and no other rows
    show TablesUsable exactConfig (loadCorrectionFile LoadEnv.exact s.correction.tables
      (cString (sixteenRowsText ++ [0]) [])).tables
    rw [cString_sixteenRowsText]
    refine ⟨TablesOk.load (loadsLasers_sixteenRows exactConfig LoadEnv.exact) _, ?_⟩
    obtain ⟨hlength, hnumbered, -⟩ := numbered_sixteenRows LoadEnv.exact
    have hcounter := (foldRows_of_numbered LoadEnv.exact _
      ⟨0, LoadEnv.exact.elevAngle, LoadEnv.exact.azimuthOffset, []⟩ hnumbered).2.1
    rw [hlength] at hcounter
    rw [loadCorrectionFile_eq]
    exact hcounter.trans_le (by decide)
  · exact LiveOp.usable_process

theorem published_points_measured_loadedBetween :
    let s := loadedBetween.foldl (liveStep exactConfig LoadEnv.exact)
      (ReplayState.init exactTables [])
    ∀ f ∈ s.driver.published, ∀ p ∈ f.cloud.points, Measured exactConfig 16 s.ring.issued p := by
  have hlength : loadedBetween.length = 44 := rfl
  apply published_points_measured exactConfig LoadEnv.exact exactTables [] 16 loadedBetween rfl
  · exact fun k => Real.sin_sq_add_cos_sq _
  · exact fun x => Real.sin_sq_add_cos_sq _
  · exact fun i hi => (exactAngles_init _ (show i < initLasers exactConfig.lidarType from hi)
      0).elevation
  · refine ((usable_init exactConfig LoadEnv.exact _ []).run usable_loadedBetween ?_ ?_).1
    · rw [hlength]
      decide
    · rw [hlength]
      decide +kernel

end Hesai
