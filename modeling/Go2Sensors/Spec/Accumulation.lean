import Go2Sensors.Native.Launch
import Go2Sensors.Spec.Definedness

/-!
# No point and no packet is lost

The points of a run are those of the frame builder. The packet messages go out with
the frames: at every step the messages that went out and those that are pending are
the accepted packets so far, and each scan ends with its only correction packet
(`ScanInv`).

## Key results

- `points_and_packets_conserved`: the points and the packets of every run in
  unstructured mode
-/

namespace Hesai

open Run

variable {F : Type}

/-! ## Packet messages -/

theorem length_bytes (data : Nat → UInt8) (n : Nat) : (bytes data n).length = n := by
  simp [bytes]

/-- A message made by `saveCorrectionFile`: its data is longer than its size, by the
    header of eight bytes. -/
def PandarPacketMsg.isCorrection (msg : PandarPacketMsg) : Bool :=
  msg.data.length = msg.size + 8

variable [CFloat F] {cfg : Config F} {s : DriverState F}

theorem isCorrection_saveCorrectionFile (calib : Calibration F) (laserNumber : Int) :
    (saveCorrectionFile calib laserNumber).isCorrection = true := by
  simp [saveCorrectionFile, PandarPacketMsg.isCorrection]

theorem isCorrection_rawPacket (packet : PandarPacket F) :
    (rawPacket packet).isCorrection = false := by
  simp [rawPacket, PandarPacketMsg.isCorrection, length_bytes]

/-- The raw packet of a step. -/
def ThreadStep.raws : ThreadStep F → List PandarPacketMsg
  | .accept raw => [raw]
  | _ => []

/-- The scan of a frame: raw packets, then one correction packet. -/
def ScanWellFormed (calib : Calibration F) (f : Frame F) : Prop :=
  ∃ raws laserNumber, f.scan = raws ++ [saveCorrectionFile calib laserNumber] ∧
    ∀ msg ∈ raws, msg.isCorrection = false

/-- The raw packets of a scan. -/
def Frame.raws (f : Frame F) : List PandarPacketMsg := f.scan.filter (!·.isCorrection)

/-- The packet messages that went out and those that are pending are `raws`. -/
structure ScanInv (calib : Calibration F) (s : DriverState F) (raws : List PandarPacketMsg) :
    Prop where
  calibration : s.calibration = calib
  all : s.published.flatMap Frame.raws ++ s.scan = raws
  pending : ∀ msg ∈ s.scan, msg.isCorrection = false
  frames : ∀ f ∈ s.published, ScanWellFormed calib f

theorem scanInv_init (calib : Calibration F) :
    ScanInv calib (DriverState.init calib) [] :=
  ⟨rfl, rfl, fun _ h => absurd h List.not_mem_nil, fun _ h => absurd h List.not_mem_nil⟩

/-- The frame that goes out takes the pending raw packets with it. -/
theorem ScanInv.emittedFrame_raws {calib : Calibration F} {raws : List PandarPacketMsg}
    (h : ScanInv calib s raws) (laserNumber : Int) :
    (emittedFrame cfg laserNumber s).raws = s.scan := by
  -- only the message at the end is a correction packet
  have hkeep : s.scan.filter (!·.isCorrection) = s.scan := by
    rw [List.filter_eq_self]
    intro msg hmsg
    rw [h.pending msg hmsg, Bool.not_false]
  simp [Frame.raws, emittedFrame, hkeep, isCorrection_saveCorrectionFile]

variable (cfg)

/-- Every step keeps the messages, in either mode. -/
theorem ScanInv.step {calib : Calibration F} {raws : List PandarPacketMsg}
    (h : ScanInv calib s raws) (e : ThreadStep F)
    (he : ∀ msg ∈ e.raws, msg.isCorrection = false) :
    ScanInv calib (Hesai.step cfg s e) (raws ++ e.raws) := by
  cases e with
  | block laserNumber azimuth isQT points =>
    have hcalib := (step_block_calibration cfg s laserNumber azimuth isQT points).1
    have hpublished := step_published cfg laserNumber s azimuth isQT points
    have hscan := step_scan cfg laserNumber s azimuth isQT points
    simp only [ThreadStep.raws, List.append_nil]
    cases hemits : emits cfg s azimuth with
    | true =>
      rw [hemits, if_pos rfl] at hpublished hscan
      refine ⟨hcalib.trans h.calibration, ?_, ?_, ?_⟩
      · rw [hpublished, hscan, List.flatMap_append, List.flatMap_singleton,
          h.emittedFrame_raws, List.append_nil, h.all]
      · intro msg hmsg
        rw [hscan] at hmsg
        exact absurd hmsg List.not_mem_nil
      · intro f hf
        rw [hpublished] at hf
        rcases List.mem_append.mp hf with hold | hnew
        · exact h.frames f hold
        · -- the new frame
          rw [List.mem_singleton.mp hnew]
          exact ⟨s.scan, laserNumber, by rw [emittedFrame, h.calibration], h.pending⟩
    | false =>
      rw [hemits, if_neg Bool.false_ne_true] at hpublished hscan
      rw [List.append_nil] at hpublished
      refine ⟨hcalib.trans h.calibration, ?_, ?_, ?_⟩
      · rw [hpublished, hscan, h.all]
      · rw [hscan]
        exact h.pending
      · rw [hpublished]
        exact h.frames
  | accept raw =>
    refine ⟨h.calibration, ?_, ?_, h.frames⟩
    · rw [← h.all]
      simp [Hesai.step, ThreadStep.raws]
    · intro msg hmsg
      rcases List.mem_append.mp hmsg with hold | hnew
      · exact h.pending msg hold
      · exact he msg hnew
  | receive | finish =>
    simp only [ThreadStep.raws, List.append_nil]
    exact ⟨h.calibration, h.all, h.pending, h.frames⟩

/-- Every run keeps the messages. -/
theorem ScanInv.run {calib : Calibration F} {raws : List PandarPacketMsg}
    (steps : List (ThreadStep F)) (h : ScanInv calib s raws)
    (hsteps : ∀ msg ∈ steps.flatMap ThreadStep.raws, msg.isCorrection = false) :
    ScanInv calib (steps.foldl (Hesai.step cfg) s) (raws ++ steps.flatMap ThreadStep.raws) := by
  induction steps generalizing s raws with
  | nil => simpa using h
  | cons e steps ih =>
    rw [List.flatMap_cons] at hsteps
    have hstep := h.step cfg e fun msg hmsg => hsteps msg (List.mem_append_left _ hmsg)
    have hrest := ih hstep fun msg hmsg => hsteps msg (List.mem_append_right _ hmsg)
    rwa [List.append_assoc, ← List.flatMap_cons] at hrest

/-! ## The steps of the packets -/

/-- The points of the right returns of a packet, block after block. -/
def packetPoints (cfg : Config F) (calib : Calibration F) (packet : PandarPacket F) :
    List (PPoint F) :=
  match parsePacket cfg packet with
  | none => []
  | some pkt => (List.range pkt.blocks.length).flatMap fun blockid =>
      blockPoints cfg calib packet.stamp blockid pkt

/-- The block steps carry the points of their blocks, and no raw packet. -/
theorem blockSteps_points (calib : Calibration F) (stamp : F) (pkt : ParsedPacket)
    (blocks : List LidarBlock) (blockid : Nat) :
    (blockSteps cfg calib stamp pkt blocks blockid).flatMap ThreadStep.points =
        (List.range' blockid blocks.length).flatMap (blockPoints cfg calib stamp · pkt) ∧
      (blockSteps cfg calib stamp pkt blocks blockid).flatMap ThreadStep.raws = [] := by
  induction blocks generalizing blockid with
  | nil => exact ⟨rfl, rfl⟩
  | cons block blocks ih =>
    obtain ⟨hpoints, hraws⟩ := ih (blockid + 1)
    rw [blockSteps, List.flatMap_cons, List.flatMap_cons, hpoints, hraws, List.length_cons,
      List.range'_succ, List.flatMap_cons]
    exact ⟨rfl, rfl⟩

/-- The steps of a packet carry its points. -/
theorem packetSteps_points (calib : Calibration F) (packet : PandarPacket F) :
    (packetSteps cfg calib packet).flatMap ThreadStep.points =
      packetPoints cfg calib packet := by
  unfold packetSteps packetPoints
  cases hparse : parsePacket cfg packet with
  | none => rfl
  | some pkt =>
    have hblocks := (blockSteps_points cfg calib packet.stamp pkt pkt.blocks 0).1
    simp [ThreadStep.points, hblocks, List.range_eq_range']

/-- The steps of a packet carry its raw bytes, if it is accepted. -/
theorem packetSteps_raws (calib : Calibration F) (packet : PandarPacket F) :
    (packetSteps cfg calib packet).flatMap ThreadStep.raws =
      if (parsePacket cfg packet).isSome then [rawPacket packet] else [] := by
  unfold packetSteps
  cases hparse : parsePacket cfg packet with
  | none => rfl
  | some pkt =>
    have hblocks := (blockSteps_points cfg calib packet.stamp pkt pkt.blocks 0).2
    simp [ThreadStep.raws, hblocks]

/-- The steps of a sequence of packets carry the points of all accepted packets. -/
theorem packetsSteps_points (calib : Calibration F) (packets : List (PandarPacket F)) :
    (packetsSteps cfg calib packets).flatMap ThreadStep.points =
      packets.flatMap (packetPoints cfg calib) := by
  rw [packetsSteps, List.flatMap_assoc]
  simp only [packetSteps_points]

/-- They carry the raw bytes of all accepted packets. -/
theorem packetsSteps_raws (calib : Calibration F) (packets : List (PandarPacket F)) :
    (packetsSteps cfg calib packets).flatMap ThreadStep.raws =
      (packets.filter (parsePacket cfg · |>.isSome)).map rawPacket := by
  induction packets with
  | nil => rfl
  | cons packet packets ih =>
    rw [packetsSteps] at ih ⊢
    rw [List.flatMap_cons, List.flatMap_append, ih, packetSteps_raws, List.filter_cons]
    split <;> rfl

/-- None of these is a correction packet. -/
theorem raws_not_correction (calib : Calibration F) (packets : List (PandarPacket F)) :
    ∀ msg ∈ (packetsSteps cfg calib packets).flatMap ThreadStep.raws,
      msg.isCorrection = false := by
  intro msg hmsg
  rw [packetsSteps_raws] at hmsg
  obtain ⟨packet, -, rfl⟩ := List.mem_map.mp hmsg
  exact isCorrection_rawPacket packet

/-! ## Whole runs -/

/-- Fewer points than `PointCloud` has cells are pending after the step. -/
def FewPending (cfg : Config F) (m : Framing F) (e : ThreadStep F) : Prop :=
  (m.step cfg e).points.pending.length < maxPointCloudNum

instance (cfg : Config F) (m : Framing F) (e : ThreadStep F) : Decidable (FewPending cfg m e) :=
  inferInstanceAs (Decidable (_ < _))

/-- In unstructured mode no point and no raw packet is lost, duplicated or moved: when the
    turns of a run are defined, the emitted clouds and the pending points are the points of all
    accepted packets, the emitted scans and the pending messages are the accepted packets, and
    each scan ends with its only correction packet. -/
theorem points_and_packets_conserved (cfg : Config F) (calib : Calibration F)
    (rawpacket : PandarPacketMsg) (packets : List (PandarPacket F)) (t : LoopState F)
    (hmode : cfg.pclType = 0)
    (hrun : runTurns cfg ⟨DriverState.init calib, rawpacket⟩ packets = some t)
    (hfew : EachStep (Framing.step cfg) (FewPending cfg) Framing.init
      (packetsSteps cfg calib packets)) :
    t.published.flatMap (·.cloud.points) ++ t.store.pending =
        packets.flatMap (packetPoints cfg calib) ∧
      t.published.flatMap Frame.raws ++ t.scan =
        (packets.filter (parsePacket cfg · |>.isSome)).map rawPacket ∧
      ∀ f ∈ t.published, ScanWellFormed calib f := by
  have hsteps : t.toDriverState =
      (packetsSteps cfg calib packets).foldl (step cfg) (DriverState.init calib) :=
    (runTurns_toDriverState hrun).trans (run_init_eq_steps cfg calib packets)
  -- the points: the thread holds what the frame builder holds
  have hrep := (represents_init calib).run hmode (hfew.mono fun m e h => Nat.le_of_lt h)
  -- the messages: the invariant of the scan does not need any room
  have hscan := (scanInv_init calib).run cfg (packetsSteps cfg calib packets)
    (raws_not_correction cfg calib packets)
  rw [← hsteps] at hrep hscan
  refine ⟨?_, ?_, hscan.frames⟩
  · have hflatten := Framing.flatten_foldl cfg (packetsSteps cfg calib packets) Framing.init
    rw [packetsSteps_points, Chunks.flatten, ← hrep.frames, ← hrep.pending] at hflatten
    simpa [List.flatMap_def, Framing.init] using hflatten
  · rw [hscan.all, List.nil_append, packetsSteps_raws]

/-- Two packets of the launched lidar, the second of which starts a new frame. -/
theorem points_and_packets_conserved_launch :
    let packets := [xt16Packet (fun block => 35000 + 100 * block) (fun _ => 1000),
      xt16Packet (fun block => 100 * block) (fun _ => 1000)]
    ∃ t, runTurns launchConfig ⟨DriverState.init Calibration.zero, ⟨0, 0, [], 0⟩⟩ packets =
        some t ∧
      t.published.flatMap (·.cloud.points) ++ t.store.pending =
        packets.flatMap (packetPoints launchConfig Calibration.zero) ∧
      t.published.flatMap Frame.raws ++ t.scan =
        (packets.filter (parsePacket launchConfig · |>.isSome)).map rawPacket ∧
      ∀ f ∈ t.published, ScanWellFormed Calibration.zero f := by
  intro packets
  have hfit : AllFit packets := by decide
  have hturns := map_runTurns launchConfig ⟨DriverState.init Calibration.zero, ⟨0, 0, [], 0⟩⟩
    packets
  rw [if_pos hfit, Option.map_eq_some_iff] at hturns
  obtain ⟨t, ht, -⟩ := hturns
  exact ⟨t, ht, points_and_packets_conserved launchConfig Calibration.zero _ _ t rfl ht
    (by decide +kernel)⟩

end Hesai
