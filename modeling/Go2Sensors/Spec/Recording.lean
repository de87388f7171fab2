import Go2Sensors.Native.Init
import Go2Sensors.Native.Replay
import Go2Sensors.Spec.Accumulation
import Go2Sensors.Spec.CorrectionRoundTrip
import Go2Sensors.Spec.PacketBytes

/-!
# What a recording holds

The scans of a run hold the accepted packets in their order, and after the packets of each
frame the calibration. A packet that is pushed again has its stamp and its bytes, but not
the memory behind them; a calibration that is loaded again has the angles of the lasers
that it has rows for.

## Key results

- `recording_raws`, `recording_corrections`: the messages of a recording
- `pushPacket_rawPacket`: a packet that is pushed again
- `pushCorrection_recorded`: a calibration that is loaded again
-/

namespace Hesai

open Run
open Buffer (overlay memcpy)
open CFloat (ofRat)

variable {F : Type} [CFloat F]

/-! ## The messages -/

/-- The messages of all scans of a run, in the order of their publication. -/
def recording (cfg : Config F) (calib : Calibration F) (packets : List (PandarPacket F)) :
    List PandarPacketMsg :=
  (run cfg (DriverState.init calib) packets).published.flatMap (·.scan)

variable {cfg : Config F} {calib : Calibration F} {packets : List (PandarPacket F)}

/-- The run keeps the invariant of the scans. -/
theorem scanInv_run (cfg : Config F) (calib : Calibration F) (packets : List (PandarPacket F)) :
    ScanInv calib (run cfg (DriverState.init calib) packets)
      ((packets.filter (parsePacket cfg · |>.isSome)).map rawPacket) := by
  have h := (scanInv_init calib).run cfg (packetsSteps cfg calib packets)
    (raws_not_correction cfg calib packets)
  rw [List.nil_append, packetsSteps_raws] at h
  rwa [run_init_eq_steps]

/-- The packets of the scans and those that are pending are the packets of the run. -/
theorem recording_raws (haccepted : ∀ packet ∈ packets, (parsePacket cfg packet).isSome = true) :
    (recording cfg calib packets).filter (!·.isCorrection) ++
        (run cfg (DriverState.init calib) packets).scan = packets.map rawPacket := by
  have hall := (scanInv_run cfg calib packets).all
  rw [List.filter_eq_self.mpr haccepted] at hall
  rw [recording, List.filter_flatMap]
  exact hall

/-- The scan of a frame ends with a correction packet for a laser number that satisfies
    `P`. -/
def SavedFor (P : Int → Prop) (calib : Calibration F) (f : Frame F) : Prop :=
  ∃ laserNumber, P laserNumber ∧ f.scan = f.raws ++ [saveCorrectionFile calib laserNumber]

/-- The laser number of a correction packet is the one of a block. -/
theorem ScanInv.savedFor (cfg : Config F) {P : Int → Prop} {s : DriverState F}
    {raws : List PandarPacketMsg} (h : ScanInv calib s raws)
    (hframes : ∀ f ∈ s.published, SavedFor P calib f)
    (steps : List (ThreadStep F))
    (hraws : ∀ msg ∈ steps.flatMap ThreadStep.raws, msg.isCorrection = false)
    (hblocks : ∀ laserNumber azimuth isQT points,
      .block laserNumber azimuth isQT points ∈ steps → P laserNumber) :
    ∀ f ∈ (steps.foldl (Hesai.step cfg) s).published, SavedFor P calib f := by
  induction steps generalizing s raws with
  | nil => exact hframes
  | cons e steps ih =>
    rw [List.flatMap_cons] at hraws
    have hnext := h.step cfg e fun msg hmsg => hraws msg (List.mem_append_left _ hmsg)
    refine ih hnext ?_ (fun msg hmsg => hraws msg (List.mem_append_right _ hmsg))
      fun laserNumber azimuth isQT points he =>
        hblocks laserNumber azimuth isQT points (List.mem_cons_of_mem _ he)
    cases e with
    | block laserNumber azimuth isQT points =>
      rw [step_published]
      intro f hf
      rcases List.mem_append.mp hf with hold | hnew
      · exact hframes f hold
      · -- the frame that the block emits takes the pending packets with it
        have hf' : f = emittedFrame cfg laserNumber s := by
          cases hemits : emits cfg s azimuth with
          | true => simpa [hemits] using hnew
          | false => simp [hemits] at hnew
        rw [hf']
        refine ⟨laserNumber, hblocks _ _ _ _ List.mem_cons_self, ?_⟩
        rw [h.emittedFrame_raws, emittedFrame, h.calibration]
    | receive | accept | finish => exact hframes

/-- The correction packets of a recording are for the laser numbers of its packets. -/
theorem recording_corrections :
    ∀ msg ∈ recording cfg calib packets, msg.isCorrection = true →
      ∃ packet ∈ packets, ∃ pkt, parsePacket cfg packet = some pkt ∧ pkt.blocks ≠ [] ∧
        msg = saveCorrectionFile calib pkt.laserNumber := by
  intro msg hmsg hcorrection
  obtain ⟨f, hf, hmsg⟩ := List.mem_flatMap.mp hmsg
  rw [run_init_eq_steps] at hf
  have hsaved := (scanInv_init calib).savedFor cfg
    (P := fun laserNumber => ∃ packet ∈ packets, ∃ pkt, parsePacket cfg packet = some pkt ∧
      pkt.blocks ≠ [] ∧ laserNumber = pkt.laserNumber)
    (fun f hf => absurd hf List.not_mem_nil) (packetsSteps cfg calib packets)
    (raws_not_correction cfg calib packets) ?_ f hf
  · obtain ⟨laserNumber, ⟨packet, hpacket, pkt, hparse, hblocks, hlaser⟩, hscan⟩ := hsaved
    rw [hscan] at hmsg
    rcases List.mem_append.mp hmsg with hraw | hlast
    · simp [Frame.raws, hcorrection] at hraw
    · rw [hlaser] at hlast
      exact ⟨packet, hpacket, pkt, hparse, hblocks, List.mem_singleton.mp hlast⟩
  · intro laserNumber azimuth isQT points he
    obtain ⟨packet, hpacket, pkt, hparse, block, hblock, -, hlaser, -⟩ :=
      block_mem_packetsSteps he
    exact ⟨packet, hpacket, pkt, hparse, List.ne_nil_of_mem hblock, hlaser⟩

/-! ## A packet that is pushed again -/

/-- The stamp is what its seconds and nanoseconds are read back as. -/
def StampSurvives (packet : PandarPacket F) : Prop :=
  let msg := rawPacket packet
  ofRat msg.stampSec + ofRat msg.stampNanosec / ofRat 1000000000 = packet.stamp

omit [CFloat F] in
/-- The same packet, but for the memory behind its bytes. -/
structure PandarPacket.Replayed (packet packet' : PandarPacket F) : Prop extends
    packet.SameBytes packet' where
  stamp : packet.stamp = packet'.stamp

/-- A packet comes back with its bytes and its stamp, unless it starts like a correction
    file. -/
theorem pushPacket_rawPacket (stale : Nat → UInt8) (got : Bool) {packet : PandarPacket F}
    {pkt : ParsedPacket}
    (hparse : parsePacket cfg packet = some pkt)
    (hmarker : isCorrectionFile (rawPacket packet).data = some false)
    (hstamp : StampSurvives packet) :
    ∃ packet', pushPacket stale got (rawPacket packet) = .pushed packet' ∧
      packet.Replayed packet' := by
  have hsize := (size_of_parsePacket hparse).2
  have hlength : (bytes packet.data packet.size).length = packet.size := length_bytes _ _
  have hcopy : memcpy ethernetMTU stale (rawPacket packet).data (rawPacket packet).size =
      some (overlay stale (bytes packet.data packet.size)) := by
    show memcpy ethernetMTU stale (bytes packet.data packet.size) packet.size = _
    rw [memcpy, if_pos ⟨hsize, Nat.le_of_eq hlength.symm⟩, List.take_of_length_le (by omega)]
  refine ⟨⟨packet.stamp, overlay stale (bytes packet.data packet.size), packet.size⟩, ?_,
    ⟨rfl, fun i hi => ?_⟩, rfl⟩
  · rw [pushPacket, hmarker]
    dsimp only
    rw [hcopy, hstamp]
    rfl
  · show packet.data i = (bytes packet.data packet.size).getD i (stale i)
    rw [List.getD_eq_getElem _ _ (by omega)]
    simp [bytes]

/-! ## A calibration that is loaded again -/

/-- A correction file that is loaded, or whose length field says otherwise, was read inside its
    data. -/
theorem correctionReadable_of_load {env : LoadEnv F} {memory : List UInt8}
    {s loaded : CorrectionState F} {msg : PandarPacketMsg}
    (hload : loadFromPacket env memory s msg = some loaded) : msg.correctionReadable = true := by
  unfold loadFromPacket at hload
  split at hload
  · next b4 b5 b6 b7 text hdata =>
    unfold PandarPacketMsg.correctionReadable
    simp only [hdata]
    -- the length field is the length of the data, or nothing is read
    by_cases hlength : BigEndian.ofBytesBE b4 b5 b6 b7 = msg.size
    · by_cases hpast : text.length < msg.size ∨ 2 ^ 31 ≤ msg.size
      · simp only [if_pos hlength, if_pos hpast, reduceCtorEq] at hload
      · have hinside : msg.size ≤ text.length ∧ msg.size < 2 ^ 31 := by omega
        rw [decide_eq_true hinside.1, decide_eq_true hinside.2, Bool.and_self, Bool.or_true]
    · rw [decide_eq_true hlength, Bool.true_or]
  · exact absurd hload.symm (Option.some_ne_none _)

/-- The message is not pushed then, and also not once a calibration is loaded. -/
theorem pushPacket_correction (stale : Nat → UInt8) {env : LoadEnv F} {memory : List UInt8}
    {s correction : CorrectionState F} {msg : PandarPacketMsg}
    (hmarker : isCorrectionFile msg.data = some true)
    (hload : pushCorrection env memory none s msg = some correction) :
    pushPacket (F := F) stale s.gotLidarCorrectionFlag msg = .nothing := by
  -- it is copied inside its data, or not looked at
  have hread : (s.gotLidarCorrectionFlag || msg.correctionReadable) = true := by
    cases hflag : s.gotLidarCorrectionFlag with
    | true => rfl
    | false =>
      rw [pushCorrection, hflag, if_neg Bool.false_ne_true, Option.map_eq_some_iff] at hload
      obtain ⟨loaded, hload, -⟩ := hload
      exact correctionReadable_of_load hload
  simp only [pushPacket, hmarker, hread, ↓reduceIte]

/-- The angles of laser `i` that its points depend on. -/
structure SameAngles (calib calib' : Calibration F) (i : Nat) : Prop where
  sinMap : calib.sinElevationMap i = calib'.sinElevationMap i
  cosMap : calib.cosElevationMap i = calib'.cosElevationMap i
  offset : calib.horizatalAzimuthOffsetMap i = calib'.horizatalAzimuthOffsetMap i

/-- The calibration up to laser `n` survives its text. The elevation maps, which are not in
    the text, belong to the elevation angles. -/
structure Survives (env : LoadEnv F) (calib : Calibration F) (n : Nat) : Prop where
  savable : Savable calib n
  sinMap : ∀ i < n, calib.sinElevationMap i = env.sinDegree (calib.elevAngleMap i)
  cosMap : ∀ i < n, calib.cosElevationMap i = env.cosDegree (calib.elevAngleMap i)

/-- A load leaves the elevation maps of its elevation angles. -/
theorem elevationMaps_of_load (env : LoadEnv F) (tables : CalibrationTables F)
    (content : List Char) :
    let loaded := (loadCorrectionFile env tables content).tables
    ∀ i < loaded.elevationSize,
      loaded.sinElevationMap i = env.sinDegree (loaded.elevAngleMap i) ∧
      loaded.cosElevationMap i = env.cosDegree (loaded.elevAngleMap i) := by
  intro loaded i hi
  rw [show loaded = _ from congrArg Loaded.tables (loadCorrectionFile_eq env tables content)]
    at hi ⊢
  simp only [copyRows] at hi ⊢
  simp only [if_pos hi, and_self]

/-- Loaded again, the calibration has the angles of the lasers that the text names. -/
theorem pushCorrection_recorded (env : LoadEnv F) {memory : List UInt8}
    (hmemory : EndsEarly memory) {s : CorrectionState F} (hflag : s.gotLidarCorrectionFlag = false)
    {n : Nat} (hn : n ≤ 64) (h : Survives env calib n) :
    ∃ correction, pushCorrection env memory none s (saveCorrectionFile calib n) = some correction ∧
      correction.gotLidarCorrectionFlag = true ∧ correction.tables.elevationSize = n ∧
      ∀ i < n, SameAngles calib correction.tables.toCalibration i := by
  -- the text has a row for each laser
  have hsize := (elevationSize_saved_iff env s.tables hn h.savable memory).mpr hmemory
  refine ⟨_, pushCorrection_saved env memory none hflag hn h.savable, rfl, hsize, fun i hi => ?_⟩
  have hmaps := elevationMaps_of_load env s.tables _ i (hsize.symm ▸ hi)
  obtain ⟨helev, hoffset⟩ :=
    load_saved env s.tables ⟨Nat.lt_of_le_of_lt (Nat.zero_le i) hi, hn⟩ h.savable hmemory i hi
  rw [helev] at hmaps
  exact ⟨(h.sinMap i hi).trans hmaps.1.symm, (h.cosMap i hi).trans hmaps.2.symm, hoffset.symm⟩

/-- A laser number without sign. -/
theorem saveCorrectionFile_toNat (calib : Calibration F) (laserNumber : Int) :
    saveCorrectionFile calib laserNumber = saveCorrectionFile calib (laserNumber.toNat : Nat) := by
  simp only [saveCorrectionFile, correctionContent, Int.toNat_natCast]

end Hesai
