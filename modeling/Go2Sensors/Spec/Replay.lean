import Go2Sensors.ForStd.Follow
import Go2Sensors.Spec.Isolation
import Go2Sensors.Spec.PacketsBufferCorrect
import Go2Sensors.Spec.Recording
import Go2Sensors.Spec.TableCoverage

/-!
# Record and replay

The processing thread of a replay takes the steps of the recorded run in the same order, on
packets that come back from the scans (`ReplayInv`). The clouds are the same as long as the
angles are: those of the correction packet once it is loaded, and before that the ones of
the constructor. But the correction packet comes last in its scan, so a thread that does
not wait for it processes the first packets with the wrong angles.

## Key results

- `replay_agrees`: when the clouds of a replay are those of the recorded run
- `replay_before_load_differs`: a cloud from before the load
-/

namespace Hesai

open Run

variable {F : Type} [CFloat F]

/-! ## The same step -/

/-- A step on a packet, and the same step on the packet that is replayed. -/
inductive SameStep : InstanceStep F → InstanceStep F → Prop where
  | take {packet packet' : PandarPacket F} (h : packet.stamp = packet'.stamp) :
    SameStep (.take packet) (.take packet')
  | keep (packet packet' : PandarPacket F) : SameStep (.keep packet) (.keep packet')
  | refl (e : InstanceStep F) : SameStep e e

/-- The states of the recorded run and of its replay: they differ in the scan and in the
    calibration. -/
structure SameDriver (calib : Calibration F) (s s' : DriverState F) : Prop where
  calibration : s.calibration = calib
  lastAzimuth : s.lastAzimuth = s'.lastAzimuth
  dPktTimestamp : s.dPktTimestamp = s'.dPktTimestamp
  store : s.store = s'.store
  outMsg : s.outMsg = s'.outMsg
  clouds : s.published.map (·.cloud) = s'.published.map (·.cloud)

variable {cfg : Config F} {calib calib' : Calibration F} {s s' : DriverState F}

/-- The points of a block depend on the angles of its right returns only, with the time of
    reception. -/
theorem blockPoints_of_sameAngles (hrealtime : cfg.timestampType = "realtime") (stamp : F)
    {blockid : Nat} {pkt : ParsedPacket}
    (h : ∀ i, pkt.RightReturn blockid i → SameAngles calib calib' i) :
    blockPoints cfg calib stamp blockid pkt = blockPoints cfg calib' stamp blockid pkt := by
  refine blockPoints_congr stamp ⟨rfl, rfl, rfl, rfl, rfl, rfl⟩ fun r hr => ?_
  obtain ⟨i, hright, hr⟩ := mem_blockReads.mp hr
  rw [laserReads, if_pos hrealtime, List.append_nil] at hr
  simp only [angleReads, List.mem_cons, List.not_mem_nil, or_false] at hr
  rcases hr with rfl | rfl | rfl
  · exact (h i hright).sinMap
  · exact (h i hright).cosMap
  · exact (h i hright).offset

/-- A frame that is cut has the same cloud. -/
theorem SameDriver.cutFrame (h : SameDriver calib s s') (laserNumber : Int) :
    SameDriver calib (Hesai.cutFrame cfg laserNumber s) (Hesai.cutFrame cfg laserNumber s') := by
  have hcloud : (emittedFrame cfg laserNumber s).cloud =
      (emittedFrame cfg laserNumber s').cloud := by
    simp only [emittedFrame, h.store, h.outMsg]
  have hclouds : (s.published ++ [emittedFrame cfg laserNumber s]).map (·.cloud) =
      (s'.published ++ [emittedFrame cfg laserNumber s']).map (·.cloud) := by
    rw [List.map_append, List.map_append, h.clouds, List.map_singleton, List.map_singleton, hcloud]
  by_cases hemit : canEmit cfg s.store = true
  · -- the stores are the same, so both cut
    have hemit' : canEmit cfg s'.store = true := h.store ▸ hemit
    by_cases hmode : cfg.pclType = 0
    · rw [cutFrame_unstructured hmode hemit, cutFrame_unstructured hmode hemit']
      exact ⟨h.calibration, h.lastAzimuth, h.dPktTimestamp, by simp only [h.store], hcloud, hclouds⟩
    · rw [cutFrame_structured hmode hemit, cutFrame_structured hmode hemit']
      exact ⟨h.calibration, h.lastAzimuth, h.dPktTimestamp, by simp only [h.store],
        by simp only [hcloud], hclouds⟩
  · have hemit' : ¬ canEmit cfg s'.store = true := h.store ▸ hemit
    rw [cutFrame_of_not_canEmit (by simpa using hemit),
      cutFrame_of_not_canEmit (by simpa using hemit')]
    exact h

/-- The same step with the same angles. -/
theorem SameDriver.step (h : SameDriver calib s s') (hrealtime : cfg.timestampType = "realtime")
    {e e' : InstanceStep F} (he : SameStep e e')
    (hangles : ∀ pkt blockid azimuth, e' = .block pkt blockid azimuth →
      ∀ i, pkt.RightReturn blockid i → SameAngles calib calib' i) :
    SameDriver calib (instanceStep cfg s e)
      (instanceStep cfg { s' with calibration := calib' } e') := by
  obtain ⟨hcalib, hazimuth, hstamp, hstore, hmsg, hclouds⟩ := h
  cases he with
  | take hpacket => exact ⟨hcalib, hazimuth, hpacket, hstore, hmsg, hclouds⟩
  | keep => exact ⟨hcalib, hazimuth, hstamp, hstore, hmsg, hclouds⟩
  | refl =>
    have hsame : SameDriver calib s { s' with calibration := calib' } :=
      ⟨hcalib, hazimuth, hstamp, hstore, hmsg, hclouds⟩
    cases e with
    | take packet => exact ⟨hcalib, hazimuth, rfl, hstore, hmsg, hclouds⟩
    | keep packet => exact ⟨hcalib, hazimuth, hstamp, hstore, hmsg, hclouds⟩
    | emission pkt azimuth =>
      simp only [instanceStep, hazimuth]
      split
      · exact hsame.cutFrame pkt.laserNumber
      · exact hsame
    | block pkt blockid azimuth =>
      -- the points of the block, with the angles of its right returns
      have hpoints := blockPoints_of_sameAngles hrealtime s.dPktTimestamp
        (hangles pkt blockid azimuth rfl)
      simp only [instanceStep, calcPoints_eq, hcalib, hpoints]
      exact ⟨rfl, rfl, hstamp, by simp only [hstamp, hstore], hmsg, hclouds⟩
    | finish => exact ⟨hcalib, hazimuth, hstamp, hstore, by simp only [instanceStep, hmsg], hclouds⟩

/-- No step takes a cloud back. -/
theorem clouds_prefix_instanceStep (cfg : Config F) (s : DriverState F) (e : InstanceStep F) :
    s.published.map (·.cloud) <+: (instanceStep cfg s e).published.map (·.cloud) := by
  cases e with
  | emission pkt azimuth =>
    simp only [instanceStep]
    split
    · by_cases hemit : canEmit cfg s.store = true
      · rw [(cutFrame_published hemit).1, List.map_append]
        exact List.prefix_append _ _
      · have hsame : cutFrame cfg pkt.laserNumber s = s :=
          cutFrame_of_not_canEmit (by simpa using hemit)
        simp only [hsame, List.prefix_rfl]
    · exact List.prefix_rfl
  | take | keep | block | finish => exact List.prefix_rfl

omit [CFloat F] in
/-- The turn of a packet and the turn of the packet that is replayed. -/
theorem turnSteps_sameStep {packet packet' : PandarPacket F} (h : packet.Replayed packet')
    (hfits : acceptedFits cfg packet = true) :
    List.Forall₂ SameStep (turnSteps cfg packet) (turnSteps cfg packet') := by
  -- both packets are parsed to the same
  have hparse := parsePacket_eq_of_sameBytes h.toSameBytes hfits
  unfold turnSteps
  rw [hparse]
  apply List.Forall₂.cons (SameStep.take h.stamp)
  cases parsePacket cfg packet with
  | none => exact List.Forall₂.nil
  | some pkt =>
    apply List.Forall₂.cons (SameStep.keep packet packet')
    exact List.forall₂_same.mpr fun e _ => SameStep.refl e

/-! ## The condition on a step -/

/-- Fewer than `1000` packets are waiting, and where the correction packet is loaded, the
    memory after its text ends the line before it is as long as a row. -/
def PushOk (s : ReplayState F) : ReplayOp → Prop
  | .push _ memory => s.ring.unconsumed < 1000 ∧
      (s.correction.gotLidarCorrectionFlag = false → ∀ msg, s.todo.head? = some msg →
        isCorrectionFile msg.data = some true → EndsEarly memory)
  | .process => True

/-- For the right returns of the next block either the correction packet is loaded and has a
    row for the laser, or it is not loaded and the constructor has the angles of the recorded
    run for the laser. -/
def AnglesKnown (tables : CalibrationTables F) (calib : Calibration F) (s : ReplayState F) :
    ReplayOp → Prop
  | .push _ _ => True
  | .process => ∀ pkt blockid azimuth, s.turn.head? = some (.block pkt blockid azimuth) →
      ∀ i, pkt.RightReturn blockid i →
        (s.correction.gotLidarCorrectionFlag = true ∧ i < s.correction.tables.elevationSize) ∨
        (s.correction.gotLidarCorrectionFlag = false ∧ i < tables.elevationSize ∧
          SameAngles calib tables.toCalibration i)

/-- The condition on a packet: its counts fit its length and the arrays, and it does not
    start like a correction file. -/
structure Replayable (cfg : Config F) (packet : PandarPacket F) : Prop where
  fits : acceptedFits cfg packet = true
  marker : isCorrectionFile (rawPacket packet).data = some false

/-- Stamp and calibration survive the recording. -/
structure Encodable (cfg : Config F) (env : LoadEnv F) (calib : Calibration F)
    (packet : PandarPacket F) : Prop where
  stamp : StampSurvives packet
  calibration : ∀ pkt, parsePacket cfg packet = some pkt →
    Survives env calib pkt.laserNumber.toNat

/-! ## The replay follows the recorded run -/

/-- The laser number of one of the packets. -/
def IsLaserNumber (cfg : Config F) (packets : List (PandarPacket F)) (n : Nat) : Prop :=
  ∃ packet ∈ packets, ∃ pkt, parsePacket cfg packet = some pkt ∧ n = pkt.laserNumber.toNat

/-- Where a replay stands. -/
structure ReplayInv (cfg : Config F) (env : LoadEnv F) (tables : CalibrationTables F)
    (calib : Calibration F) (packets : List (PandarPacket F)) (s : ReplayState F) : Prop where
  fifo : RingState.Fifo s.ring
  /-- the ring got the first packets of the run -/
  sent : List.Forall₂ PandarPacket.Replayed (packets.take s.ring.issued.length) s.ring.issued
  /-- the next packets are still to be pushed -/
  unsent : ∃ pending, s.todo.filter (!·.isCorrection) ++ pending =
    (packets.drop s.ring.issued.length).map rawPacket
  saved : ∀ msg ∈ s.todo, msg.isCorrection = true → ∃ n : Nat, IsLaserNumber cfg packets n ∧
    n ≤ 64 ∧ Survives env calib n ∧ msg = saveCorrectionFile calib n
  unloaded : s.correction.gotLidarCorrectionFlag = false → s.correction.tables = tables
  rows : s.correction.gotLidarCorrectionFlag = true →
    IsLaserNumber cfg packets s.correction.tables.elevationSize
  loaded : s.correction.gotLidarCorrectionFlag = true →
    ∀ i < s.correction.tables.elevationSize,
      SameAngles calib s.correction.tables.toCalibration i
  /-- the thread takes the steps of the packets that were moved out of the ring -/
  thread : Following (instanceStep cfg) (DriverState.init calib) SameStep (SameDriver calib)
    ((packets.take s.ring.moved).flatMap (turnSteps cfg)) s.turn s.driver

variable {env : LoadEnv F} {tables : CalibrationTables F} {packets : List (PandarPacket F)}

/-- An accepted packet. -/
theorem Replayable.accepted {packet : PandarPacket F} (h : Replayable cfg packet) :
    ∃ pkt, parsePacket cfg packet = some pkt := by
  apply Option.ne_none_iff_exists'.mp
  intro hnone
  have hfits := h.fits
  simp [acceptedFits, hnone] at hfits

/-- A fresh instance, before the messages of a recording. -/
theorem replayInv_init (hpackets : ∀ packet ∈ packets, Replayable cfg packet)
    (hencodable : ∀ packet ∈ packets, Encodable cfg env calib packet) :
    ReplayInv cfg env tables calib packets
      (ReplayState.init tables (recording cfg calib packets)) where
  fifo := RingState.fifo_init
  sent := List.Forall₂.nil
  unsent := by
    refine ⟨(run cfg (DriverState.init calib) packets).scan, ?_⟩
    -- the recording has all packets in their order
    apply recording_raws
    intro packet hpacket
    obtain ⟨pkt, hparse⟩ := (hpackets packet hpacket).accepted
    rw [hparse]
    rfl
  saved := by
    intro msg hmsg hcorrection
    obtain ⟨packet, hpacket, pkt, hparse, hblocks, hmsg⟩ :=
      recording_corrections msg hmsg hcorrection
    refine ⟨pkt.laserNumber.toNat, ⟨packet, hpacket, pkt, hparse, rfl⟩, ?_,
      (hencodable packet hpacket).calibration pkt hparse, ?_⟩
    · exact laserNumber_le_of_acceptedFits hparse (hpackets packet hpacket).fits hblocks
    · rw [hmsg, saveCorrectionFile_toNat]
  unloaded := fun _ => rfl
  rows := fun hflag => absurd hflag Bool.false_ne_true
  loaded := fun hflag => absurd hflag Bool.false_ne_true
  thread := Following.init ⟨rfl, rfl, rfl, rfl, rfl, rfl⟩

variable {s : ReplayState F} {msg : PandarPacketMsg} {todo : List PandarPacketMsg}

/-- A correction packet is taken from the messages. -/
theorem ReplayInv.popCorrection (h : ReplayInv cfg env tables calib packets s)
    (htodo : s.todo = msg :: todo) (hmsg : msg.isCorrection = true)
    {correction : CorrectionState F}
    (hunloaded : correction.gotLidarCorrectionFlag = false → correction.tables = tables)
    (hrows : correction.gotLidarCorrectionFlag = true →
      IsLaserNumber cfg packets correction.tables.elevationSize)
    (hloaded : correction.gotLidarCorrectionFlag = true →
      ∀ i < correction.tables.elevationSize, SameAngles calib correction.tables.toCalibration i) :
    ReplayInv cfg env tables calib packets { s with todo, correction } where
  fifo := h.fifo
  sent := h.sent
  unsent := by
    have hunsent := h.unsent
    rwa [htodo, List.filter_cons_of_neg (by simp [hmsg])] at hunsent
  saved := by
    intro msg' hmsg'
    apply h.saved
    rw [htodo]
    exact List.mem_cons_of_mem _ hmsg'
  unloaded := hunloaded
  rows := hrows
  loaded := hloaded
  thread := h.thread

/-- The next message that is no correction packet is the next packet of the run. -/
theorem ReplayInv.next_raw (h : ReplayInv cfg env tables calib packets s)
    (htodo : s.todo = msg :: todo) (hmsg : msg.isCorrection = false) :
    ∃ packet rest pending, packets.drop s.ring.issued.length = packet :: rest ∧
      msg = rawPacket packet ∧ todo.filter (!·.isCorrection) ++ pending = rest.map rawPacket := by
  obtain ⟨pending, hunsent⟩ := h.unsent
  rw [htodo, List.filter_cons_of_pos (by simp [hmsg]), List.cons_append] at hunsent
  obtain ⟨packet, rest, hdrop, hpacket, hrest⟩ := List.map_eq_cons_iff.mp hunsent.symm
  exact ⟨packet, rest, pending, hdrop, hpacket.symm, hrest.symm⟩

/-- A packet is pushed into the ring. -/
theorem ReplayInv.popRaw (h : ReplayInv cfg env tables calib packets s)
    (htodo : s.todo = msg :: todo) (hroom : s.ring.unconsumed < 1000)
    {packet packet' : PandarPacket F} {rest : List (PandarPacket F)}
    {pending : List PandarPacketMsg}
    (hdrop : packets.drop s.ring.issued.length = packet :: rest)
    (hrest : todo.filter (!·.isCorrection) ++ pending = rest.map rawPacket)
    (hreplayed : packet.Replayed packet') :
    ReplayInv cfg env tables calib packets { s with todo, ring := s.ring.pushStep packet' } where
  fifo := h.fifo.pushStep packet' (Nat.lt_trans hroom (by decide))
  sent := by
    -- one packet more of the recorded run
    have hnext : packets.take (s.ring.issued.length + 1) =
        packets.take s.ring.issued.length ++ [packet] := by
      rw [List.take_add, hdrop, List.take_succ_cons, List.take_zero]
    show List.Forall₂ _ (packets.take (s.ring.issued ++ [packet']).length)
      (s.ring.issued ++ [packet'])
    rw [List.length_append, List.length_singleton, hnext]
    exact List.rel_append h.sent (List.Forall₂.cons hreplayed List.Forall₂.nil)
  unsent := by
    refine ⟨pending, ?_⟩
    show _ = (packets.drop (s.ring.issued ++ [packet']).length).map rawPacket
    rw [List.length_append, List.length_singleton, ← List.drop_drop, hdrop, List.drop_succ_cons,
      List.drop_zero]
    exact hrest
  saved := by
    intro msg' hmsg'
    apply h.saved
    rw [htodo]
    exact List.mem_cons_of_mem _ hmsg'
  unloaded := h.unloaded
  rows := h.rows
  loaded := h.loaded
  thread := h.thread

/-- A packet comes back as it was and goes into the ring. -/
theorem ReplayInv.replayPush_raw (h : ReplayInv cfg env tables calib packets s)
    (hpackets : ∀ packet ∈ packets, Replayable cfg packet)
    (hencodable : ∀ packet ∈ packets, Encodable cfg env calib packet)
    (htodo : s.todo = msg :: todo) (hmsg : msg.isCorrection = false)
    (stale : Nat → UInt8) (memory : List UInt8) :
    ∃ packet packet' rest pending, packets.drop s.ring.issued.length = packet :: rest ∧
      packet.Replayed packet' ∧
      todo.filter (!·.isCorrection) ++ pending = rest.map rawPacket ∧
      replayPush env stale memory s = { s with todo, ring := s.ring.pushStep packet' } := by
  obtain ⟨packet, rest, pending, hdrop, rfl, hrest⟩ := h.next_raw htodo hmsg
  have hpacket : packet ∈ packets := List.mem_of_mem_drop (hdrop ▸ List.mem_cons_self)
  obtain ⟨pkt, hparse⟩ := (hpackets packet hpacket).accepted
  -- the message has the bytes and the stamp of the packet
  obtain ⟨packet', hpushed, hreplayed⟩ := pushPacket_rawPacket stale
    s.correction.gotLidarCorrectionFlag hparse (hpackets packet hpacket).marker
    (hencodable packet hpacket).stamp
  refine ⟨packet, packet', rest, pending, hdrop, hreplayed, hrest, ?_⟩
  simp only [replayPush, htodo, hpushed]

/-- After the first one a correction packet is passed over. -/
theorem ReplayInv.replayPush_loaded (h : ReplayInv cfg env tables calib packets s)
    (htodo : s.todo = msg :: todo) (hmsg : msg.isCorrection = true)
    (hflag : s.correction.gotLidarCorrectionFlag = true) (stale : Nat → UInt8)
    (memory : List UInt8) : replayPush env stale memory s = { s with todo } := by
  obtain ⟨n, -, -, -, rfl⟩ := h.saved msg (by rw [htodo]; exact List.mem_cons_self) hmsg
  have hnothing : pushPacket (F := F) stale true (saveCorrectionFile calib n) = .nothing := rfl
  simp only [replayPush, htodo, hflag, hnothing, pushCorrection, ↓reduceIte]

/-- The first one is loaded, with a row for each of its lasers. -/
theorem ReplayInv.replayPush_load (h : ReplayInv cfg env tables calib packets s)
    (htodo : s.todo = msg :: todo) (hmsg : msg.isCorrection = true)
    (hflag : s.correction.gotLidarCorrectionFlag = false) (stale : Nat → UInt8)
    {memory : List UInt8} (hmemory : EndsEarly memory) :
    ∃ correction : CorrectionState F,
      replayPush env stale memory s = { s with todo, correction } ∧
      correction.gotLidarCorrectionFlag = true ∧
      IsLaserNumber cfg packets correction.tables.elevationSize ∧
      ∀ i < correction.tables.elevationSize,
        SameAngles calib correction.tables.toCalibration i := by
  obtain ⟨n, hlasers, hn, hsurvives, rfl⟩ :=
    h.saved msg (by rw [htodo]; exact List.mem_cons_self) hmsg
  obtain ⟨correction, hload, hset, rfl, hangles⟩ :=
    pushCorrection_recorded env hmemory hflag hn hsurvives
  have hnothing := pushPacket_correction stale (show isCorrectionFile _ = some true from rfl) hload
  refine ⟨correction, ?_, hset, hlasers, hangles⟩
  simp only [replayPush, htodo, hnothing, hload]

/-- The next message is pushed. -/
theorem ReplayInv.push (h : ReplayInv cfg env tables calib packets s)
    (hpackets : ∀ packet ∈ packets, Replayable cfg packet)
    (hencodable : ∀ packet ∈ packets, Encodable cfg env calib packet)
    {stale : Nat → UInt8} {memory : List UInt8} (hok : PushOk s (.push stale memory)) :
    ReplayInv cfg env tables calib packets (replayPush env stale memory s) := by
  cases htodo : s.todo with
  | nil => simpa only [replayPush, htodo] using h
  | cons msg todo =>
    cases hmsg : msg.isCorrection with
    | false =>
      -- the message of a packet
      obtain ⟨packet, packet', rest, pending, hdrop, hreplayed, hrest, hpush⟩ :=
        h.replayPush_raw hpackets hencodable htodo hmsg stale memory
      rw [hpush]
      exact h.popRaw htodo hok.1 hdrop hrest hreplayed
    | true =>
      cases hflag : s.correction.gotLidarCorrectionFlag with
      | true =>
        rw [h.replayPush_loaded htodo hmsg hflag stale memory]
        exact h.popCorrection htodo hmsg h.unloaded h.rows h.loaded
      | false =>
        have hmarker : isCorrectionFile msg.data = some true := by
          obtain ⟨n, -, -, -, rfl⟩ := h.saved msg (by rw [htodo]; exact List.mem_cons_self) hmsg
          rfl
        -- the first correction packet, which is loaded
        have hmemory := hok.2 hflag msg (by rw [htodo]; rfl) hmarker
        obtain ⟨correction, hpush, hset, hrows, hangles⟩ :=
          h.replayPush_load htodo hmsg hflag stale hmemory
        rw [hpush]
        refine h.popCorrection htodo hmsg (fun hunset => ?_) (fun _ => hrows) fun _ => hangles
        exact absurd (hset.symm.trans hunset) (by decide)

/-- The next turn is the one of the next packet. -/
theorem ReplayInv.nextTurn (h : ReplayInv cfg env tables calib packets s)
    (hpackets : ∀ packet ∈ packets, Replayable cfg packet) (hpc : s.ring.pc = .move)
    (hthread : Following (instanceStep cfg) (DriverState.init calib) SameStep (SameDriver calib)
      ((packets.take s.ring.moved).flatMap (turnSteps cfg)) [] s.driver) :
    Following (instanceStep cfg) (DriverState.init calib) SameStep (SameDriver calib)
      ((packets.take (s.ring.moved + 1)).flatMap (turnSteps cfg))
      (s.ring.taken.getLast?.toList.flatMap (turnSteps cfg)) s.driver := by
  have htwo := h.fifo.ready (by simp [hpc])
  have hlength := h.sent.length_eq
  rw [List.length_take] at hlength
  have hissued : s.ring.moved < s.ring.issued.length := by omega
  have hpacket : s.ring.moved < packets.length := by omega
  -- the packet that was read is the next one of the run, but for the memory behind it
  have hreplayed : packets[s.ring.moved].Replayed s.ring.issued[s.ring.moved] := by
    have hget := h.sent.get (show s.ring.moved < _ by rw [List.length_take]; omega) hissued
    simpa using hget
  rw [h.fifo.getLast?_taken hpc, List.getElem?_eq_getElem hissued,
    ← List.take_append_getElem hpacket, List.flatMap_append, List.flatMap_singleton]
  apply hthread.extend
  rw [Option.toList_some, List.flatMap_singleton]
  exact turnSteps_sameStep hreplayed (hpackets _ (List.getElem_mem hpacket)).fits

/-- A step of the thread: the next step of its turn, or a step at the ring. -/
theorem ReplayInv.process (h : ReplayInv cfg env tables calib packets s)
    (hrealtime : cfg.timestampType = "realtime")
    (hpackets : ∀ packet ∈ packets, Replayable cfg packet)
    (hok : AnglesKnown tables calib s .process) :
    ReplayInv cfg env tables calib packets (replayProcess cfg s) := by
  unfold replayProcess
  cases hturn : s.turn with
  | cons e turn =>
    refine { h with thread := ?_ }
    have hthread := h.thread
    rw [hturn] at hthread
    apply hthread.next
    intro live a hsame hstep
    apply hsame.step hrealtime hstep
    rintro pkt blockid azimuth rfl i hright
    -- the tables have the angles of the laser, loaded or not
    rcases hok pkt blockid azimuth (by rw [hturn]; rfl) i hright with
      ⟨hflag, hi⟩ | ⟨hflag, -, hangles⟩
    · exact h.loaded hflag i hi
    · rwa [h.unloaded hflag]
  | nil =>
    have hthread := h.thread
    rw [hturn] at hthread
    have hmoved := RingState.consumerStep_moved s.ring
    have hissued := RingState.consumerStep_issued s.ring
    refine ⟨h.fifo.consumerStep, ?_, ?_, h.saved, h.unloaded, h.rows, h.loaded, ?_⟩
    · rw [hissued]
      exact h.sent
    · rw [hissued]
      exact h.unsent
    · by_cases hpc : s.ring.pc = .move
      · rw [if_pos hpc] at hmoved
        simp only [if_pos hpc, hmoved]
        exact h.nextTurn hpackets hpc hthread
      · rw [if_neg hpc] at hmoved
        simp only [if_neg hpc, hmoved]
        exact hthread

/-! ## Record and replay -/

/-- The condition on a step of a replay. -/
def ReplayOk (tables : CalibrationTables F) (calib : Calibration F) (s : ReplayState F)
    (op : ReplayOp) : Prop :=
  PushOk s op ∧ AnglesKnown tables calib s op

theorem replayProcess_correction (cfg : Config F) (s : ReplayState F) :
    (replayProcess cfg s).correction = s.correction := by
  unfold replayProcess
  split <;> rfl

/-- A step that meets the condition. -/
theorem ReplayInv.step (h : ReplayInv cfg env tables calib packets s)
    (hrealtime : cfg.timestampType = "realtime")
    (hpackets : ∀ packet ∈ packets, Replayable cfg packet)
    (hencodable : ∀ packet ∈ packets, Encodable cfg env calib packet) {op : ReplayOp}
    (hok : ReplayOk tables calib s op) :
    ReplayInv cfg env tables calib packets (replayStep cfg env s op) := by
  cases op with
  | push stale memory => exact h.push hpackets hencodable hok.1
  | process => exact h.process hrealtime hpackets hok.2

/-- Once the correction packet is loaded, the angles are known if all packets have one laser
    number. -/
theorem ReplayInv.anglesKnown_of_loaded (h : ReplayInv cfg env tables calib packets s)
    {lasers : Nat} (hlasers : ∀ n, IsLaserNumber cfg packets n → n = lasers)
    (hflag : s.correction.gotLidarCorrectionFlag = true) (op : ReplayOp) :
    AnglesKnown tables calib s op := by
  cases op with
  | push => trivial
  | process =>
    intro pkt blockid azimuth hturn i hright
    obtain ⟨e, he, hsame⟩ := h.thread.exists_of_mem (List.mem_of_mem_head? hturn)
    obtain ⟨packet, hpacket, he⟩ := List.mem_flatMap.mp he
    have hparse : parsePacket cfg packet = some pkt := by
      cases hsame
      exact (parsePacket_of_mem_turnSteps he).1
    have hpkt := hlasers _ ⟨packet, List.mem_of_mem_take hpacket, pkt, hparse, rfl⟩
    have hrows := hlasers _ (h.rows hflag)
    refine Or.inl ⟨hflag, ?_⟩
    rw [hrows, ← hpkt]
    exact hright.1

/-- What the replay has published is the beginning of what the recorded run has published. -/
theorem ReplayInv.clouds_prefix (h : ReplayInv cfg env tables calib packets s) :
    s.driver.published.map (·.cloud) <+:
      (run cfg (DriverState.init calib) packets).published.map (·.cloud) := by
  have hscript : (packets.take s.ring.moved).flatMap (turnSteps cfg) <+:
      packets.flatMap (turnSteps cfg) := by
    refine ⟨(packets.drop s.ring.moved).flatMap (turnSteps cfg), ?_⟩
    rw [← List.flatMap_append, List.take_append_drop]
  have hprefix := h.thread.prefix_of (fun s => s.published.map (·.cloud))
    (fun s => s.published.map (·.cloud)) (clouds_prefix_instanceStep cfg)
    (fun _ hsame => hsame.clouds) hscript
  rwa [foldl_flatMap_turnSteps] at hprefix

/-- The recorded run is defined: its packets can be processed, and the index is in range after
    each of its steps. -/
def RecordedRunDefined (cfg : Config F) (calib : Calibration F)
    (packets : List (PandarPacket F)) : Prop :=
  EachStep (instanceStep cfg) (StepDefined cfg) (DriverState.init calib)
    (packets.flatMap (turnSteps cfg))

/-- As long as the steps of the recorded run store in range, so do those of the replay. -/
theorem ReplayInv.store_defined (h : ReplayInv cfg env tables calib packets s)
    (hdefined : RecordedRunDefined cfg calib packets) : s.driver.store.Defined cfg := by
  obtain ⟨done, rest, hscript, -, hsame⟩ := h.thread
  -- the replay holds what the recorded run held after the first of its steps
  have hsteps : done ++ (rest ++ (packets.drop s.ring.moved).flatMap (turnSteps cfg)) =
      packets.flatMap (turnSteps cfg) := by
    rw [← List.append_assoc, hscript, ← List.flatMap_append, List.take_append_drop]
  rw [RecordedRunDefined, ← hsteps, eachStep_append] at hdefined
  rw [← hsame.store]
  exact defined_of_steps (defined_init cfg calib) hdefined.1

/-- In every replay of a recording of a run that is defined, in which no packet starts like a
    correction file, the memory after the text of the first correction packet ends its line,
    and a block is processed only with known angles, all points are stored in range, and every
    cloud is the one of the recorded run at the same position. -/
theorem replay_agrees (cfg : Config F) (env : LoadEnv F) (stale : CalibrationTables F)
    (calib : Calibration F) (packets : List (PandarPacket F)) (ops : List ReplayOp)
    (hrealtime : cfg.timestampType = "realtime")
    (hencodable : ∀ packet ∈ packets, Encodable cfg env calib packet)
    (hpackets : ∀ packet ∈ packets, Replayable cfg packet)
    (hdefined : RecordedRunDefined cfg calib packets)
    (hops : let tables := initCalibration env stale cfg.lidarType
      EachStep (replayStep cfg env) (ReplayOk tables calib)
        (ReplayState.init tables (recording cfg calib packets)) ops) :
    let tables := initCalibration env stale cfg.lidarType
    let s := ops.foldl (replayStep cfg env)
      (ReplayState.init tables (recording cfg calib packets))
    s.driver.store.Defined cfg ∧
      s.driver.published.map (·.cloud) <+:
        (run cfg (DriverState.init calib) packets).published.map (·.cloud) := by
  intro tables s
  have hinv : ReplayInv cfg env tables calib packets s :=
    EachStep.inv hops (replayInv_init hpackets hencodable)
      fun _ _ h hok => h.step hrealtime hpackets hencodable hok
  exact ⟨hinv.store_defined hdefined, hinv.clouds_prefix⟩

/-! ## A recording of three packets -/

/-- No step lets more than one packet into the ring. -/
theorem length_accepted_replayStep (cfg : Config F) (env : LoadEnv F) (s : ReplayState F)
    (op : ReplayOp) :
    (replayStep cfg env s op).ring.accepted.length ≤ s.ring.accepted.length + 1 := by
  cases op with
  | push stale memory =>
    simp only [replayStep, replayPush]
    split
    · exact Nat.le_succ _
    split
    · simp only [RingState.pushStep]
      split
      · rw [List.length_append, List.length_singleton]
      · exact Nat.le_succ _
    · split <;> exact Nat.le_succ _
    · exact Nat.le_succ _
  | process =>
    simp only [replayStep, replayProcess]
    split
    · exact Nat.le_succ _
    · have haccepted : s.ring.consumerStep.accepted = s.ring.accepted := by
        unfold RingState.consumerStep
        split
        · split <;> rfl
        · rfl
        · rfl
      rw [haccepted]
      exact Nat.le_succ _

/-- The next message, with a zero byte after its text. -/
def pushZero : ReplayOp := .push (fun _ => 0) [0]

/-- So few steps do not make `1000` packets wait. -/
theorem eachStep_pushOk (cfg : Config F) (env : LoadEnv F) (s : ReplayState F)
    (ops : List ReplayOp) (hops : ∀ op ∈ ops, op = pushZero ∨ op = .process)
    (hlength : s.ring.accepted.length + ops.length ≤ 1000) :
    EachStep (replayStep cfg env) PushOk s ops := by
  induction ops generalizing s with
  | nil => trivial
  | cons op ops ih =>
    rw [List.length_cons] at hlength
    have hone := length_accepted_replayStep cfg env s op
    refine ⟨?_, ih _ (fun op hop => hops op (List.mem_cons_of_mem _ hop)) (by omega)⟩
    rcases hops op List.mem_cons_self with rfl | rfl
    · refine ⟨?_, fun _ _ _ _ => (by decide : [].length < 5)⟩
      unfold RingState.unconsumed
      omega
    · trivial

/-- Sixteen lasers with an elevation of eight degrees. -/
def eightDegrees : Calibration Rat := ⟨fun _ => 8, fun _ => 1 / 2, fun _ => 8 / 57, fun _ => 1⟩

/-- Three packets of the launched lidar. The last two start a new frame each. -/
def threePackets : List (PandarPacket Rat) :=
  [xt16Packet (fun block => 35000 + 100 * block) (fun _ => 1000),
    xt16Packet (fun block => 100 * block) (fun _ => 1000),
    xt16Packet (fun block => 100 * block) (fun _ => 1000)]

/-- The tables of the launched lidar. -/
abbrev launchTables : CalibrationTables Rat :=
  initCalibration LoadEnv.launch ⟨Calibration.zero, 0⟩ launchConfig.lidarType

/-- A fresh instance before the recording of the three packets. -/
abbrev launchReplay : ReplayState Rat :=
  ReplayState.init launchTables (recording launchConfig eightDegrees threePackets)

theorem laserNumber_threePackets :
    ∀ n, IsLaserNumber launchConfig threePackets n → n = 16 := by
  have hall : ∀ packet ∈ threePackets, ∀ pkt ∈ parsePacket launchConfig packet,
      pkt.laserNumber.toNat = 16 := by
    decide +kernel
  rintro n ⟨packet, hpacket, pkt, hparse, rfl⟩
  exact hall packet hpacket pkt hparse

theorem replayable_threePackets :
    ∀ packet ∈ threePackets, Replayable launchConfig packet := by
  have hall : ∀ packet ∈ threePackets, acceptedFits launchConfig packet = true ∧
      isCorrectionFile (rawPacket packet).data = some false := by
    decide +kernel
  exact fun packet hpacket => ⟨(hall packet hpacket).1, (hall packet hpacket).2⟩

theorem recordedRunDefined_threePackets :
    RecordedRunDefined launchConfig eightDegrees threePackets := by
  unfold RecordedRunDefined
  decide +kernel

theorem encodable_threePackets :
    ∀ packet ∈ threePackets, Encodable launchConfig LoadEnv.launch eightDegrees packet := by
  have hstamp : ∀ packet ∈ threePackets, StampSurvives packet := by
    unfold StampSurvives
    decide +kernel
  intro packet hpacket
  refine ⟨hstamp packet hpacket, fun pkt hparse => ?_⟩
  rw [laserNumber_threePackets _ ⟨packet, hpacket, pkt, hparse, rfl⟩]
  exact ⟨savable_sixteenLasers, fun _ _ => rfl, fun _ _ => rfl⟩

/-- All messages of the first scan are pushed before the thread takes a step. -/
def loadedFirst : List ReplayOp :=
  [pushZero, pushZero, pushZero, pushZero] ++ List.replicate 30 .process

/-- The thread has processed the first packet before the correction packet is pushed. -/
def processedFirst : List ReplayOp :=
  [pushZero, pushZero] ++ List.replicate 22 .process ++ [pushZero, pushZero] ++
    List.replicate 6 .process

theorem replayOk_loadedFirst :
    EachStep (replayStep launchConfig LoadEnv.launch) (ReplayOk launchTables eightDegrees)
      launchReplay loadedFirst := by
  have hpush : EachStep (replayStep launchConfig LoadEnv.launch) PushOk launchReplay
      [pushZero, pushZero, pushZero, pushZero] :=
    eachStep_pushOk launchConfig LoadEnv.launch launchReplay _ (by simp) (by decide)
  have hfirst : EachStep (replayStep launchConfig LoadEnv.launch)
      (ReplayOk launchTables eightDegrees) launchReplay
      [pushZero, pushZero, pushZero, pushZero] := by
    obtain ⟨h0, h1, h2, h3, -⟩ := hpush
    exact ⟨⟨h0, trivial⟩, ⟨h1, trivial⟩, ⟨h2, trivial⟩, ⟨h3, trivial⟩, trivial⟩
  have hinv := hfirst.inv
    (replayInv_init replayable_threePackets encodable_threePackets)
    fun _ _ h hok => h.step rfl replayable_threePackets encodable_threePackets hok
  have hflag : ([pushZero, pushZero, pushZero, pushZero].foldl
      (replayStep launchConfig LoadEnv.launch)
      launchReplay).correction.gotLidarCorrectionFlag = true := by
    decide +kernel
  refine (eachStep_append _ _).mpr ⟨hfirst, ?_⟩
  -- from here on the flag stays set
  apply eachStep_of_inv (P := fun s => ReplayInv launchConfig LoadEnv.launch launchTables
    eightDegrees threePackets s ∧ s.correction.gotLidarCorrectionFlag = true) ⟨hinv, hflag⟩
  · rintro s op hop ⟨h, hset⟩
    obtain rfl := List.eq_of_mem_replicate hop
    have hknown := h.anglesKnown_of_loaded laserNumber_threePackets hset .process
    refine ⟨h.process rfl replayable_threePackets hknown, ?_⟩
    rwa [replayStep, replayProcess_correction]
  · rintro s op hop ⟨h, hset⟩
    obtain rfl := List.eq_of_mem_replicate hop
    exact ⟨trivial, h.anglesKnown_of_loaded laserNumber_threePackets hset .process⟩

/-- If the thread waits for the correction packet, the clouds are the same. -/
theorem replay_agrees_loadedFirst :
    let tables := initCalibration LoadEnv.launch ⟨Calibration.zero, 0⟩ launchConfig.lidarType
    let s := loadedFirst.foldl (replayStep launchConfig LoadEnv.launch)
      (ReplayState.init tables (recording launchConfig eightDegrees threePackets))
    s.driver.store.Defined launchConfig ∧
      s.driver.published.map (·.cloud) <+:
        (run launchConfig (DriverState.init eightDegrees) threePackets).published.map (·.cloud) :=
  replay_agrees launchConfig LoadEnv.launch ⟨Calibration.zero, 0⟩ eightDegrees threePackets
    loadedFirst rfl encodable_threePackets replayable_threePackets recordedRunDefined_threePackets
    replayOk_loadedFirst

/-- The height of the first point of the first cloud. -/
def firstHeight (clouds : List (PPointCloud Rat)) : Option Rat :=
  (clouds.head?.bind (·.points.head?)).map (·.z)

theorem firstHeight_of_prefix {clouds clouds' : List (PPointCloud Rat)} {z : Rat}
    (h : clouds <+: clouds') (hz : firstHeight clouds = some z) :
    firstHeight clouds' = some z := by
  obtain ⟨more, rfl⟩ := h
  cases clouds with
  | nil => simp [firstHeight] at hz
  | cons cloud clouds => exact hz

/-- A packet that is processed before the correction packet is loaded has the elevations of
    the constructor: its first point is at `60 / 57` metres and not at `32 / 57`. -/
theorem replay_before_load_differs :
    ¬ ∀ (calib : Calibration Rat) (packets : List (PandarPacket Rat)) (ops : List ReplayOp),
      (∀ packet ∈ packets, Encodable launchConfig LoadEnv.launch calib packet) →
      (∀ packet ∈ packets, Replayable launchConfig packet) →
      RecordedRunDefined launchConfig calib packets →
      EachStep (replayStep launchConfig LoadEnv.launch) PushOk
        (ReplayState.init launchTables (recording launchConfig calib packets)) ops →
      (ops.foldl (replayStep launchConfig LoadEnv.launch) (ReplayState.init launchTables
          (recording launchConfig calib packets))).driver.published.map (·.cloud) <+:
        (run launchConfig (DriverState.init calib) packets).published.map (·.cloud) := by
  intro hclaim
  have hpush := eachStep_pushOk launchConfig LoadEnv.launch launchReplay processedFirst
    (by simp [processedFirst]) (by decide)
  have hprefix := hclaim eightDegrees threePackets processedFirst encodable_threePackets
    replayable_threePackets recordedRunDefined_threePackets hpush
  have hreplayed : firstHeight ((processedFirst.foldl (replayStep launchConfig LoadEnv.launch)
      (ReplayState.init launchTables (recording launchConfig eightDegrees
        threePackets))).driver.published.map (·.cloud)) = some (60 / 57) := by
    decide +kernel
  have hrecorded : firstHeight ((run launchConfig (DriverState.init eightDegrees)
      threePackets).published.map (·.cloud)) = some (32 / 57) := by
    decide +kernel
  have hsame := firstHeight_of_prefix hprefix hreplayed
  rw [hrecorded] at hsame
  exact absurd hsame (by decide +kernel)

end Hesai
