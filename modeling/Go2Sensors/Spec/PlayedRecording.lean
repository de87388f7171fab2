import Mathlib.Algebra.Group.Nat.Defs
import Mathlib.Data.List.Flatten
import Go2Sensors.ForStd.KeepLast
import Go2Sensors.Native.Node
import Go2Sensors.Spec.Live
import Go2Sensors.Spec.RejectedPackets

/-!
# A recording that is played while it is made

The packets that the playing node processes are packets of the recording node, in the same
order, but not all of them: a scan may be lost on its way or in the subscription. If none is,
the playing node publishes what the recording node has published.

## Key results

- `NodesInv.step`: what the playing node has been given
- `played_recording`: what it publishes
-/

namespace Hesai

open Run KeepLast

variable {F : Type} [CFloat F] {cfg : Config F} {env : LoadEnv F} {calib : Calibration F}
  {s : ReplayState F}

/-! ## The packets of the frames -/

/-- The packets that are not passed over. -/
def accepted (cfg : Config F) (packets : List (PandarPacket F)) : List (PandarPacket F) :=
  packets.filter (parsePacket cfg · |>.isSome)

omit [CFloat F] in
theorem isSome_of_mem_accepted {packets : List (PandarPacket F)} {packet : PandarPacket F}
    (h : packet ∈ accepted cfg packets) : packet ∈ packets ∧ (parsePacket cfg packet).isSome :=
  List.mem_filter.mp h

/-- A packet that is passed over changes no frame. -/
theorem published_run_accepted (cfg : Config F) (packets : List (PandarPacket F))
    (d : DriverState F) (stamp : F) :
    (run cfg { d with dPktTimestamp := stamp } packets).published =
      (run cfg d (accepted cfg packets)).published := by
  induction packets generalizing d stamp with
  | nil => rfl
  | cons packet packets ih =>
    rw [accepted, List.filter_cons]
    cases hparse : parsePacket cfg packet with
    | none =>
      -- only the time of reception is kept, and no frame depends on it
      have hpassed : processLiarPacket cfg { d with dPktTimestamp := stamp } packet =
          { d with dPktTimestamp := packet.stamp } := by
        rw [processLiarPacket, hparse]
      show (run cfg (processLiarPacket cfg _ packet) packets).published = _
      rw [hpassed]
      exact ih d packet.stamp
    | some pkt =>
      show (run cfg (processLiarPacket cfg _ packet) packets).published =
        (run cfg (processLiarPacket cfg d packet) (accepted cfg packets)).published
      -- an accepted packet brings its own time
      rw [processLiarPacket_stamp]
      exact ih (processLiarPacket cfg d packet) _

/-- What the thread has published, it has published for the packets that were moved. -/
theorem LiveInv.frames_moved (h : LiveInv cfg calib SameButXyz s) :
    s.driver.published.map Frame.withoutXyz <+:
      (run cfg (DriverState.init calib) (s.ring.issued.take s.ring.moved)).published.map
        Frame.withoutXyz := by
  have hprefix := h.thread.prefix_of (fun s => s.published.map Frame.withoutXyz)
    (fun s => s.published.map Frame.withoutXyz)
    (fun live e => (frames_prefix_instanceStep cfg live e).map _)
    (fun live hrel => hrel.published) List.prefix_rfl
  rwa [foldl_flatMap_turnSteps] at hprefix

/-- The packets of frames, from the frames without coordinates. -/
theorem flatMap_raws_withoutXyz (frames : List (Frame F)) :
    (frames.map Frame.withoutXyz).flatMap (·.scan) = frames.flatMap Frame.raws := by
  rw [List.flatMap_map]
  rfl

theorem raws_prefix_of_frames {frames frames' : List (Frame F)}
    (h : frames.map Frame.withoutXyz <+: frames'.map Frame.withoutXyz) :
    frames.flatMap Frame.raws <+: frames'.flatMap Frame.raws := by
  rw [← flatMap_raws_withoutXyz, ← flatMap_raws_withoutXyz]
  exact h.flatMap _

/-- The scans of a run hold its first packets. -/
theorem raws_prefix_run (cfg : Config F) (calib : Calibration F)
    (packets : List (PandarPacket F)) :
    (run cfg (DriverState.init calib) packets).published.flatMap Frame.raws <+:
      (accepted cfg packets).map rawPacket :=
  ⟨_, (scanInv_run cfg calib packets).all⟩

/-- The packets of the frames that a thread has published are the first ones of its ring. -/
theorem LiveInv.raws_prefix (h : LiveInv cfg calib SameButXyz s) :
    s.driver.published.flatMap Frame.raws <+: (accepted cfg s.ring.issued).map rawPacket := by
  refine (raws_prefix_of_frames h.frames_moved).trans ((raws_prefix_run cfg calib _).trans ?_)
  exact ((List.take_prefix _ _).filter _).map _

/-- More packets, more frames. -/
theorem frames_prefix_run (cfg : Config F) (d : DriverState F)
    {packets whole : List (PandarPacket F)} (h : packets <+: whole) :
    (run cfg d packets).published <+: (run cfg d whole).published := by
  -- the steps of the later packets only add frames
  obtain ⟨later, rfl⟩ := h
  rw [← foldl_flatMap_turnSteps, ← foldl_flatMap_turnSteps, List.flatMap_append, List.foldl_append]
  exact Following.prefix_foldl (frames_prefix_instanceStep cfg) _ _

/-- Whoever has the packets of some frames only, but for the last one, has no other frames. -/
theorem frames_of_raws {packets whole : List (PandarPacket F)} {frames : List (Frame F)}
    (hpackets : packets <+: whole)
    (hframes : frames.map Frame.withoutXyz <+:
      (run cfg (DriverState.init calib) whole).published.map Frame.withoutXyz)
    (hraws : packets.map rawPacket <+: frames.flatMap Frame.raws) :
    (run cfg (DriverState.init calib) packets.dropLast).published.map Frame.withoutXyz <+:
      frames.map Frame.withoutXyz := by
  have hrun := frames_prefix_run cfg (DriverState.init calib)
    (packets.dropLast_prefix.trans hpackets)
  refine List.prefix_of_prefix_length_le (hrun.map _) hframes (Nat.le_of_not_lt fun hlt => ?_)
  -- otherwise its packets have been in these frames, all of them
  have hall := (raws_prefix_of_frames (List.prefix_of_prefix_length_le hframes (hrun.map _)
    (Nat.le_of_lt hlt))).trans (raws_prefix_run cfg calib packets.dropLast)
  have hlength : packets.length ≤ packets.dropLast.length := by
    have hle := (hraws.trans hall).length_le
    rw [List.length_map, List.length_map] at hle
    exact Nat.le_trans hle (List.length_filter_le _ _)
  rw [List.length_dropLast] at hlength
  have hnil : packets = [] := List.length_eq_zero_iff.mp (by omega)
  subst hnil
  exact Nat.not_lt_zero _ hlt

/-! ## Packets that are played -/

/-- The condition on a packet of the recording node: if it is accepted, it can be played and its
    stamp survives. -/
def Playable (cfg : Config F) (packet : PandarPacket F) : Prop :=
  (parsePacket cfg packet).isSome → Replayable cfg packet ∧ StampSurvives packet

/-- A played packet does what the recorded one did. -/
theorem processLiarPacket_replayed (d : DriverState F) {packet packet' : PandarPacket F}
    (h : packet.Replayed packet') (hfits : acceptedFits cfg packet = true) :
    processLiarPacket cfg d packet' = processLiarPacket cfg d packet := by
  -- the bytes behind the length differ, and nothing depends on them
  have hraw : rawPacket packet' = rawPacket packet := by
    have hdata : bytes packet'.data packet'.size = bytes packet.data packet.size := by
      rw [bytes, bytes, ← h.size]
      refine List.map_congr_left fun i hi => (h.data i ?_).symm
      exact List.mem_range.mp hi
    simp only [rawPacket, hdata, h.stamp, h.size]
  rw [processLiarPacket, processLiarPacket, parsePacket_eq_of_sameBytes h.toSameBytes hfits, hraw,
    h.stamp]

theorem run_replayed {packets packets' : List (PandarPacket F)}
    (h : List.Forall₂ PandarPacket.Replayed packets packets')
    (hfits : ∀ packet ∈ packets, acceptedFits cfg packet = true) (d : DriverState F) :
    run cfg d packets' = run cfg d packets := by
  induction h generalizing d with
  | nil => rfl
  | @cons packet packet' packets packets' hpacket _ ih =>
    have hrest := ih (fun p hp => hfits p (List.mem_cons_of_mem _ hp))
      (processLiarPacket cfg d packet)
    show run cfg (processLiarPacket cfg d packet') packets' = _
    rw [processLiarPacket_replayed d hpacket (hfits packet List.mem_cons_self)]
    exact hrest

/-- The message became this packet. -/
def Pushes (msg : PandarPacketMsg) (packet : PandarPacket F) : Prop :=
  ∃ stale got, pushPacket stale got msg = .pushed packet

/-- What the messages of packets became are these packets again. -/
theorem replayed_of_pushes {packets packets' : List (PandarPacket F)}
    (h : List.Forall₂ Pushes (packets.map rawPacket) packets')
    (hpackets : ∀ packet ∈ packets, (parsePacket cfg packet).isSome ∧ Playable cfg packet) :
    List.Forall₂ PandarPacket.Replayed packets packets' := by
  rw [List.forall₂_map_left_iff] at h
  induction h with
  | nil => exact List.Forall₂.nil
  | @cons packet packet' packets packets' hpushes _ ih =>
    refine List.Forall₂.cons ?_ (ih fun p hp => hpackets p (List.mem_cons_of_mem _ hp))
    obtain ⟨hsome, hplayable⟩ := hpackets packet List.mem_cons_self
    obtain ⟨hreplayable, hstamp⟩ := hplayable hsome
    obtain ⟨pkt, hparse⟩ := Option.isSome_iff_exists.mp hsome
    obtain ⟨stale, got, hpush⟩ := hpushes
    obtain ⟨packet'', hpush', hreplayed⟩ :=
      pushPacket_rawPacket stale got hparse hreplayable.marker hstamp
    obtain rfl : packet'' = packet' := Ingested.pushed.inj (hpush'.symm.trans hpush)
    exact hreplayed

/-! ## The two nodes -/

/-- Every message of a scan that is no packet is a calibration. -/
structure Marked (d : DriverState F) : Prop where
  pending : ∀ msg ∈ d.scan, msg.isCorrection = false
  frames : ∀ f ∈ d.published, ∀ msg ∈ f.scan, msg.isCorrection = true →
    ∃ (calib : Calibration F) (laserNumber : Int), msg = saveCorrectionFile calib laserNumber

theorem Marked.step {d : DriverState F} (h : Marked d) (calib : Calibration F)
    (e : InstanceStep F) : Marked (instanceStep cfg { d with calibration := calib } e) := by
  cases e with
  | take packet => exact ⟨h.pending, h.frames⟩
  | keep packet =>
    refine ⟨fun msg hmsg => ?_, h.frames⟩
    rcases List.mem_append.mp hmsg with hold | hnew
    · exact h.pending msg hold
    · rw [List.mem_singleton.mp hnew]
      exact isCorrection_rawPacket packet
  -- what goes out with a frame ends with its calibration
  | emission pkt azimuth =>
    simp only [instanceStep]
    split
    · by_cases hemit : canEmit cfg d.store = true
      · let d' := { d with calibration := calib }
        obtain ⟨hpublished, hscan⟩ : (cutFrame cfg pkt.laserNumber d').published =
            d.published ++ [emittedFrame cfg pkt.laserNumber d'] ∧
              (cutFrame cfg pkt.laserNumber d').scan = [] := cutFrame_published hemit
        refine ⟨fun msg hmsg => ?_, fun f hf msg hmsg hcorrection => ?_⟩
        · rw [hscan] at hmsg
          exact absurd hmsg List.not_mem_nil
        · rw [hpublished] at hf
          rcases List.mem_append.mp hf with hold | hnew
          · exact h.frames f hold msg hmsg hcorrection
          · rw [List.mem_singleton.mp hnew] at hmsg
            rcases List.mem_append.mp hmsg with hraw | hlast
            · exact absurd hcorrection (by simp [h.pending msg hraw])
            · exact ⟨d'.calibration, pkt.laserNumber, List.mem_singleton.mp hlast⟩
      · rw [cutFrame_of_not_canEmit (by simpa using hemit)]
        exact ⟨h.pending, h.frames⟩
    · exact ⟨h.pending, h.frames⟩
  | block pkt blockid azimuth => exact ⟨h.pending, h.frames⟩
  | finish => exact ⟨h.pending, h.frames⟩

/-- What holds of the driver under any calibrations. -/
theorem driver_liveStep {P : DriverState F → Prop} (h : P s.driver)
    (hstep : ∀ d calib e, P d → P (instanceStep cfg { d with calibration := calib } e))
    (env : LoadEnv F) (op : LiveOp F) : P (liveStep cfg env s op).driver := by
  by_cases hop : op = .process
  · -- the thread takes a step, or one at the ring
    subst hop
    show P (replayProcess cfg s).driver
    unfold replayProcess
    split
    · exact hstep _ _ _ h
    · exact h
  · rw [(liveStep_other cfg env s hop).2.2]
    exact h

/-- The packets that a step pushes. -/
theorem issued_liveStep (cfg : Config F) (env : LoadEnv F) (s : ReplayState F) (op : LiveOp F) :
    (liveStep cfg env s op).ring.issued = s.ring.issued ++ (op.input s).packets := by
  by_cases hop : op = .process
  · subst hop
    exact (replayProcess_ring cfg s).1.trans (List.append_nil _).symm
  · rw [(liveStep_other cfg env s hop).1]
    cases op.input s with
    | pushed pkt => rfl
    | nothing | undefined => exact (List.append_nil _).symm

/-- A calibration of less than two gigabytes is one that `PushScanPacket` can copy. -/
theorem pushCorrection_defined (env : LoadEnv F) (memory : List UInt8) (c : CorrectionState F)
    {msg : PandarPacketMsg} (hlength : msg.data.length = msg.size + 8)
    (hsize : msg.size < 2 ^ 31) : ∃ c', pushCorrection env memory none c msg = some c' := by
  -- the header has eight bytes, and what is copied lies in the data
  have hload : ∃ c', loadFromPacket env memory c msg = some c' := by
    unfold loadFromPacket
    split
    · next hdata =>
      rw [hdata] at hlength
      simp only [List.length_cons] at hlength
      dsimp only
      split
      · rw [if_neg (by omega)]
        exact ⟨_, rfl⟩
      · exact ⟨_, rfl⟩
    · next hshort =>
      -- it has a header
      match hdata : msg.data with
      | _ :: _ :: _ :: _ :: _ :: _ :: _ :: _ :: _ => exact absurd hdata (hshort _ _ _ _ _ _ _ _ _)
      | [] | [_] | [_, _] | [_, _, _] | [_, _, _, _] | [_, _, _, _, _] | [_, _, _, _, _, _]
      | [_, _, _, _, _, _, _] =>
        rw [hdata] at hlength
        simp only [List.length_cons, List.length_nil] at hlength
        omega
  obtain ⟨c', hload⟩ := hload
  unfold pushCorrection
  split
  · exact ⟨_, rfl⟩
  · rw [hload]
    exact ⟨_, rfl⟩

/-- The playing node can push its next message: there is room for a packet, no calibration is of
    two gigabytes, and one that is loaded has no more rows than the row arrays. -/
structure PlayerPushOk (env : LoadEnv F) (stale : Nat → UInt8) (memory : List UInt8)
    (s : ReplayState F) : Prop where
  room : s.ring.unconsumed < pktArraySize
  size : ∀ msg ∈ s.todo, msg.size < 2 ^ 31
  rows : (replayPush env stale memory s).correction.tables.elevationSize ≤ 64

/-- The condition on a step of the recording node: it is defined, and the packets that come in can
    be played. -/
def RecorderOk (cfg : Config F) (env : LoadEnv F) (s : ReplayState F) (op : LiveOp F) : Prop :=
  LiveOk cfg env s op ∧ ∀ packet ∈ (op.input s).packets, Playable cfg packet

/-- The condition on a step of the playing node. -/
def PlayerOk (cfg : Config F) (env : LoadEnv F) (s : ReplayState F) : ReplayOp → Prop
  | .push stale memory => PlayerPushOk env stale memory s
  | .process => ThreadDefined cfg s

/-- The condition on a step of the two nodes. -/
def NodesOk (cfg : Config F) (env : LoadEnv F) (s : NodesState F) : NodesOp F → Prop
  | .record op => RecorderOk cfg env s.recorder op
  | .play op => PlayerOk cfg env s.player op
  | .arrive | .lose | .echo | .spin => True

/-- The subscription of the playing node. -/
def NodesState.channel (s : NodesState F) : Channel PandarScan :=
  ⟨s.waiting, s.calls, s.arrived⟩

/-- The packets of scans. -/
def rawsOf (scans : List PandarScan) : List PandarPacketMsg :=
  scans.flatten.filter (!·.isCorrection)

/-- Where the nodes stand: what the playing node was called with are scans of the recording
    node, and what it has pushed are the packets of these calls, but for those that are left. -/
structure NodesInv (recordParams : NodeParams) (cfg : Config F) (calib : Calibration F)
    (s : NodesState F) : Prop where
  recorder : LiveInv cfg calib SameButXyz s.recorder
  playable : ∀ packet ∈ s.recorder.ring.issued, Playable cfg packet
  marked : Marked s.recorder.driver
  player : LiveInv cfg calib SameButXyz s.player
  passes : Channel.Passes 10 s.channel
  arrived : s.arrived.Sublist ((scansOf recordParams s.recorder).take s.sent)
  todo : ∀ msg ∈ s.player.todo, msg ∈ s.calls.flatten
  pushed : ∃ raws, raws ++ s.player.todo.filter (!·.isCorrection) = rawsOf s.calls ∧
    List.Forall₂ Pushes raws s.player.ring.issued

variable {history : Nat → List PandarScan → PandarScan → List PandarScan}
  {recordParams playParams : NodeParams} {n : NodesState F}

theorem nodesInv_init (recordParams : NodeParams) (cfg : Config F) (calib : Calibration F)
    (recorderTables playerTables : CalibrationTables F) :
    NodesInv recordParams cfg calib (NodesState.init recorderTables playerTables) where
  recorder := liveInv_init ⟨rfl, rfl, rfl, rfl, rfl, rfl⟩
  playable _ h := absurd h List.not_mem_nil
  marked := ⟨fun _ h => absurd h List.not_mem_nil, fun _ h => absurd h List.not_mem_nil⟩
  player := liveInv_init ⟨rfl, rfl, rfl, rfl, rfl, rfl⟩
  passes := Channel.passes_init 10
  arrived := List.Sublist.refl []
  todo _ h := absurd h List.not_mem_nil
  pushed := ⟨[], rfl, List.Forall₂.nil⟩

/-- The scans of a node only grow. -/
theorem scansOf_liveStep (params : NodeParams) (cfg : Config F) (env : LoadEnv F)
    (s : ReplayState F) (op : LiveOp F) :
    scansOf params s <+: scansOf params (liveStep cfg env s op) := by
  apply List.IsPrefix.filterMap
  apply driver_liveStep (P := fun d => s.driver.published <+: d.published) List.prefix_rfl
  intro d calib e h
  exact h.trans (frames_prefix_instanceStep cfg { d with calibration := calib } e)

/-- The packets of the calls are packets of the recording node. -/
theorem NodesInv.calls_sublist (h : NodesInv recordParams cfg calib n) :
    n.calls.Sublist (scansOf recordParams n.recorder) := by
  obtain ⟨older, harrived, hcalls⟩ := h.passes.order
  -- calls are arrived scans, which are scans that were sent
  have holder : older.Sublist n.arrived := by
    rw [show n.arrived = older ++ n.waiting from harrived]
    exact List.sublist_append_left _ _
  exact hcalls.trans (holder.trans (h.arrived.trans (List.take_sublist _ _)))

/-- The scans of a node are those of its frames, or there are none. -/
theorem scansOf_eq (params : NodeParams) (s : ReplayState F) :
    scansOf params s =
      if params.publishType = "both" ∨ params.publishType = "raw" then
        s.driver.published.map (·.scan)
      else [] := by
  unfold scansOf
  split
  · next hraw =>
    simp only [lidarCallback, if_pos hraw]
    rw [List.filterMap_eq_map']
  · next hraw => simp only [lidarCallback, if_neg hraw, List.filterMap_none]

theorem scansOf_sublist (params : NodeParams) (s : ReplayState F) :
    (scansOf params s).Sublist (s.driver.published.map (·.scan)) := by
  rw [scansOf_eq]
  split
  · exact List.Sublist.refl _
  · exact List.nil_sublist _

omit [CFloat F] in
/-- The packets of frames are those of their scans. -/
theorem rawsOf_map_scan (frames : List (Frame F)) :
    rawsOf (frames.map (·.scan)) = frames.flatMap Frame.raws := by
  rw [rawsOf, List.filter_flatten, List.map_map, ← List.flatMap_def]
  rfl

/-- The packets of the calls are packets of the recording node. -/
theorem NodesInv.rawsOf_calls (h : NodesInv recordParams cfg calib n) :
    (rawsOf n.calls).Sublist ((accepted cfg n.recorder.ring.issued).map rawPacket) := by
  have hscans := (h.calls_sublist.trans (scansOf_sublist recordParams n.recorder)).flatten.filter
    (!·.isCorrection)
  refine hscans.trans ?_
  show (rawsOf _).Sublist _
  rw [rawsOf_map_scan]
  exact h.recorder.raws_prefix.sublist

/-- A message of a call is a calibration or a packet that can be played. -/
theorem NodesInv.message (h : NodesInv recordParams cfg calib n) {msg : PandarPacketMsg}
    (hmsg : msg ∈ n.calls.flatten) :
    (msg.isCorrection = true ∧ ∃ (calib : Calibration F) (laserNumber : Int),
      msg = saveCorrectionFile calib laserNumber) ∨
    (msg.isCorrection = false ∧ ∀ stale got, ∃ packet : PandarPacket F,
      pushPacket stale got msg = .pushed packet) := by
  cases hcorrection : msg.isCorrection with
  | true =>
    have hscans := h.calls_sublist.trans (scansOf_sublist recordParams n.recorder)
    obtain ⟨scan, hscan, hmsg⟩ := List.mem_flatten.mp hmsg
    obtain ⟨f, hf, rfl⟩ := List.mem_map.mp (hscans.subset hscan)
    exact Or.inl ⟨rfl, h.marked.frames f hf msg hmsg hcorrection⟩
  | false =>
    -- it is a packet that the recording node has accepted
    have hraw : msg ∈ rawsOf n.calls := List.mem_filter.mpr ⟨hmsg, by simp [hcorrection]⟩
    obtain ⟨packet, hpacket, rfl⟩ := List.mem_map.mp (h.rawsOf_calls.subset hraw)
    obtain ⟨hissued, hsome⟩ := isSome_of_mem_accepted hpacket
    obtain ⟨hreplayable, hstamp⟩ := h.playable packet hissued hsome
    obtain ⟨pkt, hparse⟩ := Option.isSome_iff_exists.mp hsome
    refine Or.inr ⟨rfl, fun stale got => ?_⟩
    obtain ⟨packet', hpush, -⟩ := pushPacket_rawPacket stale got hparse hreplayable.marker hstamp
    exact ⟨packet', hpush⟩

/-- A step of the recording node. -/
theorem NodesInv.record (h : NodesInv recordParams cfg calib n) {op : LiveOp F}
    (hok : RecorderOk cfg env n.recorder op) :
    NodesInv recordParams cfg calib { n with recorder := liveStep cfg env n.recorder op } where
  recorder := h.recorder.step_withoutXyz hok.1
  playable := by
    intro packet hpacket
    rw [issued_liveStep] at hpacket
    rcases List.mem_append.mp hpacket with hold | hnew
    · exact h.playable packet hold
    · exact hok.2 packet hnew
  marked := driver_liveStep h.marked (fun _ calib e hd => hd.step calib e) env op
  player := h.player
  passes := h.passes
  arrived := by
    refine h.arrived.trans (List.IsPrefix.sublist ?_)
    exact (scansOf_liveStep recordParams cfg env n.recorder op).take n.sent
  todo := h.todo
  pushed := h.pushed

/-- A scan arrives. -/
theorem NodesInv.put (h : NodesInv recordParams cfg calib n) (hhistory : KeepsLast history)
    {scan : PandarScan} (hscan : (scansOf recordParams n.recorder)[n.sent]? = some scan) :
    NodesInv recordParams cfg calib
      (NodesState.put history { n with sent := n.sent + 1 } scan) where
  recorder := h.recorder
  playable := h.playable
  marked := h.marked
  player := h.player
  passes := by
    obtain rfl := hhistory.eq_push
    exact h.passes.step (.push scan)
  arrived := by
    obtain ⟨hlt, rfl⟩ := List.getElem?_eq_some_iff.mp hscan
    show (n.arrived ++ [_]).Sublist ((scansOf recordParams n.recorder).take (n.sent + 1))
    rw [List.take_succ_eq_append_getElem hlt]
    exact h.arrived.append (List.Sublist.refl _)
  todo := h.todo
  pushed := h.pushed

/-- A scan is on its way no longer. -/
theorem NodesInv.lose (h : NodesInv recordParams cfg calib n) :
    NodesInv recordParams cfg calib { n with sent := n.sent + 1 } where
  recorder := h.recorder
  playable := h.playable
  marked := h.marked
  player := h.player
  passes := h.passes
  arrived := h.arrived.trans (List.take_sublist_take_left (Nat.le_succ n.sent))
  todo := h.todo
  pushed := h.pushed

/-- `scanCallback` is called. -/
theorem NodesInv.spin (h : NodesInv recordParams cfg calib n) (htodo : n.player.todo = [])
    {scan : PandarScan} {waiting : List PandarScan} (hwaiting : n.waiting = scan :: waiting) :
    NodesInv recordParams cfg calib
      { n with
        player := { n.player with todo := scan }
        waiting
        calls := n.calls ++ [scan] } where
  recorder := h.recorder
  playable := h.playable
  marked := h.marked
  player := ⟨h.player.fifo, h.player.thread⟩
  passes := by
    have hnext := h.passes.step .take
    simpa [NodesState.channel, Channel.step, hwaiting] using hnext
  arrived := h.arrived
  todo := by
    intro msg hmsg
    show msg ∈ (n.calls ++ [scan]).flatten
    rw [List.flatten_append, List.flatten_singleton]
    exact List.mem_append_right _ hmsg
  pushed := by
    obtain ⟨raws, hraws, hpushes⟩ := h.pushed
    refine ⟨raws, ?_, hpushes⟩
    show raws ++ scan.filter _ = rawsOf (n.calls ++ [scan])
    rw [htodo, List.filter_nil, List.append_nil] at hraws
    rw [rawsOf, List.flatten_append, List.flatten_singleton, List.filter_append, hraws, rawsOf]

/-- The next message of `PushScanPacket`. -/
theorem NodesInv.push (h : NodesInv recordParams cfg calib n) (stale : Nat → UInt8)
    (memory : List UInt8) (hok : PlayerPushOk env stale memory n.player) :
    NodesInv recordParams cfg calib
      { n with player := replayPush env stale memory n.player } := by
  -- only the playing node changes
  suffices hrest : LiveInv cfg calib SameButXyz (replayPush env stale memory n.player) ∧
      (∀ msg ∈ (replayPush env stale memory n.player).todo, msg ∈ n.calls.flatten) ∧
      ∃ raws, raws ++ (replayPush env stale memory n.player).todo.filter (!·.isCorrection) =
        rawsOf n.calls ∧ List.Forall₂ Pushes raws (replayPush env stale memory n.player).ring.issued
    from ⟨h.recorder, h.playable, h.marked, hrest.1, h.passes, h.arrived, hrest.2.1, hrest.2.2⟩
  cases htodo : n.player.todo with
  | nil =>
    have hsame : replayPush env stale memory n.player = n.player := by
      simp only [replayPush, htodo]
    rw [hsame]
    exact ⟨h.player, h.todo, h.pushed⟩
  | cons msg todo =>
    have hmsg : msg ∈ n.player.todo := by rw [htodo]; exact List.mem_cons_self
    have hcalls : ∀ msg' ∈ todo, msg' ∈ n.calls.flatten := fun msg' hmsg' =>
      h.todo msg' (by rw [htodo]; exact List.mem_cons_of_mem _ hmsg')
    obtain ⟨raws, hraws, hpushes⟩ := h.pushed
    rw [htodo] at hraws
    rcases h.message (h.todo msg hmsg) with
      ⟨hcorrection, calib', laserNumber, rfl⟩ | ⟨hcorrection, hpacket⟩
    · -- the calibration goes to the tables
      obtain ⟨correction, hsome⟩ := pushCorrection_defined env memory n.player.correction
        (of_decide_eq_true hcorrection) (hok.size _ hmsg)
      have hnothing := pushPacket_correction stale
        (show isCorrectionFile (saveCorrectionFile calib' laserNumber).data = some true from rfl)
        hsome
      have hpush : replayPush env stale memory n.player = { n.player with todo, correction } := by
        simp only [replayPush, htodo, hnothing, hsome]
      rw [hpush]
      rw [List.filter_cons_of_neg (by simp [hcorrection])] at hraws
      exact ⟨⟨h.player.fifo, h.player.thread⟩, hcalls, raws, hraws, hpushes⟩
    · -- the packet goes to the ring
      obtain ⟨packet, hpacket⟩ := hpacket stale n.player.correction.gotLidarCorrectionFlag
      have hinput : LiveOp.input n.player (.push stale memory) = .pushed packet := by
        simp only [LiveOp.input, htodo, hpacket]
      have hlive : LiveOk cfg env n.player (.push stale memory) := by
        refine ⟨?_, fun _ _ => hok.room, hok.rows, by simp⟩
        rw [hinput]
        simp
      have hpush : replayPush env stale memory n.player =
          { n.player with todo, ring := n.player.ring.pushStep packet } := by
        simp only [replayPush, htodo, hpacket]
      have hplayer : LiveInv cfg calib SameButXyz
          (liveStep cfg env n.player (.push stale memory)) := h.player.step_withoutXyz hlive
      refine ⟨hplayer, ?_⟩
      rw [hpush]
      refine ⟨hcalls, raws ++ [msg], ?_, ?_⟩
      · rw [List.filter_cons_of_pos (by simp [hcorrection])] at hraws
        rwa [List.append_assoc]
      · exact List.rel_append hpushes (List.Forall₂.cons ⟨stale, _, hpacket⟩ List.Forall₂.nil)

theorem replayProcess_todo (cfg : Config F) (s : ReplayState F) :
    (replayProcess cfg s).todo = s.todo := by
  unfold replayProcess
  split <;> rfl

/-- A step of the thread of the playing node. -/
theorem NodesInv.process (h : NodesInv recordParams cfg calib n) :
    NodesInv recordParams cfg calib { n with player := replayProcess cfg n.player } where
  recorder := h.recorder
  playable := h.playable
  marked := h.marked
  player := h.player.process fun live e _ hrel => hrel.step live.calibration _ e
  passes := h.passes
  arrived := h.arrived
  todo := by
    intro msg hmsg
    rw [replayProcess_todo] at hmsg
    exact h.todo msg hmsg
  pushed := by
    rw [replayProcess_todo, (replayProcess_ring cfg n.player).1]
    exact h.pushed

/-- Every step keeps what is known of the playing node, if it publishes no scans itself. -/
theorem NodesInv.step (h : NodesInv recordParams cfg calib n) (hhistory : KeepsLast history)
    (hsilent : ¬ (playParams.publishType = "both" ∨ playParams.publishType = "raw"))
    {op : NodesOp F} (hok : NodesOk cfg env n op) :
    NodesInv recordParams cfg calib
      (nodesStep history recordParams playParams cfg env n op) := by
  cases op with
  | record op => exact h.record hok
  | arrive =>
    simp only [nodesStep]
    cases hscan : (scansOf recordParams n.recorder)[n.sent]? with
    | none => exact h
    | some scan =>
      dsimp only
      split
      · -- the node subscribes to recorded scans
        exact h.put hhistory hscan
      · exact h.lose
  | lose =>
    simp only [nodesStep]
    split
    · exact h.lose
    · exact h
  | echo =>
    -- a node that publishes no scans gets none of its own
    have hnone : scansOf playParams n.player = [] := by rw [scansOf_eq, if_neg hsilent]
    simp only [nodesStep, hnone, List.getElem?_nil]
    exact h
  | spin =>
    simp only [nodesStep]
    split
    · next scan waiting htodo hwaiting => exact h.spin htodo hwaiting
    · exact h
  | play op =>
    cases op with
    | push stale memory => exact h.push stale memory hok
    | process => exact h.process

/-! ## Nothing is lost -/

/-- No scan is lost on its way, and the subscription has room for it. -/
def NodesKept (s : NodesState F) : NodesOp F → Prop
  | .lose => False
  | .arrive => s.waiting.length < 10
  | .record _ | .echo | .spin | .play _ => True

/-- The playing node has been called with all scans that have left the recording node, but for
    those that wait. -/
structure Complete (recordParams : NodeParams) (s : NodesState F) : Prop where
  sent : s.sent ≤ (scansOf recordParams s.recorder).length
  arrived : s.arrived = (scansOf recordParams s.recorder).take s.sent
  called : s.arrived = s.calls ++ s.waiting

theorem complete_init (recordParams : NodeParams)
    (recorderTables playerTables : CalibrationTables F) :
    Complete recordParams (NodesState.init recorderTables playerTables) :=
  ⟨Nat.zero_le _, rfl, rfl⟩

theorem Complete.step (h : Complete recordParams n) (hhistory : KeepsLast history)
    (hplays : playParams.source = .rosbag)
    (hsilent : ¬ (playParams.publishType = "both" ∨ playParams.publishType = "raw"))
    (cfg : Config F) (env : LoadEnv F) {op : NodesOp F} (hok : NodesKept n op) :
    Complete recordParams (nodesStep history recordParams playParams cfg env n op) := by
  cases op with
  | record op =>
    have hscans := scansOf_liveStep recordParams cfg env n.recorder op
    refine ⟨Nat.le_trans h.sent hscans.length_le, ?_, h.called⟩
    show n.arrived = (scansOf recordParams (liveStep cfg env n.recorder op)).take n.sent
    -- new scans come after those that were sent
    obtain ⟨later, hlater⟩ := hscans
    rw [← hlater, List.take_append_of_le_length h.sent]
    exact h.arrived
  | arrive =>
    simp only [nodesStep]
    cases hscan : (scansOf recordParams n.recorder)[n.sent]? with
    | none => exact h
    | some scan =>
      simp only [hplays, if_pos]
      obtain ⟨hlt, rfl⟩ := List.getElem?_eq_some_iff.mp hscan
      refine ⟨hlt, ?_, ?_⟩
      · show n.arrived ++ [_] = (scansOf recordParams n.recorder).take (n.sent + 1)
        rw [List.take_succ_eq_append_getElem hlt, h.arrived]
      · -- there is room, so that no older scan is dropped
        obtain rfl := hhistory.eq_push
        exact Channel.complete_step (c := n.channel) h.called (.push _) fun _ _ => hok
  | lose => exact hok.elim
  | echo =>
    have hnone : scansOf playParams n.player = [] := by rw [scansOf_eq, if_neg hsilent]
    simp only [nodesStep, hnone, List.getElem?_nil]
    exact h
  | spin =>
    simp only [nodesStep]
    split
    · next scan waiting htodo hwaiting =>
      refine ⟨h.sent, h.arrived, ?_⟩
      show n.arrived = (n.calls ++ [scan]) ++ waiting
      rw [h.called, hwaiting, List.append_assoc]
      rfl
    · exact h
  | play op => exact ⟨h.sent, h.arrived, h.called⟩

/-- Then its packets are the first ones of the recording node. -/
theorem Complete.rawsOf_calls (h : Complete recordParams n) :
    rawsOf n.calls <+: n.recorder.driver.published.flatMap Frame.raws := by
  -- the calls are the first scans of the recording node
  have hcalls : n.calls <+: scansOf recordParams n.recorder := by
    refine List.IsPrefix.trans ?_ (List.take_prefix n.sent _)
    rw [← h.arrived, h.called]
    exact List.prefix_append _ _
  rw [scansOf_eq] at hcalls
  split at hcalls
  · rw [← rawsOf_map_scan]
    exact hcalls.flatten.filter _
  · rw [List.prefix_nil.mp hcalls]
    exact List.nil_prefix

/-! ## What the playing node publishes -/

/-- What the playing node has pushed are packets of the recording node again. -/
theorem NodesInv.run_issued (h : NodesInv recordParams cfg calib n)
    {packets : List (PandarPacket F)}
    (hpackets : packets.Sublist (accepted cfg n.recorder.ring.issued))
    (hpushes : List.Forall₂ Pushes (packets.map rawPacket) n.player.ring.issued)
    (d : DriverState F) (k : Nat) :
    run cfg d (n.player.ring.issued.take k) = run cfg d (packets.take k) := by
  -- all of them were accepted and can be played
  have hall : ∀ packet ∈ packets, (parsePacket cfg packet).isSome ∧ Playable cfg packet := by
    intro packet hpacket
    obtain ⟨hissued, hsome⟩ := isSome_of_mem_accepted (hpackets.subset hpacket)
    exact ⟨hsome, h.playable packet hissued⟩
  apply run_replayed (List.forall₂_take k (replayed_of_pushes hpushes hall))
  intro packet hpacket
  obtain ⟨hsome, hplayable⟩ := hall packet (List.mem_of_mem_take hpacket)
  exact (hplayable hsome).1.fits

/-- The frames of a thread, from the packets that are in its ring but for the last one. -/
theorem LiveInv.frames_dropLast (h : LiveInv cfg calib SameButXyz s) :
    s.driver.published.map Frame.withoutXyz <+:
      (run cfg (DriverState.init calib) s.ring.issued.dropLast).published.map
        Frame.withoutXyz := by
  refine h.frames_moved.trans ((frames_prefix_run cfg _ ?_).map _)
  rw [List.dropLast_eq_take]
  apply List.take_prefix_take_left
  by_cases hnone : s.ring.issued = []
  · rw [(h.fifo.idle hnone).1]
    exact Nat.zero_le _
  · exact Nat.le_sub_one_of_lt (h.fifo.waiting hnone)

/-- A node plays what another one records, while it is recorded. It publishes no scans itself, the
    steps of both are defined, and what is recorded can be played. The playing node is called with
    scans of the recording node in their order, of which at most ten wait, and publishes what the
    packets of these calls make, up to coordinates. A scan that is lost takes its packets with it,
    no more. If none is lost, the playing node has published what the recording node has, as far
    as it has come. -/
theorem played_recording (history : Nat → List PandarScan → PandarScan → List PandarScan)
    (hhistory : KeepsLast history) (recordParams playParams : NodeParams)
    (hplays : playParams.source = .rosbag)
    (hsilent : ¬ (playParams.publishType = "both" ∨ playParams.publishType = "raw"))
    (cfg : Config F) (env : LoadEnv F) (calib : Calibration F)
    (recorderTables playerTables : CalibrationTables F) (ops : List (NodesOp F))
    (hops : EachStep (nodesStep history recordParams playParams cfg env) (NodesOk cfg env)
      (NodesState.init recorderTables playerTables) ops) :
    let s := ops.foldl (nodesStep history recordParams playParams cfg env)
      (NodesState.init recorderTables playerTables)
    s.calls.Sublist (scansOf recordParams s.recorder) ∧ s.waiting.length ≤ 10 ∧
    (∃ packets, packets.Sublist (accepted cfg s.recorder.ring.issued) ∧
      packets.map rawPacket ++ s.player.todo.filter (!·.isCorrection) = rawsOf s.calls ∧
      s.player.driver.published.map Frame.withoutXyz <+:
        (run cfg (DriverState.init calib) packets).published.map Frame.withoutXyz ∧
      (s.player.ring.unconsumed ≤ 1000 → s.player.DefinedAlone cfg → ∃ k, ∀ n ≥ k,
        ((replayProcess cfg)^[n] s.player).driver.published.map Frame.withoutXyz =
          (run cfg (DriverState.init calib) packets.dropLast).published.map Frame.withoutXyz)) ∧
    (EachStep (nodesStep history recordParams playParams cfg env) NodesKept
      (NodesState.init recorderTables playerTables) ops →
        s.calls ++ s.waiting = (scansOf recordParams s.recorder).take s.sent ∧
        s.player.driver.published.map Frame.withoutXyz <+:
          s.recorder.driver.published.map Frame.withoutXyz) := by
  intro s
  -- both invariants hold in the state at the end of the run
  have hinv : NodesInv recordParams cfg calib s :=
    hops.inv (nodesInv_init recordParams cfg calib recorderTables playerTables)
      fun _ _ h hok => h.step hhistory hsilent hok
  obtain ⟨raws, hraws, hpushes⟩ := hinv.pushed
  have hfirst : raws <+: rawsOf s.calls := ⟨_, hraws⟩
  refine ⟨hinv.calls_sublist, hinv.passes.bounded, ?_, fun hkept => ?_⟩
  · -- the packets of the calls, whatever was lost
    obtain ⟨packets, hpackets, rfl⟩ :=
      List.sublist_map_iff.mp (hfirst.sublist.trans hinv.rawsOf_calls)
    have hlength : packets.length = s.player.ring.issued.length := by
      rw [← hpushes.length_eq, List.length_map]
    have hrun := hinv.run_issued hpackets hpushes (DriverState.init calib)
    refine ⟨packets, hpackets, hraws, ?_, fun hfew _ => ?_⟩
    · have hprefix := hinv.player.frames_moved
      rw [hrun] at hprefix
      exact hprefix.trans ((frames_prefix_run cfg _ (List.take_prefix _ _)).map _)
    · obtain ⟨k, hk⟩ := hinv.player.catches_up
        (fun live t e hrel => hrel.step live.calibration _ e) hfew
      refine ⟨k, fun n hn => ?_⟩
      have hframes := (hk n hn).published
      rw [List.dropLast_eq_take, hrun, ← hlength, ← List.dropLast_eq_take] at hframes
      exact hframes.symm
  · -- nothing was lost: they are the first packets of the recording node
    have hcomplete : Complete recordParams s :=
      hkept.inv (complete_init recordParams recorderTables playerTables)
        fun _ _ h hok => h.step hhistory hplays hsilent cfg env hok
    refine ⟨hcomplete.called.symm.trans hcomplete.arrived, ?_⟩
    have hrecorded := hfirst.trans hcomplete.rawsOf_calls
    obtain ⟨packets, hpackets, rfl⟩ :=
      List.prefix_map_iff.mp (hrecorded.trans hinv.recorder.raws_prefix)
    have hlength : packets.length = s.player.ring.issued.length := by
      rw [← hpushes.length_eq, List.length_map]
    have hplayer := hinv.player.frames_dropLast
    rw [List.dropLast_eq_take, hinv.run_issued hpackets.sublist hpushes, ← hlength,
      ← List.dropLast_eq_take] at hplayer
    -- the frames of the recording node, from the packets that it has accepted
    have hframes := hinv.recorder.frames_moved.trans
      ((frames_prefix_run cfg (DriverState.init calib) (List.take_prefix _ _)).map _)
    rw [published_run_accepted cfg _ (DriverState.init calib)
      (DriverState.init calib).dPktTimestamp] at hframes
    exact hplayer.trans (frames_of_raws hpackets hframes hrecorded)

/-! ## A recording node and a playing node -/

/-- The launched node, and a node that plays its scans. -/
def launchNode : NodeParams := ⟨"", "", "both"⟩

def playingNode : NodeParams := ⟨"", "rosbag", "points"⟩

/-- Three packets arrive, and the first frame is complete. -/
def recordedOps : List (LiveOp Rat) :=
  threePackets.map receivePacket ++ List.replicate 30 .process

/-- Its scan is played. -/
def playedOps : List ReplayOp := List.replicate 3 pushZero ++ List.replicate 25 .process

/-- One after the other. -/
def recordedThenPlayed : List (NodesOp Rat) :=
  recordedOps.map .record ++ ([.arrive, .spin] ++ playedOps.map .play)

/-- A packet that is received can be played. -/
theorem playable_receivePacket : ∀ packet ∈ threePackets,
    ∀ packet' ∈ (receivePacket packet).packets, Playable launchConfig packet' := by
  have hall : ∀ packet ∈ threePackets, ∀ packet' ∈ (receivePacket packet).packets,
      acceptedFits launchConfig packet' = true ∧
        isCorrectionFile (rawPacket packet').data = some false := by
    decide +kernel
  have hstamp : ∀ packet ∈ threePackets, ∀ packet' ∈ (receivePacket packet).packets,
      StampSurvives packet' := by
    unfold StampSurvives
    decide +kernel
  intro packet hpacket packet' hpacket' _
  obtain ⟨hfits, hmarker⟩ := hall packet hpacket packet' hpacket'
  exact ⟨⟨hfits, hmarker⟩, hstamp packet hpacket packet' hpacket'⟩

/-- Steps of the recording node only. -/
theorem eachStep_record (history : Nat → List PandarScan → PandarScan → List PandarScan)
    (recordParams playParams : NodeParams) {ops : List (LiveOp F)}
    (hops : EachStep (liveStep cfg env) (RecorderOk cfg env) n.recorder ops) :
    EachStep (nodesStep history recordParams playParams cfg env) (NodesOk cfg env) n
      (ops.map .record) := by
  induction ops generalizing n with
  | nil => trivial
  | cons op ops ih => exact ⟨hops.1, ih hops.2⟩

/-- Steps of the playing node only. -/
theorem eachStep_play (history : Nat → List PandarScan → PandarScan → List PandarScan)
    (recordParams playParams : NodeParams) {ops : List ReplayOp}
    (hops : EachStep (replayStep cfg env) (PlayerOk cfg env) n.player ops) :
    EachStep (nodesStep history recordParams playParams cfg env) (NodesOk cfg env) n
      (ops.map .play) := by
  induction ops generalizing n with
  | nil => trivial
  | cons op ops ih => exact ⟨hops.1, ih hops.2⟩

instance (env : LoadEnv F) (stale : Nat → UInt8) (memory : List UInt8) (s : ReplayState F) :
    Decidable (PlayerPushOk env stale memory s) :=
  decidable_of_iff (s.ring.unconsumed < pktArraySize ∧ (∀ msg ∈ s.todo, msg.size < 2 ^ 31) ∧
      (replayPush env stale memory s).correction.tables.elevationSize ≤ 64)
    ⟨fun ⟨hroom, hsize, hrows⟩ => ⟨hroom, hsize, hrows⟩,
      fun ⟨hroom, hsize, hrows⟩ => ⟨hroom, hsize, hrows⟩⟩

instance (cfg : Config F) (env : LoadEnv F) (s : ReplayState F) :
    (op : ReplayOp) → Decidable (PlayerOk cfg env s op)
  | .push stale memory => inferInstanceAs (Decidable (PlayerPushOk env stale memory s))
  | .process => inferInstanceAs (Decidable (ThreadDefined cfg s))

/-- A step of these two nodes. -/
abbrev launchedStep : NodesState Rat → NodesOp Rat → NodesState Rat :=
  nodesStep push launchNode playingNode launchConfig LoadEnv.launch

abbrev launchedNodes : NodesState Rat := NodesState.init launchTables launchTables

/-- The nodes when the playing one is called. -/
abbrev firstCall : NodesState Rat :=
  [.arrive, .spin].foldl launchedStep
    ((recordedOps.map .record).foldl launchedStep launchedNodes)

theorem recorderOk_recordedOps :
    EachStep (liveStep launchConfig LoadEnv.launch) (RecorderOk launchConfig LoadEnv.launch)
      launchedNodes.recorder recordedOps := by
  have hkind : ∀ op ∈ recordedOps, (∃ packet ∈ threePackets, op = receivePacket packet) ∨
      op = .process := by
    intro op hop
    rcases List.mem_append.mp hop with hreceive | hprocess
    · obtain ⟨packet, hpacket, rfl⟩ := List.mem_map.mp hreceive
      exact Or.inl ⟨packet, hpacket, rfl⟩
    · exact Or.inr (List.eq_of_mem_replicate hprocess)
  have husable : ∀ op ∈ recordedOps, op.Usable launchConfig LoadEnv.launch := by
    intro op hop
    obtain ⟨packet, hpacket, rfl⟩ | rfl := hkind op hop
    · exact usable_receivePacket hpacket
    · exact LiveOp.usable_process
  have hops := ((usable_init launchConfig LoadEnv.launch ⟨Calibration.zero, 0⟩ []).run husable
    (by decide) (by decide +kernel)).1
  refine hops.strengthen (P := fun _ => True) trivial fun s op hop _ hok => ⟨⟨hok, ?_⟩, trivial⟩
  obtain ⟨packet, hpacket, rfl⟩ | rfl := hkind op hop
  · exact playable_receivePacket packet hpacket
  · exact fun _ h => absurd h List.not_mem_nil

theorem nodesOk_recordedThenPlayed :
    EachStep launchedStep (NodesOk launchConfig LoadEnv.launch) launchedNodes
      recordedThenPlayed := by
  refine (eachStep_append _ _).mpr ⟨?_, (eachStep_append _ _).mpr ⟨⟨trivial, trivial, trivial⟩, ?_⟩⟩
  · exact eachStep_record _ _ _ recorderOk_recordedOps
  · apply eachStep_play
    show EachStep _ _ firstCall.player playedOps
    decide +kernel

theorem nodesKept_recordedThenPlayed :
    EachStep launchedStep NodesKept launchedNodes recordedThenPlayed := by
  refine (eachStep_append _ _).mpr ⟨?_, (eachStep_append _ _).mpr ⟨⟨?_, trivial, trivial⟩, ?_⟩⟩
  · apply eachStep_of_inv (P := fun _ => True) trivial (fun _ _ _ _ => trivial)
    intro s op hop _
    obtain ⟨op, -, rfl⟩ := List.mem_map.mp hop
    trivial
  · show List.length _ < 10
    decide +kernel
  · apply eachStep_of_inv (P := fun _ => True) trivial (fun _ _ _ _ => trivial)
    intro s op hop _
    obtain ⟨op, -, rfl⟩ := List.mem_map.mp hop
    trivial

/-- A scan is recorded, and then played. -/
theorem played_recording_recordedThenPlayed :
    let s := recordedThenPlayed.foldl
      (nodesStep push launchNode playingNode launchConfig LoadEnv.launch)
      (NodesState.init launchTables launchTables)
    s.calls ++ s.waiting = (scansOf launchNode s.recorder).take s.sent ∧
      s.player.driver.published.map Frame.withoutXyz <+:
        s.recorder.driver.published.map Frame.withoutXyz := by
  obtain ⟨-, -, -, hkept⟩ := played_recording push keepsLast_push launchNode playingNode (by decide)
    (by decide) launchConfig LoadEnv.launch eightDegrees launchTables launchTables
    recordedThenPlayed nodesOk_recordedThenPlayed
  exact hkept nodesKept_recordedThenPlayed

end Hesai
