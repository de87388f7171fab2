import Go2Sensors.Spec.Ingestion
import Go2Sensors.Spec.Live
import Go2Sensors.Spec.WireRoundTrip

/-!
# From the wire to the clouds

Datagrams arrive at the sockets of an instance, or stand in a capture file, while its processing
thread is anywhere in its turn. The clouds that it publishes are the frames of the measurements
in the order of arrival (`measuredFrames`): parsers, ring and threads leave no trace in them.

## Key results

- `LiveOp.Brings.input`: a datagram that arrives becomes a packet that carries it
- `clouds_of_datagrams`: the clouds of a run are the frames of what was measured
-/

namespace Hesai

open Run Layout

variable {F : Type}

/-! ## Datagrams that arrive -/

/-- The payload is the datagram. -/
structure Datagram.Is {lidarType : String} (d : Datagram lidarType) (payload : List UInt8) :
    Prop where
  length : payload.length = d.length
  fits : Fits payload d.body

/-- A datagram that arrives brings the time of its arrival along. -/
abbrev Arrival (F : Type) (lidarType : String) := F × Datagram lidarType

/-- The packet carries what has arrived. -/
structure Arrival.In {lidarType : String} (a : Arrival F lidarType) (packet : PandarPacket F) :
    Prop extends a.2.In packet where
  stamp : packet.stamp = a.1

/-- What comes in with a step. -/
inductive LiveOp.Brings {lidarType : String} : LiveOp F → List (Arrival F lidarType) → Prop
  | process : Brings .process []
  /-- a timeout, an error or a GPS packet -/
  | quiet {time : F} {stale : Nat → UInt8} {outcome : PollOutcome}
    (hnothing : recvTask time stale outcome = .nothing) : Brings (.receive time stale outcome) []
  /-- a datagram on the socket that is read -/
  | socket {time : F} {stale : Nat → UInt8} {outcome : PollOutcome} {fd : PollFd}
    {payload : List UInt8} {d : Datagram lidarType} (hok : ¬ outcome.failed)
    (hready : outcome.ready = some fd) (hrecv : fd.recv = .datagram payload)
    (his : d.Is payload) : Brings (.receive time stale outcome) [(time, d)]
  /-- a record that was captured whole -/
  | record {time : F} {stale : Nat → UInt8} {record : PcapRecord} {d : Datagram lidarType}
    (hwhole : record.frame.length ≤ record.caplen)
    (hlen : record.len.toNat = record.frame.length)
    (hheader : pktHeaderSize ≤ record.frame.length)
    (his : d.Is (record.frame.drop pktHeaderSize)) : Brings (.capture time stale record) [(time, d)]

variable {cfg : Config F}

/-- A datagram at the start of a buffer. -/
theorem Datagram.Is.in_overlay {d : Datagram lidarType} {payload : List UInt8} (h : d.Is payload)
    (time : F) (stale : Nat → UInt8) :
    Arrival.In (time, d) ⟨time, Buffer.overlay stale payload, payload.length⟩ where
  size := h.length
  data := h.fits.at_overlay stale
  stamp := rfl

/-- No datagram is longer than the array of a packet, or as long as a GPS packet. -/
theorem Datagram.Is.length_le {d : Datagram cfg.lidarType} {payload : List UInt8}
    (h : d.Is payload) (time : F) :
    payload.length ≤ ethernetMTU ∧ payload.length ≠ gpsPacketSize := by
  have hall : ∀ n ∈ acceptedSizes, n ≤ ethernetMTU ∧ n ≠ gpsPacketSize := by decide
  -- a datagram is accepted, so its length is one of these
  have hparse : parsePacket cfg _ = _ := (h.in_overlay time fun _ => 0).toIn.parsePacket_eq
  exact hall _ (size_mem_acceptedSizes hparse)

variable [CFloat F]

/-- What a step brings in is what goes to the ring. -/
theorem LiveOp.Brings.input {op : LiveOp F} {arrivals : List (Arrival F cfg.lidarType)}
    (h : op.Brings arrivals) :
    (∀ s, op.input s ≠ .undefined) ∧ op.mayLoad = false ∧
      List.Forall₂ Arrival.In arrivals op.packets := by
  cases h with
  | process => exact ⟨fun s => by simp [LiveOp.input], rfl, .nil⟩
  | @quiet time stale outcome hnothing =>
    refine ⟨fun s => ?_, rfl, ?_⟩
    · rw [LiveOp.input, hnothing]
      simp
    · rw [LiveOp.packets, hnothing]
      exact .nil
  | @socket time stale outcome fd payload d hok hready hrecv his =>
    -- the datagram is neither cut off nor taken for a GPS packet
    obtain ⟨hle, hgps⟩ := his.length_le time
    have hpushed : recvTask time stale outcome =
        .pushed ⟨time, Buffer.overlay stale payload, payload.length⟩ := by
      rw [recvTask, getPacket_of_not_failed hok, hready]
      simp only [hrecv, List.take_of_length_le hle, toUInt32_natCast hle, if_neg hgps]
    refine ⟨fun s => ?_, rfl, ?_⟩
    · rw [LiveOp.input, hpushed]
      simp
    · rw [LiveOp.packets, hpushed]
      exact .cons (his.in_overlay time stale) .nil
  | @record time stale record d hwhole hlen hheader his =>
    obtain ⟨hle, hgps⟩ := his.length_le time
    have hpushed : parsePcap time stale record = .pushed ⟨time,
        Buffer.overlay stale (record.frame.drop pktHeaderSize),
        (record.frame.drop pktHeaderSize).length⟩ := by
      -- the record has the frame as it was on the wire
      have hbuf : record.packetBuf = record.frame := List.take_of_length_le hwhole
      have hsize : record.pktSize = ((record.frame.drop pktHeaderSize).length : Int) := by
        have hmtu : ethernetMTU = 1500 := rfl
        rw [List.length_drop] at hle
        rw [PcapRecord.pktSize, hlen, List.length_drop, Int.bmod_eq_of_le] <;> omega
      have hsizeT : toSizeT record.pktSize = (record.frame.drop pktHeaderSize).length := by
        have hmtu : ethernetMTU = 1500 := rfl
        rw [hsize, toSizeT]
        omega
      have hnotGps : record.pktSize ≠ gpsPacketSize := by
        rw [hsize]
        exact fun heq => hgps (Int.ofNat.inj heq)
      -- what is copied is the payload behind the headers
      rw [parsePcap, fillPacket, if_pos hnotGps, hsizeT, hbuf, Buffer.memcpy,
        if_pos ⟨hle, Nat.le_refl _⟩, List.take_length, hsize, toUInt32_natCast hle]
    refine ⟨fun s => ?_, rfl, ?_⟩
    · rw [LiveOp.input, hpushed]
      simp
    · rw [LiveOp.packets, hpushed]
      exact .cons (his.in_overlay time stale) .nil

/-! ## Frames of measurements -/

/-- The blocks of a datagram, as steps of the frame builder. -/
def Arrival.steps (cfg : Config F) (calib : Calibration F) (a : Arrival F cfg.lidarType) :
    List (ThreadStep F) :=
  let pkt := a.2.parsed cfg.charSigned
  blockSteps cfg calib a.1 pkt pkt.blocks 0

/-- The blocks of all datagrams, in the order of arrival. -/
def arrivalSteps (cfg : Config F) (calib : Calibration F)
    (arrivals : List (Arrival F cfg.lidarType)) : List (ThreadStep F) :=
  arrivals.flatMap (Arrival.steps cfg calib)

/-- The frames of what was measured. -/
def measuredFrames (cfg : Config F) (calib : Calibration F)
    (arrivals : List (Arrival F cfg.lidarType)) : List (List (PPoint F)) :=
  ((arrivalSteps cfg calib arrivals).foldl (Framing.step cfg) Framing.init).points.closed

/-- The steps of a packet are the blocks that it carries, and some that build no frame. -/
theorem Arrival.In.packetSteps_eq {a : Arrival F cfg.lidarType} {packet : PandarPacket F}
    (h : a.In packet) (calib : Calibration F) :
    packetSteps cfg calib packet =
      .receive a.1 :: .accept (rawPacket packet) :: (a.steps cfg calib ++ [.finish]) := by
  rw [packetSteps, h.toIn.parsePacket_eq, h.stamp]
  rfl

omit [CFloat F] in
/-- Where the frame builder has room, it has it after a step as well. -/
theorem pending_le_of_hasRoom {m : Framing F} {steps : List (ThreadStep F)}
    (hnow : m.points.pending.length ≤ maxPointCloudNum)
    (hroom : EachStep (Framing.step cfg) (HasRoom cfg) m steps) :
    (steps.foldl (Framing.step cfg) m).points.pending.length ≤ maxPointCloudNum :=
  hroom.inv (P := fun m : Framing F => m.points.pending.length ≤ maxPointCloudNum) hnow
    fun _ _ _ hroom => hroom

/-- Packets build the frames of what they carry. -/
theorem packetsSteps_of_arrivals {arrivals : List (Arrival F cfg.lidarType)}
    {packets : List (PandarPacket F)} (hin : List.Forall₂ Arrival.In arrivals packets)
    (calib : Calibration F) {m : Framing F} (hnow : m.points.pending.length ≤ maxPointCloudNum)
    (hroom : EachStep (Framing.step cfg) (HasRoom cfg) m (arrivalSteps cfg calib arrivals)) :
    EachStep (Framing.step cfg) (HasRoom cfg) m (packetsSteps cfg calib packets) ∧
      (packetsSteps cfg calib packets).foldl (Framing.step cfg) m =
        (arrivalSteps cfg calib arrivals).foldl (Framing.step cfg) m := by
  induction hin generalizing m with
  | nil => exact ⟨trivial, rfl⟩
  | @cons a packet arrivals packets ha hrest ih =>
    rw [arrivalSteps, List.flatMap_cons, eachStep_append] at hroom
    -- there is room again when the next packet is taken
    have hthen := pending_le_of_hasRoom hnow hroom.1
    obtain ⟨hsteps, hfold⟩ := ih hthen hroom.2
    -- receiving, accepting and finishing a packet build nothing
    have hone : (packetSteps cfg calib packet).foldl (Framing.step cfg) m =
        (a.steps cfg calib).foldl (Framing.step cfg) m := by
      simp [ha.packetSteps_eq, Framing.step]
    rw [packetsSteps, List.flatMap_cons, eachStep_append, List.foldl_append, hone]
    refine ⟨⟨?_, hsteps⟩, ?_⟩
    · rw [ha.packetSteps_eq]
      exact ⟨hnow, hnow, (eachStep_append _ _).mpr ⟨hroom.1, hthen, trivial⟩⟩
    · rw [arrivalSteps, List.flatMap_cons, List.foldl_append]
      exact hfold

/-- The clouds of packets in a row. -/
theorem clouds_of_arrivals (hmode : cfg.pclType = 0) (calib : Calibration F)
    {arrivals : List (Arrival F cfg.lidarType)} {packets : List (PandarPacket F)}
    (hin : List.Forall₂ Arrival.In arrivals packets)
    (hroom : EachStep (Framing.step cfg) (HasRoom cfg) Framing.init
      (arrivalSteps cfg calib arrivals)) :
    (run cfg (DriverState.init calib) packets).published.map (·.cloud.points) =
      measuredFrames cfg calib arrivals := by
  obtain ⟨hsteps, hfold⟩ := packetsSteps_of_arrivals hin calib (Nat.zero_le _) hroom
  rw [run_init_eq_steps, ((represents_init calib).run hmode hsteps).frames, hfold]
  rfl

/-! ## Runs -/

/-- The packets of a run carry the datagrams that arrived, in their order. -/
theorem forall₂_packets {ops : List (LiveOp F)} {arrivals : List (List (Arrival F cfg.lidarType))}
    (h : List.Forall₂ LiveOp.Brings ops arrivals) :
    (∀ op ∈ ops, (∀ s, op.input s ≠ .undefined) ∧ op.mayLoad = false) ∧
      List.Forall₂ Arrival.In arrivals.flatten (ops.flatMap LiveOp.packets) := by
  induction h with
  | nil => exact ⟨fun _ hop => absurd hop List.not_mem_nil, .nil⟩
  | @cons op brought ops arrivals hop _ ih =>
    obtain ⟨hdefined, hcarry⟩ := ih
    -- the first step, then those that follow
    obtain ⟨hthis, hload, hpackets⟩ := hop.input
    constructor
    · intro op' hop'
      rcases List.mem_cons.mp hop' with rfl | hlater
      · exact ⟨hthis, hload⟩
      · exact hdefined op' hlater
    · rw [List.flatten_cons, List.flatMap_cons]
      exact List.rel_append hpackets hcarry

/-- Datagrams arrive at an instance, and its steps are defined. The clouds that it has published
    are the first frames of what was measured. If at most `1000` packets are waiting, a thread
    that is left alone publishes all frames up to the last datagram, as long as its steps are
    defined. -/
theorem clouds_of_datagrams (cfg : Config F) (env : LoadEnv F) (tables : CalibrationTables F)
    (ops : List (LiveOp F)) (arrivals : List (List (Arrival F cfg.lidarType)))
    (hmode : cfg.pclType = 0) (hbrings : List.Forall₂ LiveOp.Brings ops arrivals)
    (hops : EachStep (liveStep cfg env) (LiveOk cfg env) (ReplayState.init tables []) ops)
    (hroom : EachStep (Framing.step cfg) (HasRoom cfg) Framing.init
      (arrivalSteps cfg tables.toCalibration arrivals.flatten)) :
    let s := ops.foldl (liveStep cfg env) (ReplayState.init tables [])
    let calib := tables.toCalibration
    s.driver.published.map (·.cloud.points) <+: measuredFrames cfg calib arrivals.flatten ∧
      (s.ring.unconsumed ≤ 1000 → s.DefinedAlone cfg → ∃ k, ∀ n ≥ k,
        ((replayProcess cfg)^[n] s).driver.published.map (·.cloud.points) =
          measuredFrames cfg calib arrivals.flatten.dropLast) := by
  intro s calib
  obtain ⟨hquiet, hcarry⟩ := forall₂_packets hbrings
  -- nothing is loaded, as datagrams are all that comes in
  have hunloaded : EachStep (liveStep cfg env) (UnloadedOk cfg env) (ReplayState.init tables [])
      ops :=
    hops.strengthen (P := fun _ => True) trivial fun _ op hop _ hok =>
      ⟨⟨hok, (hquiet op hop).2⟩, trivial⟩
  obtain ⟨hinv, hissued⟩ := unloadedInv_run hunloaded
  constructor
  · -- what is published is a prefix of what the issued packets make
    rw [← clouds_of_arrivals hmode calib hcarry hroom, ← hissued]
    exact hinv.frames_prefix.map _
  · intro hfew _
    -- left alone, the thread takes all packets but the last one
    obtain ⟨k, hk⟩ := hinv.catches_up hfew
    refine ⟨k, fun n hn => ?_⟩
    rw [hk n hn, hissued, List.dropLast_eq_take, List.dropLast_eq_take, ← hcarry.length_eq]
    apply clouds_of_arrivals hmode calib (List.forall₂_take _ hcarry)
    -- the frame builder has room for the first datagrams
    rw [← List.take_append_drop (arrivals.flatten.length - 1) arrivals.flatten, arrivalSteps,
      List.flatMap_append, eachStep_append] at hroom
    exact hroom.1

/-! ## Datagrams of the launched lidar -/

/-- What a PandarXT-16 measures: eight firings of sixteen lasers, in units of 4 mm. -/
def xt16Measurement (azimuth : Nat → UInt16) (range : Nat → UInt16) : Measurement where
  lasers := 16
  firings := (List.range 8).map fun block =>
    ⟨azimuth block, (List.range 16).map fun laser => ⟨range laser, 0, 0⟩⟩
  protocolMajor := 6
  protocolMinor := 1
  returnType := 0
  disUnit := 4
  timestamp := 0
  echo := 0x37
  utc := [0, 0, 0, 0, 0, 0]
  uniform := by simp
  utc_length := rfl

/-- The datagram that it sends. -/
def xt16Datagram (azimuth : Nat → UInt16) (range : Nat → UInt16) : Datagram "PandarXT-16" where
  family := .xt
  measurement := xt16Measurement azimuth range
  length := hsLidarXT16PacketSize
  length_mem := by decide
  carries := by
    refine ⟨(by decide : 16 ≤ xtFormat.unitNum), by simp [xt16Measurement, xtFormat,
      hsLidarXTBlockNumber], ?_⟩
    rw [Format.length_body IsFamily.xt.proper]
    simp [xt16Measurement]
    decide

/-- Its bytes, with zeros in the open places. -/
def Datagram.payload {lidarType : String} (d : Datagram lidarType) : List UInt8 :=
  (pad d.length d.body).map (·.getD 0)

theorem Datagram.is_payload {lidarType : String} {d : Datagram lidarType}
    (h : d.body.length ≤ d.length) : d.Is d.payload where
  length := by rw [payload, List.length_map, length_pad h]
  fits := fits_pad d.length d.body 0

/-- Two rotations begin. -/
def twoDatagrams : List (Arrival Rat "PandarXT-16") :=
  [(0, xt16Datagram (fun block => UInt16.ofNat (35000 + 100 * block)) fun _ => 1000),
    (0, xt16Datagram (fun block => UInt16.ofNat (100 * block)) fun _ => 1000)]

/-- They arrive while the thread is waiting. -/
def twoArrivals : List (LiveOp Rat × List (Arrival Rat "PandarXT-16")) :=
  twoDatagrams.map (fun a => (.receive a.1 (fun _ => 0)
    ⟨1, ⟨true, false, false, false, .datagram a.2.payload⟩, none⟩, [a])) ++
      List.replicate 30 (.process, [])

theorem brings_twoArrivals : List.Forall₂ LiveOp.Brings (twoArrivals.map Prod.fst)
    (twoArrivals.map Prod.snd) := by
  have hall : ∀ p ∈ twoArrivals, p.1.Brings p.2 := by
    intro p hp
    simp only [twoArrivals, List.mem_append, List.mem_map, List.mem_replicate] at hp
    rcases hp with ⟨a, ha, rfl⟩ | ⟨-, rfl⟩
    · -- the two datagrams
      have hbody : a.2.body.length ≤ a.2.length := by
        simp only [twoDatagrams, List.mem_cons, List.not_mem_nil, or_false] at ha
        rcases ha with rfl | rfl <;> exact (xt16Datagram _ _).carries.body_le
      exact .socket (by simp [PollOutcome.failed]) rfl rfl (Datagram.is_payload hbody)
    · -- the turns of the thread
      exact .process
  rw [List.forall₂_map_left_iff, List.forall₂_map_right_iff, List.forall₂_same]
  exact hall

/-- They have sixteen lasers. -/
theorem usable_twoArrivals : ∀ op ∈ twoArrivals.map Prod.fst,
    op.Usable launchConfig LoadEnv.launch := by
  -- the packets have sixteen lasers, and the tables have as many rows
  have hpackets : ∀ op ∈ twoArrivals.map Prod.fst, ∀ packet ∈ op.packets,
      PacketFits launchConfig packet ∧
        ∀ pkt ∈ parsePacket launchConfig packet, pkt.laserNumber.toNat ≤ 16 := by
    decide +kernel
  intro op hop
  obtain ⟨hdefined, hload⟩ := (@forall₂_packets _ launchConfig _ _ _ brings_twoArrivals).1 op hop
  refine LiveOp.usable_of_quiet hload hdefined fun packet hpacket => ?_
  obtain ⟨hfits, hlasers⟩ := hpackets op hop packet hpacket
  exact packetUsable_of_laserNumber hfits hlasers

/-- Two datagrams of the launched lidar. -/
theorem clouds_of_datagrams_twoArrivals :
    let ops := twoArrivals.map Prod.fst
    let arrivals := twoArrivals.map Prod.snd
    let s := ops.foldl (liveStep launchConfig LoadEnv.launch) (ReplayState.init launchTables [])
    let calib := launchTables.toCalibration
    s.driver.published.map (·.cloud.points) <+:
        measuredFrames launchConfig calib arrivals.flatten ∧
      ∃ k, ∀ n ≥ k,
        ((replayProcess launchConfig)^[n] s).driver.published.map (·.cloud.points) =
          measuredFrames launchConfig calib arrivals.flatten.dropLast := by
  obtain ⟨hops, husable⟩ := (usable_init launchConfig LoadEnv.launch
    ⟨Calibration.zero, 0⟩ []).run usable_twoArrivals (by decide) (by decide +kernel)
  obtain ⟨hclouds, halone⟩ := clouds_of_datagrams launchConfig LoadEnv.launch launchTables _ _ rfl
    brings_twoArrivals hops (by decide +kernel)
  refine ⟨hclouds, halone ?_ (husable.definedAlone ?_)⟩
  · decide +kernel
  · decide +kernel

end Hesai
