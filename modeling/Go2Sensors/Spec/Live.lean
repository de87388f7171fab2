import Go2Sensors.Native.Live
import Go2Sensors.Spec.CalibrationBounds
import Go2Sensors.Spec.Replay
import Go2Sensors.Spec.TcpClientCorrect
import Go2Sensors.Spec.WithoutXyz

/-!
# Runs of an instance

Whatever the order in which its threads take their steps, an instance processes the packets
of the ring one after the other (`LiveInv`). When a calibration is loaded has no influence
on anything but coordinates. The last packet of the ring stays there until another one is
pushed: a thread that is left alone processes all packets but that one, and then sleeps.

## Key results

- `frames_up_to_xyz`: the frames of a run, with calibrations loaded at any time
- `live_run_catches_up`: without loads, the frames are those of the packets in order
- `clouds_with_lidar_calibration`: the clouds once the lidar has sent its calibration
-/

namespace Hesai

open Run Locking

variable {F : Type} [CFloat F]

/-! ## Steps of an instance -/

/-- There are rows for the right returns of a block. -/
def InstanceStep.HasRows (elevationSize : Nat) : InstanceStep F → Prop
  | .block pkt blockid _ => ∀ i, pkt.RightReturn blockid i → i < elevationSize
  | _ => True

instance (elevationSize : Nat) : (e : InstanceStep F) → Decidable (e.HasRows elevationSize)
  | .block pkt blockid _ =>
    decidable_of_iff (∀ i < pkt.laserNumber.toNat, pkt.RightReturn blockid i → i < elevationSize)
      ⟨fun h i hright => h i hright.1 hright, fun h i _ hright => h i hright⟩
  | .take _ | .keep _ | .emission _ _ | .finish => isTrue trivial

/-- The next step of the processing thread is defined, with the tables that are in force. -/
structure ThreadDefined (cfg : Config F) (s : ReplayState F) : Prop where
  step : ∀ e ∈ s.turn.head?,
    StepDefined cfg { s.driver with calibration := s.correction.tables.toCalibration } e
  rows : ∀ e ∈ s.turn.head?, e.HasRows s.correction.tables.elevationSize

instance (cfg : Config F) (s : ReplayState F) : Decidable (ThreadDefined cfg s) :=
  decidable_of_iff ((∀ e ∈ s.turn.head?,
      StepDefined cfg { s.driver with calibration := s.correction.tables.toCalibration } e) ∧
      ∀ e ∈ s.turn.head?, e.HasRows s.correction.tables.elevationSize)
    ⟨fun ⟨hstep, hrows⟩ => ⟨hstep, hrows⟩, fun ⟨hstep, hrows⟩ => ⟨hstep, hrows⟩⟩

/-- So are all its steps while it is left alone. -/
def ReplayState.DefinedAlone (cfg : Config F) (s : ReplayState F) : Prop :=
  ∀ k, ThreadDefined cfg ((replayProcess cfg)^[k] s)

/-- The condition on a step: what comes in is defined, and the ring has room for it, a text that
    is loaded has no more rows than the row arrays, and the step of the thread is defined. -/
structure LiveOk (cfg : Config F) (env : LoadEnv F) (s : ReplayState F) (op : LiveOp F) :
    Prop where
  defined : op.input s ≠ .undefined
  room : ∀ pkt, op.input s = .pushed pkt → s.ring.unconsumed < pktArraySize
  rows : (liveStep cfg env s op).correction.tables.elevationSize ≤ 64
  thread : op = .process → ThreadDefined cfg s

/-- The packets that the ring is given. -/
def Ingested.packets : Ingested F → List (PandarPacket F)
  | .pushed pkt => [pkt]
  | .nothing | .undefined => []

variable {cfg : Config F} {env : LoadEnv F} {calib : Calibration F}

/-- Only the processing thread takes steps at the driver. All that another step does is to
    push its packet, if it has one, and to load a calibration. -/
theorem liveStep_other (cfg : Config F) (env : LoadEnv F) (s : ReplayState F) {op : LiveOp F}
    (hop : op ≠ .process) :
    (liveStep cfg env s op).ring = (op.input s).packets.foldl RingState.pushStep s.ring ∧
      (liveStep cfg env s op).turn = s.turn ∧ (liveStep cfg env s op).driver = s.driver := by
  -- packets from the socket or from a file
  have hingest : ∀ input : Ingested F,
      (ingest s input).ring = input.packets.foldl RingState.pushStep s.ring ∧
        (ingest s input).turn = s.turn ∧ (ingest s input).driver = s.driver := by
    intro input
    cases input <;> exact ⟨rfl, rfl, rfl⟩
  cases op with
  | receive time stale outcome => exact hingest _
  | capture time stale record => exact hingest _
  | push stale memory =>
    simp only [liveStep, LiveOp.input, replayPush]
    cases s.todo with
    | nil => exact ⟨rfl, rfl, rfl⟩
    | cons msg todo =>
      dsimp only
      cases (pushPacket stale s.correction.gotLidarCorrectionFlag msg : Ingested F) with
      | pushed pkt => exact ⟨rfl, rfl, rfl⟩
      | undefined => exact ⟨rfl, rfl, rfl⟩
      -- a message that is no packet may be a calibration
      | nothing =>
        dsimp only
        cases pushCorrection env memory none s.correction msg <;> exact ⟨rfl, rfl, rfl⟩
  | calibrate localFile result => exact ⟨rfl, rfl, rfl⟩
  | process => exact absurd rfl hop

/-! ## The thread follows the packets of the ring -/

/-- Where an instance stands: the thread has taken the steps of the packets that were moved
    out of the ring, but for the rest of its turn. `Rel` relates its state to the one after
    these steps with one calibration. -/
structure LiveInv (cfg : Config F) (calib : Calibration F)
    (Rel : DriverState F → DriverState F → Prop) (s : ReplayState F) : Prop where
  fifo : RingState.Fifo s.ring
  thread : Following (instanceStep cfg) (DriverState.init calib) Eq Rel
    ((s.ring.issued.take s.ring.moved).flatMap (turnSteps cfg)) s.turn s.driver

variable {Rel : DriverState F → DriverState F → Prop} {s : ReplayState F}

theorem liveInv_init {tables : CalibrationTables F} {messages : List PandarPacketMsg}
    (h : Rel (DriverState.init calib) (DriverState.init tables.toCalibration)) :
    LiveInv cfg calib Rel (ReplayState.init tables messages) :=
  ⟨RingState.fifo_init, Following.init h⟩

omit [CFloat F] in
/-- No packet is moved that was not pushed. -/
theorem RingState.Fifo.moved_le {ring : RingState (PandarPacket F)} (h : ring.Fifo) :
    ring.moved ≤ ring.issued.length := by
  by_cases hnone : ring.issued = []
  · rw [(h.idle hnone).1]
    exact Nat.zero_le _
  · exact Nat.le_of_lt (h.waiting hnone)

/-- A step of another thread at the ring: the packets that were moved stay the same. -/
theorem RingState.Fifo.other (h : s.ring.Fifo) (cfg : Config F) (env : LoadEnv F)
    {op : LiveOp F} (hop : op ≠ .process) (hok : LiveOk cfg env s op) :
    (liveStep cfg env s op).ring.Fifo ∧
      (liveStep cfg env s op).ring.issued.take (liveStep cfg env s op).ring.moved =
        s.ring.issued.take s.ring.moved := by
  obtain ⟨hring, -⟩ := liveStep_other cfg env s hop
  rw [hring]
  cases hinput : op.input s with
  -- a new packet comes behind those that were moved
  | pushed pkt =>
    refine ⟨h.pushStep pkt (hok.room pkt hinput), ?_⟩
    show (s.ring.issued ++ [pkt]).take s.ring.moved = _
    exact List.take_append_of_le_length h.moved_le
  | nothing => exact ⟨h, rfl⟩
  | undefined => exact absurd hinput hok.defined

omit [CFloat F] in
/-- The next turn is the one of the oldest packet that was not moved. -/
theorem RingState.Fifo.next_packet {ring : RingState (PandarPacket F)} (h : ring.Fifo)
    (hpc : ring.pc = .move) : ∃ packet, ring.taken.getLast? = some packet ∧
      ring.issued.take (ring.moved + 1) = ring.issued.take ring.moved ++ [packet] := by
  have htwo := h.ready (by simp [hpc])
  have hlt : ring.moved < ring.issued.length := by omega
  refine ⟨ring.issued[ring.moved], ?_, ?_⟩
  · rw [h.getLast?_taken hpc, List.getElem?_eq_getElem hlt]
  · exact (List.take_append_getElem hlt).symm

/-- A step of another thread. -/
theorem LiveInv.other (h : LiveInv cfg calib Rel s) {op : LiveOp F} (hop : op ≠ .process)
    (hok : LiveOk cfg env s op) : LiveInv cfg calib Rel (liveStep cfg env s op) := by
  obtain ⟨hfifo, htake⟩ := h.fifo.other cfg env hop hok
  obtain ⟨-, hturn, hdriver⟩ := liveStep_other cfg env s hop
  refine ⟨hfifo, ?_⟩
  rw [htake, hturn, hdriver]
  exact h.thread

/-- A step of the thread keeps the relation if it does so at the driver. -/
theorem LiveInv.process (h : LiveInv cfg calib Rel s)
    (hstep : ∀ live e, s.turn.head? = some e → Rel live s.driver →
      Rel (instanceStep cfg live e)
        (instanceStep cfg { s.driver with calibration := s.correction.tables.toCalibration } e)) :
    LiveInv cfg calib Rel (replayProcess cfg s) := by
  have hthread := h.thread
  unfold replayProcess
  cases hturn : s.turn with
  -- the next step of the turn
  | cons e turn =>
    rw [hturn] at hthread
    refine ⟨h.fifo, hthread.next ?_⟩
    rintro live _ hrel rfl
    exact hstep live _ (by rw [hturn]; rfl) hrel
  | nil =>
    rw [hturn] at hthread
    have hmoved := RingState.consumerStep_moved s.ring
    refine ⟨h.fifo.consumerStep, ?_⟩
    dsimp only
    rw [RingState.consumerStep_issued, hmoved]
    by_cases hpc : s.ring.pc = .move
    · -- the packet of the next turn is moved out of the ring
      obtain ⟨packet, hlast, htake⟩ := h.fifo.next_packet hpc
      rw [if_pos hpc, if_pos hpc, hlast, htake, List.flatMap_append, List.flatMap_singleton,
        Option.toList_some, List.flatMap_singleton]
      exact hthread.extend (List.forall₂_same.mpr fun _ _ => rfl)
    · rw [if_neg hpc, if_neg hpc]
      exact hthread

/-- Every frame is one of the sequential run. -/
theorem LiveInv.prefix_of {γ : Type} (h : LiveInv cfg calib Rel s) (obs : DriverState F → List γ)
    (hgrows : ∀ live e, obs live <+: obs (instanceStep cfg live e))
    (hobs : ∀ live, Rel live s.driver → obs live = obs s.driver) :
    obs s.driver <+: obs (run cfg (DriverState.init calib) s.ring.issued) := by
  -- the steps so far are the first ones of all packets
  have hscript : (s.ring.issued.take s.ring.moved).flatMap (turnSteps cfg) <+:
      s.ring.issued.flatMap (turnSteps cfg) := by
    refine ⟨(s.ring.issued.drop s.ring.moved).flatMap (turnSteps cfg), ?_⟩
    rw [← List.flatMap_append, List.take_append_drop]
  have hprefix := h.thread.prefix_of obs obs hgrows hobs hscript
  rwa [foldl_flatMap_turnSteps] at hprefix

/-! ## The thread alone -/

/-- The number of steps up to the packet of the next turn. -/
def stepsToTurn : ConsumerPc → Nat
  | .poll => 2
  | .read => 1
  | .move => 0

/-- A bound for the number of steps that the thread can take: three at the ring for each
    packet, and those of its turn. -/
def threadWork (cfg : Config F) (s : ReplayState F) : Nat :=
  s.turn.length + ((s.ring.issued.drop s.ring.moved).map
    fun packet => (turnSteps cfg packet).length + 3).sum + stepsToTurn s.ring.pc

/-- The thread sleeps. -/
structure Asleep (s : ReplayState F) : Prop where
  turn : s.turn = []
  pc : s.ring.pc = .poll
  enough : s.ring.ring.hasEnoughPackets = false

/-- A thread that does not sleep has less to do after each step. -/
theorem RingState.Fifo.threadWork_lt (h : s.ring.Fifo) (cfg : Config F) :
    Asleep s ∨ threadWork cfg (replayProcess cfg s) < threadWork cfg s := by
  cases hturn : s.turn with
  | cons e turn =>
    right
    simp only [threadWork, replayProcess, hturn, List.length_cons]
    omega
  | nil =>
    cases hpc : s.ring.pc with
    -- it sleeps here, or goes on
    | poll =>
      cases henough : s.ring.ring.hasEnoughPackets with
      | false => exact Or.inl ⟨hturn, hpc, henough⟩
      | true =>
        right
        simp [threadWork, replayProcess, hturn, hpc, henough, RingState.consumerStep, stepsToTurn]
    | read =>
      right
      simp [threadWork, replayProcess, hturn, hpc, RingState.consumerStep, stepsToTurn]
    | move =>
      right
      have htwo := h.ready (by simp [hpc])
      have hlt : s.ring.moved < s.ring.issued.length := by omega
      have hlast := h.getLast?_taken hpc
      rw [List.getElem?_eq_getElem hlt] at hlast
      -- the packet goes from the ring into the turn
      simp only [threadWork, replayProcess, hturn, hpc, RingState.consumerStep, stepsToTurn,
        List.drop_eq_getElem_cons hlt, hlast, ↓reduceIte, Option.toList_some,
        List.flatMap_singleton, List.length_nil, List.map_cons, List.sum_cons]
      omega

/-- A step of the thread is one at the ring, or none there. -/
theorem replayProcess_ring (cfg : Config F) (s : ReplayState F) :
    (replayProcess cfg s).ring.issued = s.ring.issued ∧
      (replayProcess cfg s).ring.unconsumed ≤ s.ring.unconsumed := by
  -- a step of the consumer takes a packet or leaves the ring
  have hconsumer : s.ring.consumerStep.unconsumed ≤ s.ring.unconsumed := by
    unfold RingState.consumerStep RingState.unconsumed
    split
    · split <;> exact Nat.le_refl _
    · exact Nat.le_refl _
    · show s.ring.accepted.length - (s.ring.moved + 1) ≤ _
      omega
  unfold replayProcess
  split
  · exact ⟨rfl, Nat.le_refl _⟩
  · exact ⟨RingState.consumerStep_issued s.ring, hconsumer⟩

/-- A sleeping thread stays asleep. -/
theorem Asleep.replayProcess (h : Asleep s) (cfg : Config F) :
    Hesai.replayProcess cfg s = s := by
  have hring : s.ring.consumerStep = s.ring := by
    simp [RingState.consumerStep, h.pc, h.enough]
  have hpc : ¬ s.ring.pc = .move := by simp [h.pc]
  simp only [Hesai.replayProcess, h.turn, hring, if_neg hpc]
  rw [← h.turn]

omit [CFloat F] in
/-- When at most `1000` packets wait, a thread that sleeps has left one packet in the ring,
    if there ever was one. -/
theorem Asleep.take_moved (h : Asleep s) (hfifo : s.ring.Fifo) (hfew : s.ring.unconsumed ≤ 1000) :
    s.ring.issued.take s.ring.moved = s.ring.issued.dropLast := by
  by_cases hnone : s.ring.issued = []
  · simp [hnone]
  · have hwaiting := hfifo.waiting hnone
    -- a thread that sleeps is not resumable, and that means one packet
    have hstuck : ¬ RingState.Resumable s.ring := by
      rw [← hfifo.counted.hasEnoughPackets_iff, h.enough]
      decide
    rw [RingState.unconsumed, hfifo.accepted] at hfew
    have hone : s.ring.moved = s.ring.issued.length - 1 := by
      unfold RingState.Resumable pktArraySize at hstuck
      omega
    rw [hone, List.dropLast_eq_take]

/-- A thread that is left alone falls asleep, and then it has done what the sequential run
    does for all packets but the last. -/
theorem LiveInv.catches_up (h : LiveInv cfg calib Rel s)
    (hrel : ∀ live t e, Rel live t → Rel (instanceStep cfg live e)
      (instanceStep cfg { t with calibration := s.correction.tables.toCalibration } e))
    (hfew : s.ring.unconsumed ≤ 1000) :
    ∃ k, ∀ n ≥ k, Rel (run cfg (DriverState.init calib) s.ring.issued.dropLast)
      ((replayProcess cfg)^[n] s).driver := by
  -- what the thread leaves as it is while it takes steps
  let Stays : ReplayState F → Prop := fun t => LiveInv cfg calib Rel t ∧
    t.correction = s.correction ∧ t.ring.issued = s.ring.issued ∧ t.ring.unconsumed ≤ 1000
  have hstays : ∀ t, Stays t → Stays (replayProcess cfg t) := by
    rintro t ⟨hinv, hcorrection, hissued, hwaiting⟩
    obtain ⟨hissued', hwaiting'⟩ := replayProcess_ring cfg t
    refine ⟨hinv.process fun live e _ hlive => ?_, ?_, hissued'.trans hissued,
      Nat.le_trans hwaiting' hwaiting⟩
    · rw [hcorrection]
      exact hrel live t.driver e hlive
    · rw [replayProcess_correction, hcorrection]
  -- it comes to rest, as there is less to do after each step
  obtain ⟨k, hrest, ⟨hinv, -, hissued, hwaiting⟩, hlater⟩ :=
    comes_to_rest (threadWork cfg) hstays (fun t ht => by
      rcases ht.1.fifo.threadWork_lt cfg with hasleep | hless
      · exact Or.inl (hasleep.replayProcess cfg)
      · exact Or.inr hless) (show Stays s from ⟨h, rfl, rfl, hfew⟩)
  -- at rest there is nothing that would get less, so it sleeps
  have hasleep : Asleep ((replayProcess cfg)^[k] s) := by
    apply (hinv.fifo.threadWork_lt cfg).resolve_right
    rw [hrest]
    exact Nat.lt_irrefl _
  refine ⟨k, fun n hn => ?_⟩
  rw [hlater n hn]
  obtain ⟨done, rest, hscript, hturn, hdone⟩ := hinv.thread
  rw [hasleep.turn, List.forall₂_nil_right_iff] at hturn
  rw [hturn, List.append_nil, hasleep.take_moved hinv.fifo hwaiting, hissued] at hscript
  rwa [hscript, foldl_flatMap_turnSteps] at hdone

/-! ## Any calibrations -/

/-- A step of an instance, whatever calibration is in force. -/
theorem LiveInv.step_withoutXyz (h : LiveInv cfg calib SameButXyz s) {op : LiveOp F}
    (hok : LiveOk cfg env s op) : LiveInv cfg calib SameButXyz (liveStep cfg env s op) := by
  by_cases hop : op = .process
  · subst hop
    exact h.process fun live e _ hrel => hrel.step live.calibration _ e
  · exact h.other hop hok

/-- In every run of an instance whose steps are defined, with calibrations loaded at any time,
    the frames are the first ones of the packets in order, but for the coordinates of the points
    and the correction packets. If at most `1000` packets are waiting, a thread that is left alone
    publishes all frames up to the last packet, as long as its steps are defined. -/
theorem frames_up_to_xyz (cfg : Config F) (env : LoadEnv F) (calib : Calibration F)
    (tables : CalibrationTables F) (messages : List PandarPacketMsg) (ops : List (LiveOp F))
    (hops : EachStep (liveStep cfg env) (LiveOk cfg env) (ReplayState.init tables messages) ops) :
    let s := ops.foldl (liveStep cfg env) (ReplayState.init tables messages)
    s.driver.published.map Frame.withoutXyz <+:
        (run cfg (DriverState.init calib) s.ring.issued).published.map Frame.withoutXyz ∧
      (s.ring.unconsumed ≤ 1000 → s.DefinedAlone cfg → ∃ k, ∀ n ≥ k,
        ((replayProcess cfg)^[n] s).driver.published.map Frame.withoutXyz =
          (run cfg (DriverState.init calib) s.ring.issued.dropLast).published.map
            Frame.withoutXyz) := by
  intro s
  have hinv : LiveInv cfg calib SameButXyz s :=
    hops.inv (liveInv_init ⟨rfl, rfl, rfl, rfl, rfl, rfl⟩)
      fun _ _ h hok => h.step_withoutXyz hok
  constructor
  · -- frames without coordinates do not depend on the calibration
    apply hinv.prefix_of (fun s => s.published.map Frame.withoutXyz)
    · intro live e
      exact (frames_prefix_instanceStep cfg live e).map _
    · exact fun live hrel => hrel.published
  · intro hfew _
    obtain ⟨k, hk⟩ := hinv.catches_up
      (fun live t e hrel => hrel.step live.calibration _ e) hfew
    exact ⟨k, fun n hn => (hk n hn).published.symm⟩

/-! ## One calibration -/

/-- The step may load a calibration. -/
def LiveOp.mayLoad : LiveOp F → Bool
  | push _ _ | calibrate _ _ => true
  | receive _ _ _ | capture _ _ _ | process => false

/-- The packet that comes in with a step that loads nothing. -/
def LiveOp.packets : LiveOp F → List (PandarPacket F)
  | receive time stale outcome => (recvTask time stale outcome).packets
  | capture time stale record => (parsePcap time stale record).packets
  | push _ _ | calibrate _ _ | process => []

/-- No step of the thread changes the calibration. -/
theorem instanceStep_calibration (cfg : Config F) (s : DriverState F) (e : InstanceStep F) :
    (instanceStep cfg s e).calibration = s.calibration := by
  cases e with
  | emission pkt azimuth =>
    simp only [instanceStep]
    split
    · exact (cutFrame_calibration cfg pkt.laserNumber s).1
    · rfl
  | take | keep | block | finish => rfl

/-- The same state, with the calibration of the tables. -/
def SameUnder (calib : Calibration F) (s s' : DriverState F) : Prop :=
  s = s' ∧ s.calibration = calib

theorem SameUnder.step {calib : Calibration F} {live t : DriverState F}
    (h : SameUnder calib live t) (cfg : Config F) (e : InstanceStep F) :
    SameUnder calib (instanceStep cfg live e)
      (instanceStep cfg { t with calibration := calib } e) := by
  obtain ⟨rfl, rfl⟩ := h
  exact ⟨rfl, instanceStep_calibration cfg live e⟩

/-- The packets that came in are pushed in their order. -/
theorem liveStep_issued (cfg : Config F) (env : LoadEnv F) (s : ReplayState F) {op : LiveOp F}
    (hop : ∀ stale memory, op ≠ .push stale memory) :
    (liveStep cfg env s op).ring.issued = s.ring.issued ++ op.packets := by
  have hingest : ∀ input : Ingested F,
      (ingest s input).ring.issued = s.ring.issued ++ input.packets := by
    intro input
    cases input with
    | pushed pkt => rfl
    | nothing | undefined => exact (List.append_nil _).symm
  cases op with
  | receive time stale outcome => exact hingest _
  | capture time stale record => exact hingest _
  | push stale memory => exact absurd rfl (hop stale memory)
  | calibrate localFile result => exact (List.append_nil _).symm
  | process => exact (replayProcess_ring cfg s).1.trans (List.append_nil _).symm

/-- The packets of a run. -/
theorem foldl_liveStep_issued {Q : ReplayState F → LiveOp F → Prop}
    (hQ : ∀ s op, Q s op → ∀ stale memory, op ≠ .push stale memory) {ops : List (LiveOp F)}
    (hops : EachStep (liveStep cfg env) Q s ops) :
    (ops.foldl (liveStep cfg env) s).ring.issued =
      s.ring.issued ++ ops.flatMap LiveOp.packets := by
  induction ops generalizing s with
  | nil => exact (List.append_nil _).symm
  | cons op ops ih =>
    rw [List.foldl_cons, ih hops.2, liveStep_issued cfg env s (hQ s op hops.1), List.flatMap_cons,
      List.append_assoc]

/-- Only a load changes the tables. -/
theorem liveStep_correction (cfg : Config F) (env : LoadEnv F) (s : ReplayState F) {op : LiveOp F}
    (hop : op.mayLoad = false) : (liveStep cfg env s op).correction = s.correction := by
  have hingest : ∀ input : Ingested F, (ingest s input).correction = s.correction := by
    intro input
    cases input <;> rfl
  cases op with
  | receive time stale outcome => exact hingest _
  | capture time stale record => exact hingest _
  | process => exact replayProcess_correction cfg s
  | push | calibrate => exact absurd hop Bool.true_eq_false.mp

/-- The condition on a step of a run without loads. -/
def UnloadedOk (cfg : Config F) (env : LoadEnv F) (s : ReplayState F) (op : LiveOp F) : Prop :=
  LiveOk cfg env s op ∧ op.mayLoad = false

/-- Where an instance stands before any load. -/
structure UnloadedInv (cfg : Config F) (tables : CalibrationTables F) (s : ReplayState F) :
    Prop where
  live : LiveInv cfg tables.toCalibration (SameUnder tables.toCalibration) s
  tables : s.correction.tables = tables

theorem UnloadedInv.step {tables : CalibrationTables F} (h : UnloadedInv cfg tables s)
    {op : LiveOp F} (hok : UnloadedOk cfg env s op) :
    UnloadedInv cfg tables (liveStep cfg env s op) := by
  obtain ⟨hok, hload⟩ := hok
  constructor
  · by_cases hop : op = .process
    · subst hop
      refine h.live.process fun live e _ hrel => ?_
      rw [h.tables]
      exact hrel.step cfg e
    · exact h.live.other hop hok
  · rw [liveStep_correction cfg env s hload]
    exact h.tables

/-- A run without loads, and the packets that it was given. -/
theorem unloadedInv_run {tables : CalibrationTables F} {ops : List (LiveOp F)}
    (hops : EachStep (liveStep cfg env) (UnloadedOk cfg env) (ReplayState.init tables []) ops) :
    UnloadedInv cfg tables (ops.foldl (liveStep cfg env) (ReplayState.init tables [])) ∧
      (ops.foldl (liveStep cfg env) (ReplayState.init tables [])).ring.issued =
        ops.flatMap LiveOp.packets := by
  constructor
  · exact hops.inv ⟨liveInv_init ⟨rfl, rfl⟩, rfl⟩ fun _ _ h hok => h.step hok
  · refine foldl_liveStep_issued (fun _ op hok stale memory hpush => ?_) hops
    rw [hpush] at hok
    exact absurd hok.2 Bool.true_eq_false.mp

/-- The frames that are out are the first ones of the packets of the ring. -/
theorem UnloadedInv.frames_prefix {tables : CalibrationTables F} (h : UnloadedInv cfg tables s) :
    s.driver.published <+:
      (run cfg (DriverState.init tables.toCalibration) s.ring.issued).published := by
  apply h.live.prefix_of DriverState.published (frames_prefix_instanceStep cfg)
  exact fun live hrel => congrArg DriverState.published hrel.1

/-- A thread that is left alone ends where the sequential run on all packets but the last
    ends. -/
theorem UnloadedInv.catches_up {tables : CalibrationTables F} (h : UnloadedInv cfg tables s)
    (hfew : s.ring.unconsumed ≤ 1000) :
    ∃ k, ∀ n ≥ k, ((replayProcess cfg)^[n] s).driver =
      run cfg (DriverState.init tables.toCalibration) s.ring.issued.dropLast := by
  obtain ⟨k, hk⟩ := h.live.catches_up (fun live t e hrel => by
    rw [h.tables]
    exact hrel.step cfg e) hfew
  exact ⟨k, fun n hn => (hk n hn).1.symm⟩

/-- In every run of an instance that loads no calibration, and whose steps are defined, the
    frames are the first ones of the packets that came in, in their order. If at most `1000`
    packets are waiting, a thread that is left alone ends where the sequential run on all packets
    but the last ends, as long as its steps are defined: the last packet is processed only when
    another one comes in. -/
theorem live_run_catches_up (cfg : Config F) (env : LoadEnv F) (tables : CalibrationTables F)
    (ops : List (LiveOp F))
    (hops : EachStep (liveStep cfg env) (UnloadedOk cfg env) (ReplayState.init tables []) ops) :
    let s := ops.foldl (liveStep cfg env) (ReplayState.init tables [])
    let packets := ops.flatMap LiveOp.packets
    s.driver.published <+:
        (run cfg (DriverState.init tables.toCalibration) packets).published ∧
      (s.ring.unconsumed ≤ 1000 → s.DefinedAlone cfg → ∃ k, ∀ n ≥ k,
        ((replayProcess cfg)^[n] s).driver =
          run cfg (DriverState.init tables.toCalibration) packets.dropLast) := by
  intro s packets
  obtain ⟨hinv, hissued⟩ := unloadedInv_run hops
  rw [show packets = s.ring.issued from hissued.symm]
  exact ⟨hinv.frames_prefix, fun hfew _ => hinv.catches_up hfew⟩

/-! ## The calibration of the lidar -/

omit [CFloat F] in
/-- Time offsets are no part of a calibration. -/
theorem get_of_mem_timeReads {tables : Tables F} (calib calib' : Calibration F)
    {pkt : ParsedPacket} {lidarType : String} {blockid i : Nat} {r : LookupTable × Nat}
    (hr : r ∈ pkt.timeReads lidarType blockid i) :
    r.1.get tables calib r.2 = r.1.get tables calib' r.2 := by
  have hall : ∀ r ∈ pkt.timeReads lidarType blockid i, r.1 ≠ .sinElevationMap ∧
      r.1 ≠ .cosElevationMap ∧ r.1 ≠ .horizatalAzimuthOffsetMap := by
    cases pkt <;> simp only [ParsedPacket.timeReads] <;> split_ifs <;> simp
  obtain ⟨hsin, hcos, hoffset⟩ := hall r hr
  obtain ⟨table, k⟩ := r
  cases table <;> first | rfl | contradiction

/-- The points of a block with the same angles. -/
theorem blockPoints_of_angles {calib calib' : Calibration F} (stamp : F) {blockid : Nat}
    {pkt : ParsedPacket} (h : ∀ i, pkt.RightReturn blockid i → SameAngles calib calib' i) :
    blockPoints cfg calib stamp blockid pkt = blockPoints cfg calib' stamp blockid pkt := by
  refine blockPoints_congr stamp ⟨rfl, rfl, rfl, rfl, rfl, rfl⟩ fun r hr => ?_
  obtain ⟨i, hright, hr⟩ := mem_blockReads.mp hr
  rcases List.mem_append.mp hr with hangle | htime
  · simp only [angleReads, List.mem_cons, List.not_mem_nil, or_false] at hangle
    rcases hangle with rfl | rfl | rfl
    · exact (h i hright).sinMap
    · exact (h i hright).cosMap
    · exact (h i hright).offset
  · split at htime
    · exact absurd htime List.not_mem_nil
    · exact get_of_mem_timeReads calib calib' htime

/-- The same step when the points of its block are the same. -/
theorem SameDriver.step_of_points {calib calib' : Calibration F} {s s' : DriverState F}
    (h : SameDriver calib s s') (e : InstanceStep F)
    (hpoints : ∀ pkt blockid azimuth, e = .block pkt blockid azimuth → ∀ stamp,
      blockPoints cfg calib stamp blockid pkt = blockPoints cfg calib' stamp blockid pkt) :
    SameDriver calib (instanceStep cfg s e)
      (instanceStep cfg { s' with calibration := calib' } e) := by
  obtain ⟨hcalib, hazimuth, hstamp, hstore, hmsg, hclouds⟩ := h
  cases e with
  | take packet => exact ⟨hcalib, hazimuth, rfl, hstore, hmsg, hclouds⟩
  | keep packet => exact ⟨hcalib, hazimuth, hstamp, hstore, hmsg, hclouds⟩
  | emission pkt azimuth =>
    have hsame : SameDriver calib s { s' with calibration := calib' } :=
      ⟨hcalib, hazimuth, hstamp, hstore, hmsg, hclouds⟩
    simp only [instanceStep, hazimuth]
    split
    · exact hsame.cutFrame pkt.laserNumber
    · exact hsame
  | block pkt blockid azimuth =>
    have hblock := hpoints pkt blockid azimuth rfl s.dPktTimestamp
    simp only [instanceStep, calcPoints_eq, hcalib, hblock]
    exact ⟨rfl, rfl, hstamp, by simp only [hstamp, hstore], hmsg, hclouds⟩
  | finish => exact ⟨hcalib, hazimuth, hstamp, hstore, by simp only [instanceStep, hmsg], hclouds⟩

/-- The lidar sends its calibration as text, with a row for each of `n` lasers. -/
def SendsCalibration (lidar : List UInt8 → UInt8 × List UInt8) (calib : Calibration F) (n : Nat) :
    Prop :=
  ∀ stale, lidar (tcpCommandClientSendCmd (ClientCall.getLidarCalibration stale).command) =
    (0, (correctionContent calib n).toUTF8.data.toList)

/-- The call of `GetCalibrationFromDevice` to this lidar. -/
theorem exec_getLidarCalibration {lidar : List UInt8 → UInt8 × List UInt8} {peer : Peer}
    {net : Net} (hlidar : Answers lidar peer) (hnet : Reaches peer net) {n : Nat}
    (hsends : SendsCalibration lidar calib n) (stale : Nat → UInt8) :
    ((tcpCommandGetLidarCalibration stale).exec net).1 =
      ⟨0, some ((correctionContent calib n).toUTF8.data.toList ++ [0])⟩ := by
  have hanswer := (@exec_sendCmd_answered _ _ _ hlidar hnet stale (.getLidarCalibration stale)
    trivial rfl).2
  rw [ClientCall.answered, hsends stale] at hanswer
  rw [tcpCommandGetLidarCalibration, callCommand, Program.exec_bind, Program.exec_pure]
  exact hanswer.symm

/-- A text that ends in a zero byte is loaded, whatever follows in the memory. -/
theorem getCalibrationFromDevice_sent (env : LoadEnv F) (localFile : LocalFile) {n : Nat}
    (hn : n ≤ 64) (hsurvives : Survives env calib n) (s : CorrectionState F) :
    let loaded := getCalibrationFromDevice env localFile
      ⟨0, some ((correctionContent calib n).toUTF8.data.toList ++ [0])⟩ s
    loaded.gotLidarCorrectionFlag = true ∧ loaded.tables.elevationSize = n ∧
      ∀ i < n, SameAngles calib loaded.tables.toCalibration i := by
  intro loaded
  -- the same text as in a correction packet that is followed by a zero byte
  obtain ⟨correction, hpush, -, hsize, hangles⟩ := pushCorrection_recorded env
    (show EndsEarly [0] from (by decide : [].length < 5)) (s := ⟨s.tables, false⟩) rfl hn hsurvives
  rw [pushCorrection_saved env [0] none rfl hn hsurvives.savable, Option.some.injEq] at hpush
  subst hpush
  have hstring : cString ((correctionContent calib n).toUTF8.data.toList ++ [0]) [] =
      cString (correctionContent calib n).toUTF8.data.toList [0] := by
    simp only [cString, List.append_nil]
  have hret : ∀ content : List Char, (loadCorrectionFile env s.tables content).ret = 0 :=
    fun _ => rfl
  have hloaded : loaded = ⟨(loadCorrectionFile env s.tables
      (cString (correctionContent calib n).toUTF8.data.toList [0])).tables, true⟩ := by
    simp only [loaded, getCalibrationFromDevice, ↓reduceIte, hret, hstring, decide_true,
      Bool.true_or]
  rw [hloaded]
  exact ⟨rfl, hsize, hangles⟩

/-- The condition on a step: calibrations come from the lidar only, and no block is processed
    before the first one is loaded. -/
structure CalibratedOk (cfg : Config F) (env : LoadEnv F) (peer : Peer) (n : Nat)
    (s : ReplayState F) (op : LiveOp F) : Prop extends LiveOk cfg env s op where
  noPush : ∀ stale memory, op ≠ .push stale memory
  fromLidar : ∀ localFile result, op = .calibrate localFile result →
    ∃ stale net, Reaches peer net ∧ result = ((tcpCommandGetLidarCalibration stale).exec net).1
  loaded : ∀ pkt blockid azimuth, op = .process →
    s.turn.head? = some (.block pkt blockid azimuth) →
      s.correction.gotLidarCorrectionFlag = true ∧ ∀ i, pkt.RightReturn blockid i → i < n

/-- Where an instance stands that has its calibration from the lidar. -/
structure CalibratedInv (cfg : Config F) (calib : Calibration F) (n : Nat) (s : ReplayState F) :
    Prop where
  live : LiveInv cfg calib (SameDriver calib) s
  angles : s.correction.gotLidarCorrectionFlag = true →
    ∀ i < n, SameAngles calib s.correction.tables.toCalibration i

theorem CalibratedInv.step {lidar : List UInt8 → UInt8 × List UInt8} {peer : Peer} {n : Nat}
    (h : CalibratedInv cfg calib n s) (hlidar : Answers lidar peer)
    (hsends : SendsCalibration lidar calib n) (hn : n ≤ 64) (hsurvives : Survives env calib n)
    {op : LiveOp F} (hok : CalibratedOk cfg env peer n s op) :
    CalibratedInv cfg calib n (liveStep cfg env s op) := by
  cases op with
  | receive | capture =>
    refine ⟨h.live.other (by simp) hok.toLiveOk, ?_⟩
    rw [liveStep_correction cfg env s rfl]
    exact h.angles
  | push stale memory => exact absurd rfl (hok.noPush stale memory)
  | calibrate localFile result =>
    refine ⟨h.live.other (by simp) hok.toLiveOk, fun _ => ?_⟩
    obtain ⟨stale, net, hnet, rfl⟩ := hok.fromLidar localFile result rfl
    rw [exec_getLidarCalibration hlidar hnet hsends stale]
    exact (getCalibrationFromDevice_sent env localFile hn hsurvives s.correction).2.2
  | process =>
    refine ⟨h.live.process fun live e he hrel => ?_, ?_⟩
    · apply hrel.step_of_points e
      rintro pkt blockid azimuth rfl stamp
      obtain ⟨hflag, hlasers⟩ := hok.loaded pkt blockid azimuth rfl he
      exact blockPoints_of_angles stamp fun i hright => h.angles hflag i (hlasers i hright)
    · rw [liveStep_correction cfg env s rfl]
      exact h.angles

/-- Where such an instance stands once the calibration is loaded, if all packets have at most
    `n` lasers. -/
structure LoadedInv (cfg : Config F) (calib : Calibration F) (n : Nat) (s : ReplayState F) :
    Prop extends CalibratedInv cfg calib n s where
  flag : s.correction.gotLidarCorrectionFlag = true
  lasers : ∀ k, IsLaserNumber cfg s.ring.issued k → k ≤ n

/-- As long as nothing else is loaded, its steps meet the condition. -/
theorem LoadedInv.calibratedOk (h : LoadedInv cfg calib n s) (peer : Peer) {op : LiveOp F}
    (hload : op.mayLoad = false) (hok : LiveOk cfg env s op) :
    CalibratedOk cfg env peer n s op := by
  refine ⟨hok, ?_, ?_, ?_⟩
  · rintro stale memory rfl
    exact absurd hload Bool.true_eq_false.mp
  · rintro localFile result rfl
    exact absurd hload Bool.true_eq_false.mp
  · -- a block comes from a packet that was issued
    rintro pkt blockid azimuth rfl hturn
    obtain ⟨e, he, rfl⟩ := h.live.thread.exists_of_mem (List.mem_of_mem_head? hturn)
    obtain ⟨packet, hpacket, he⟩ := List.mem_flatMap.mp he
    have hparse := (parsePacket_of_mem_turnSteps he).1
    have hcount := h.lasers _ ⟨packet, List.mem_of_mem_take hpacket, pkt, hparse, rfl⟩
    exact ⟨h.flag, fun i hright => Nat.lt_of_lt_of_le hright.1 hcount⟩

/-- It stays loaded, if the packets that come in have at most `n` lasers as well. -/
theorem LoadedInv.step {lidar : List UInt8 → UInt8 × List UInt8} {peer : Peer}
    (h : LoadedInv cfg calib n s) (hlidar : Answers lidar peer)
    (hsends : SendsCalibration lidar calib n) (hn : n ≤ 64) (hsurvives : Survives env calib n)
    {op : LiveOp F} (hload : op.mayLoad = false)
    (hlasers : ∀ packet ∈ op.packets, ∀ pkt, parsePacket cfg packet = some pkt →
      pkt.laserNumber.toNat ≤ n) (hok : LiveOk cfg env s op) :
    LoadedInv cfg calib n (liveStep cfg env s op) := by
  have hcalibrated := h.calibratedOk peer hload hok
  refine ⟨h.toCalibratedInv.step hlidar hsends hn hsurvives hcalibrated, ?_, ?_⟩
  · rw [liveStep_correction _ _ _ hload]
    exact h.flag
  · rw [liveStep_issued _ _ _ hcalibrated.noPush]
    rintro k ⟨packet, hpacket, pkt, hparse, rfl⟩
    rcases List.mem_append.mp hpacket with hold | hnew
    · exact h.lasers _ ⟨packet, hold, pkt, hparse, rfl⟩
    · exact hlasers packet hnew pkt hparse

/-- If the lidar sends its calibration as text, and no block is processed before it is
    loaded, the clouds of every run whose steps are defined are those of the packets in order
    under the calibration of the lidar. -/
theorem clouds_with_lidar_calibration (cfg : Config F) (env : LoadEnv F)
    (tables : CalibrationTables F) (calib : Calibration F) (n : Nat)
    (lidar : List UInt8 → UInt8 × List UInt8) (peer : Peer) (ops : List (LiveOp F))
    (hlidar : Answers lidar peer) (hsends : SendsCalibration lidar calib n) (hn : n ≤ 64)
    (hsurvives : Survives env calib n)
    (hops : EachStep (liveStep cfg env) (CalibratedOk cfg env peer n) (ReplayState.init tables [])
      ops) :
    let s := ops.foldl (liveStep cfg env) (ReplayState.init tables [])
    s.driver.published.map (·.cloud) <+:
      (run cfg (DriverState.init calib) (ops.flatMap LiveOp.packets)).published.map
        (·.cloud) := by
  intro s
  have hissued : s.ring.issued = ops.flatMap LiveOp.packets :=
    foldl_liveStep_issued (fun _ _ hok => hok.noPush) hops
  rw [← hissued]
  have hinv : CalibratedInv cfg calib n s :=
    hops.inv ⟨liveInv_init ⟨rfl, rfl, rfl, rfl, rfl, rfl⟩, fun hflag => absurd hflag
      Bool.false_ne_true⟩ fun _ _ h hok => h.step hlidar hsends hn hsurvives hok
  apply hinv.live.prefix_of (fun s => s.published.map (·.cloud)) (clouds_prefix_instanceStep cfg)
  exact fun live hrel => hrel.clouds

/-! ## Runs whose steps are defined -/

/-- The packet can be parsed, and its right returns are from lasers of the lidar type. -/
def PacketUsable (cfg : Config F) (packet : PandarPacket F) : Prop :=
  PacketFits cfg packet ∧ ∀ blockid, OpOk cfg (.block packet blockid)

/-- The tables are usable, and not larger than the row arrays. -/
def TablesUsable (cfg : Config F) (tables : CalibrationTables F) : Prop :=
  TablesOk cfg tables ∧ tables.elevationSize ≤ 64

/-- Tables with the angles of a calibration whose offsets are in range. -/
theorem tablesUsable_of_sameAngles {tables : CalibrationTables F}
    (hsize : tables.elevationSize = initLasers cfg.lidarType)
    (hangles : ∀ i < initLasers cfg.lidarType, SameAngles calib tables.toCalibration i)
    (hoffset : ∀ i < initLasers cfg.lidarType,
      OffsetInRange cfg (calib.horizatalAzimuthOffsetMap i)) : TablesUsable cfg tables := by
  refine ⟨⟨Nat.le_of_eq hsize.symm, fun i hi => ?_⟩, hsize ▸ initLasers_le cfg.lidarType⟩
  rw [← (hangles i hi).offset]
  exact hoffset i hi

/-- An instance with usable packets and tables. -/
structure Usable (cfg : Config F) (s : ReplayState F) : Prop where
  fifo : s.ring.Fifo
  issued : ∀ packet ∈ s.ring.issued, PacketUsable cfg packet
  turn : ∀ e ∈ s.turn, ∃ packet, PacketUsable cfg packet ∧ e ∈ turnSteps cfg packet
  tables : TablesUsable cfg s.correction.tables

theorem usable_init [CFloat.Accurate F] (cfg : Config F) (env : LoadEnv F)
    (stale : CalibrationTables F) (messages : List PandarPacketMsg) :
    Usable cfg (ReplayState.init (initCalibration env stale cfg.lidarType) messages) where
  fifo := RingState.fifo_init
  issued _ h := absurd h List.not_mem_nil
  turn _ h := absurd h List.not_mem_nil
  tables := ⟨TablesOk.init cfg env stale, initLasers_le cfg.lidarType⟩

/-- The next step of the thread is defined, if there is room for the points of a block. -/
theorem Usable.threadDefined (h : Usable cfg s)
    (hroom : s.driver.store.iPointCloudIndex + 64 ≤ maxPointCloudNum) : ThreadDefined cfg s := by
  -- the lasers of a block have usable rows
  have hblock : ∀ pkt blockid azimuth, .block pkt blockid azimuth ∈ s.turn →
      ∀ i, pkt.RightReturn blockid i → i < s.correction.tables.elevationSize ∧
        AzimuthsInRange cfg s.correction.tables.toCalibration pkt blockid i := by
    intro pkt blockid azimuth he
    obtain ⟨packet, hpacket, he⟩ := h.turn _ he
    obtain ⟨hparse, hlt⟩ := parsePacket_of_mem_turnSteps he
    exact h.tables.1.indicesInRange (hpacket.2 blockid) pkt hparse hlt
  constructor
  · intro e he
    replace he := List.mem_of_mem_head? he
    constructor
    · cases e with
      | take packet' =>
        obtain ⟨packet, hpacket, he⟩ := h.turn _ he
        rw [eq_of_take_mem_turnSteps he]
        exact hpacket.1
      | block pkt blockid azimuth =>
        exact fun i hright => (hblock pkt blockid azimuth he i hright).2
      | keep | emission | finish => trivial
    · obtain ⟨packet, hpacket, he⟩ := h.turn _ he
      exact (instanceStep_index_le hpacket.1 he _).trans
        (hroom.trans (maxPointCloudNum_le_maxIndex cfg))
  · intro e he
    cases e with
    | block pkt blockid azimuth =>
      exact fun i hright => (hblock pkt blockid azimuth (List.mem_of_mem_head? he) i hright).1
    | take | keep | emission | finish => trivial

/-- A step of the thread stores at most `64` points. -/
theorem Usable.process (h : Usable cfg s) : Usable cfg (replayProcess cfg s) ∧
    (replayProcess cfg s).driver.store.iPointCloudIndex ≤
      s.driver.store.iPointCloudIndex + 64 := by
  unfold replayProcess
  cases hturn : s.turn with
  | cons e turn =>
    have hsteps := h.turn
    rw [hturn] at hsteps
    obtain ⟨packet, hpacket, he⟩ := hsteps e List.mem_cons_self
    exact ⟨⟨h.fifo, h.issued, fun e' he' => hsteps e' (List.mem_cons_of_mem e he'), h.tables⟩,
      instanceStep_index_le hpacket.1 he _⟩
  | nil =>
    refine ⟨⟨h.fifo.consumerStep, ?_, fun e he => ?_, h.tables⟩, Nat.le_add_right _ _⟩
    · rw [RingState.consumerStep_issued]
      exact h.issued
    · -- the packet of the turn is the next one that was pushed
      dsimp only at he
      split at he
      · next hpc =>
        obtain ⟨packet, hlast, htake⟩ := h.fifo.next_packet hpc
        rw [hlast, Option.toList_some, List.flatMap_singleton] at he
        have hmem : packet ∈ s.ring.issued.take (s.ring.moved + 1) := by
          rw [htake]
          exact List.mem_append_right _ List.mem_cons_self
        exact ⟨packet, h.issued packet (List.mem_of_mem_take hmem), he⟩
      · exact absurd he List.not_mem_nil

/-- A step of another thread. -/
theorem Usable.other (h : Usable cfg s) {op : LiveOp F} (hop : op ≠ .process)
    (hok : LiveOk cfg env s op)
    (hpackets : ∀ packet ∈ (op.input s).packets, PacketUsable cfg packet)
    (htables : TablesUsable cfg (liveStep cfg env s op).correction.tables) :
    Usable cfg (liveStep cfg env s op) := by
  obtain ⟨hfifo, -⟩ := h.fifo.other cfg env hop hok
  obtain ⟨hring, hturn, -⟩ := liveStep_other cfg env s hop
  refine ⟨hfifo, ?_, ?_, htables⟩
  · rw [hring]
    cases hinput : op.input s with
    | pushed pkt =>
      rw [hinput] at hpackets
      exact fun packet hpacket =>
        (List.mem_append.mp hpacket).elim (h.issued packet) (hpackets packet)
    | nothing | undefined => exact h.issued
  · rw [hturn]
    exact h.turn

/-- The condition on a step that does not look at the state: what comes in is usable. -/
structure LiveOp.Usable (cfg : Config F) (env : LoadEnv F) (op : LiveOp F) : Prop where
  defined : ∀ s, op.input s ≠ .undefined
  packets : ∀ s, ∀ packet ∈ (op.input s).packets, PacketUsable cfg packet
  tables : ∀ s, TablesUsable cfg s.correction.tables →
    TablesUsable cfg (liveStep cfg env s op).correction.tables

/-- A step that loads nothing. -/
theorem LiveOp.usable_of_quiet {op : LiveOp F} (hload : op.mayLoad = false)
    (hdefined : ∀ s, op.input s ≠ .undefined)
    (hpackets : ∀ packet ∈ op.packets, PacketUsable cfg packet) : op.Usable cfg env where
  defined := hdefined
  packets s := by
    have hinput : (op.input s).packets = op.packets := by
      cases op with
      | push | calibrate => exact absurd hload Bool.true_eq_false.mp
      | receive | capture | process => rfl
    rwa [hinput]
  tables s htables := by
    rwa [liveStep_correction cfg env s hload]

theorem LiveOp.usable_process : (LiveOp.process : LiveOp F).Usable cfg env :=
  LiveOp.usable_of_quiet rfl (fun _ => by simp [LiveOp.input]) fun _ h => absurd h List.not_mem_nil

/-- A calibration of all lasers that the lidar sends. -/
theorem LiveOp.usable_calibrate (localFile : LocalFile) {n : Nat}
    (hsurvives : Survives env calib n) (hn : n = initLasers cfg.lidarType)
    (hoffset : ∀ i < n, OffsetInRange cfg (calib.horizatalAzimuthOffsetMap i)) :
    (LiveOp.calibrate localFile ⟨0, some ((correctionContent calib n).toUTF8.data.toList ++
      [0])⟩ : LiveOp F).Usable cfg env where
  defined _ := by simp [LiveOp.input]
  packets _ _ h := absurd h List.not_mem_nil
  tables s _ := by
    subst hn
    obtain ⟨-, hsize, hangles⟩ := getCalibrationFromDevice_sent env localFile
      (initLasers_le cfg.lidarType) hsurvives s.correction
    exact tablesUsable_of_sameAngles hsize hangles hoffset

/-- With room in the ring and in `PointCloud` for all that comes in, the step is defined, and the
    state after it is usable. -/
theorem Usable.liveOk (h : Hesai.Usable cfg s) {op : LiveOp F} (hop : op.Usable cfg env)
    (hring : s.ring.accepted.length < pktArraySize)
    (hcells : s.driver.store.iPointCloudIndex + 64 ≤ maxPointCloudNum) :
    LiveOk cfg env s op ∧ Hesai.Usable cfg (liveStep cfg env s op) ∧
      (liveStep cfg env s op).driver.store.iPointCloudIndex ≤
        s.driver.store.iPointCloudIndex + 64 := by
  have htables := hop.tables s h.tables
  have hok : LiveOk cfg env s op := by
    refine ⟨hop.defined s, fun _ _ => ?_, htables.2, fun _ => h.threadDefined hcells⟩
    unfold RingState.unconsumed
    omega
  refine ⟨hok, ?_⟩
  by_cases hprocess : op = .process
  · subst hprocess
    exact h.process
  · rw [(liveStep_other cfg env s hprocess).2.2]
    exact ⟨h.other hprocess hok (hop.packets s) htables, Nat.le_add_right _ _⟩

/-- No step lets more than one packet into the ring. -/
theorem length_accepted_liveStep (cfg : Config F) (env : LoadEnv F) (s : ReplayState F)
    (op : LiveOp F) :
    (liveStep cfg env s op).ring.accepted.length ≤ s.ring.accepted.length + 1 := by
  by_cases hop : op = .process
  · subst hop
    exact length_accepted_replayStep cfg env s .process
  · rw [(liveStep_other cfg env s hop).1]
    cases op.input s with
    | pushed pkt =>
      show (ite _ _ _ : List (PandarPacket F)).length ≤ _
      split
      · exact Nat.le_of_eq List.length_append
      · exact Nat.le_succ _
    | nothing | undefined => exact Nat.le_succ _

/-- So few steps fill neither the ring nor `PointCloud`. -/
theorem Usable.run {ops : List (LiveOp F)} (h : Hesai.Usable cfg s)
    (hops : ∀ op ∈ ops, op.Usable cfg env)
    (hring : s.ring.accepted.length + ops.length ≤ pktArraySize)
    (hcells : s.driver.store.iPointCloudIndex + 64 * ops.length ≤ maxPointCloudNum) :
    EachStep (liveStep cfg env) (LiveOk cfg env) s ops ∧
      Hesai.Usable cfg (ops.foldl (liveStep cfg env) s) := by
  induction ops generalizing s with
  | nil => exact ⟨trivial, h⟩
  | cons op ops ih =>
    rw [List.length_cons] at hring hcells
    obtain ⟨hok, hnext, hindex⟩ :=
      h.liveOk (hops op List.mem_cons_self) (by omega) (by omega)
    have hone := length_accepted_liveStep cfg env s op
    obtain ⟨hrest, hend⟩ :=
      ih hnext (fun op hop => hops op (List.mem_cons_of_mem _ hop)) (by omega) (by omega)
    exact ⟨⟨hok, hrest⟩, hend⟩

/-- With room in `PointCloud` for the steps that a thread can take, all of them are defined. -/
theorem Usable.definedAlone (h : Hesai.Usable cfg s)
    (hcells : s.driver.store.iPointCloudIndex + 64 * threadWork cfg s ≤ maxPointCloudNum) :
    s.DefinedAlone cfg := by
  -- each step takes from the work what it may store
  have hall : ∀ k, Hesai.Usable cfg ((replayProcess cfg)^[k] s) ∧
      ((replayProcess cfg)^[k] s).driver.store.iPointCloudIndex +
        64 * threadWork cfg ((replayProcess cfg)^[k] s) ≤ maxPointCloudNum := by
    intro k
    induction k with
    | zero => exact ⟨h, hcells⟩
    | succ k ih =>
      rw [Function.iterate_succ_apply']
      obtain ⟨husable, hroom⟩ := ih
      rcases husable.fifo.threadWork_lt cfg with hasleep | hless
      · rw [hasleep.replayProcess cfg]
        exact ⟨husable, hroom⟩
      · obtain ⟨hnext, hindex⟩ := husable.process
        exact ⟨hnext, by omega⟩
  intro k
  obtain ⟨husable, hroom⟩ := hall k
  cases hturn : ((replayProcess cfg)^[k] s).turn with
  | nil =>
    constructor
    · simp [hturn]
    · simp [hturn]
  | cons e turn =>
    apply husable.threadDefined
    rw [threadWork, hturn, List.length_cons] at hroom
    omega

/-! ## An instance that receives three packets -/

/-- A datagram on the socket of the lidar. -/
def receivePacket (packet : PandarPacket Rat) : LiveOp Rat :=
  .receive packet.stamp (fun _ => 0)
    ⟨1, ⟨true, false, false, false, .datagram (bytes packet.data packet.size)⟩, none⟩

/-- What the lidar sends. -/
def eightDegreesText : List UInt8 := (correctionContent eightDegrees (16 : Nat)).toUTF8.data.toList

/-- The calibration comes while the thread is in its first turn. -/
def loadedLate : List (LiveOp Rat) :=
  threePackets.map receivePacket ++ List.replicate 8 .process ++
    [.calibrate none ⟨0, some (eightDegreesText ++ [0])⟩] ++ List.replicate 32 .process

/-- The calibration comes first. -/
def loadedEarly : List (LiveOp Rat) :=
  .calibrate none ⟨0, some (eightDegreesText ++ [0])⟩ ::
    (threePackets.map receivePacket ++ List.replicate 40 .process)

/-- No calibration comes. -/
def notLoaded : List (LiveOp Rat) :=
  threePackets.map receivePacket ++ List.replicate 30 .process

/-- A datagram is received whatever it holds. -/
theorem receive_defined (time : F) (stale : Nat → UInt8) (payload : List UInt8)
    (s : ReplayState F) :
    (LiveOp.receive time stale ⟨1, ⟨true, false, false, false, .datagram payload⟩, none⟩).input s ≠
      .undefined := by
  obtain ⟨pkt, hget⟩ : ∃ pkt, getPacket time stale
      ⟨1, ⟨true, false, false, false, .datagram payload⟩, none⟩ = .pushed pkt := by
    have hnot : ¬ (payload.length : Int) < 0 := by omega
    simp [getPacket, PollOutcome.fds, recvfrom, hnot]
  simp only [LiveOp.input, recvTask, hget]
  split <;> simp

/-- A packet with few enough lasers. -/
theorem packetUsable_of_laserNumber {packet : PandarPacket F} (hfits : PacketFits cfg packet)
    (hlasers : ∀ pkt ∈ parsePacket cfg packet,
      pkt.laserNumber.toNat ≤ initLasers cfg.lidarType) : PacketUsable cfg packet :=
  ⟨hfits, fun _ pkt hparse _ _ hright => Nat.lt_of_lt_of_le hright.1 (hlasers pkt hparse)⟩

/-- The packets that come in have sixteen lasers. -/
theorem usable_of_mem_receivePacket : ∀ packet ∈ threePackets,
    ∀ packet' ∈ (receivePacket packet).packets, PacketFits launchConfig packet' ∧
      ∀ pkt ∈ parsePacket launchConfig packet', pkt.laserNumber.toNat ≤ 16 := by
  decide +kernel

theorem usable_receivePacket {packet : PandarPacket Rat} (h : packet ∈ threePackets) :
    (receivePacket packet).Usable launchConfig LoadEnv.launch := by
  refine LiveOp.usable_of_quiet rfl
    (receive_defined packet.stamp (fun _ => 0) (bytes packet.data packet.size))
    fun packet' hpacket => ?_
  obtain ⟨hfits, hlasers⟩ := usable_of_mem_receivePacket packet h packet' hpacket
  exact packetUsable_of_laserNumber hfits hlasers

theorem survives_eightDegrees : Survives LoadEnv.launch eightDegrees 16 :=
  ⟨savable_sixteenLasers, fun _ _ => rfl, fun _ _ => rfl⟩

theorem usable_eightDegrees : (LiveOp.calibrate none
    ⟨0, some (eightDegreesText ++ [0])⟩ : LiveOp Rat).Usable launchConfig LoadEnv.launch := by
  refine LiveOp.usable_calibrate none survives_eightDegrees (by decide) fun i _ => ?_
  -- all offsets are half a degree
  exact offsetInRange_of_abs_le launchConfig (by norm_num : |(1 / 2 : Rat)| ≤ 9)

theorem usable_loadedLate : ∀ op ∈ loadedLate, op.Usable launchConfig LoadEnv.launch := by
  intro op hop
  simp only [loadedLate, List.mem_append, List.mem_map, List.mem_replicate,
    List.mem_singleton] at hop
  rcases hop with ((⟨packet, hpacket, rfl⟩ | ⟨-, rfl⟩) | rfl) | ⟨-, rfl⟩
  · exact usable_receivePacket hpacket
  · exact LiveOp.usable_process
  · exact usable_eightDegrees
  · exact LiveOp.usable_process

/-- A calibration that comes late. -/
theorem frames_up_to_xyz_loadedLate :
    let s := loadedLate.foldl (liveStep launchConfig LoadEnv.launch)
      (ReplayState.init launchTables [])
    s.driver.published.map Frame.withoutXyz <+:
        (run launchConfig (DriverState.init eightDegrees) s.ring.issued).published.map
          Frame.withoutXyz ∧
      ∃ k, ∀ n ≥ k,
        ((replayProcess launchConfig)^[n] s).driver.published.map Frame.withoutXyz =
          (run launchConfig (DriverState.init eightDegrees) s.ring.issued.dropLast).published.map
            Frame.withoutXyz := by
  obtain ⟨hops, husable⟩ := (usable_init launchConfig LoadEnv.launch
    ⟨Calibration.zero, 0⟩ []).run usable_loadedLate (by decide) (by decide)
  obtain ⟨hclouds, halone⟩ := frames_up_to_xyz launchConfig LoadEnv.launch eightDegrees
    launchTables [] loadedLate hops
  -- there is room for the steps that are left
  refine ⟨hclouds, halone ?_ (husable.definedAlone ?_)⟩
  · decide +kernel
  · decide +kernel

theorem usable_notLoaded : ∀ op ∈ notLoaded, op.Usable launchConfig LoadEnv.launch ∧
    op.mayLoad = false := by
  intro op hop
  simp only [notLoaded, List.mem_append, List.mem_map, List.mem_replicate] at hop
  rcases hop with ⟨packet, hpacket, rfl⟩ | ⟨-, rfl⟩
  · exact ⟨usable_receivePacket hpacket, rfl⟩
  · exact ⟨LiveOp.usable_process, rfl⟩

/-- The thread stops before the third packet. -/
theorem live_run_catches_up_notLoaded :
    let s := notLoaded.foldl (liveStep launchConfig LoadEnv.launch)
      (ReplayState.init launchTables [])
    let packets := notLoaded.flatMap LiveOp.packets
    s.driver.published <+:
        (run launchConfig (DriverState.init launchTables.toCalibration) packets).published ∧
      ∃ k, ∀ n ≥ k,
        ((replayProcess launchConfig)^[n] s).driver =
          run launchConfig (DriverState.init launchTables.toCalibration) packets.dropLast := by
  obtain ⟨hops, husable⟩ := (usable_init launchConfig LoadEnv.launch
    ⟨Calibration.zero, 0⟩ []).run (fun op hop => (usable_notLoaded op hop).1) (by decide)
    (by decide +kernel)
  have hunloaded : EachStep (liveStep launchConfig LoadEnv.launch)
      (UnloadedOk launchConfig LoadEnv.launch) (ReplayState.init launchTables []) notLoaded :=
    hops.strengthen (P := fun _ => True) trivial
      fun _ op hop _ hok => ⟨⟨hok, (usable_notLoaded op hop).2⟩, trivial⟩
  obtain ⟨hclouds, halone⟩ := live_run_catches_up launchConfig LoadEnv.launch launchTables
    notLoaded hunloaded
  refine ⟨hclouds, halone ?_ (husable.definedAlone ?_)⟩
  · decide +kernel
  · decide +kernel

/-- A lidar that sends this text, in one piece. -/
def calibrationPeer : Peer where
  writes := []
  answer _ := ⟨tcpCommandClientSendCmd (.ofPayload 0 0 eightDegreesText), []⟩

theorem calibrationPeer_answers : Answers (fun _ => (0, eightDegreesText)) calibrationPeer where
  writes := rfl
  length _ := length_saved_lt (by decide) savable_sixteenLasers
  items _ := ⟨0, [], (List.append_nil _).symm⟩
  arrives _ := List.not_mem_nil

/-- One descriptor, and the lidar. -/
def calibrationNet : Net where
  limit := 1
  fds _ := none
  peers _ := some calibrationPeer
  closed := []

/-- After the load come the packets and the steps of the thread. -/
theorem quiet_loadedEarly : ∀ op ∈ loadedEarly.tail,
    op.Usable launchConfig LoadEnv.launch ∧ op.mayLoad = false ∧
      ∀ packet ∈ op.packets, ∀ pkt, parsePacket launchConfig packet = some pkt →
        pkt.laserNumber.toNat ≤ 16 := by
  intro op hop
  simp only [loadedEarly, List.tail_cons, List.mem_append, List.mem_map,
    List.mem_replicate] at hop
  rcases hop with ⟨packet, hpacket, rfl⟩ | ⟨-, rfl⟩
  · exact ⟨usable_receivePacket hpacket, rfl,
      fun packet' hmem => (usable_of_mem_receivePacket packet hpacket packet' hmem).2⟩
  · exact ⟨LiveOp.usable_process, rfl, fun _ hnone => absurd hnone List.not_mem_nil⟩

theorem calibratedOk_loadedEarly : EachStep (liveStep launchConfig LoadEnv.launch)
    (CalibratedOk launchConfig LoadEnv.launch calibrationPeer 16)
    (ReplayState.init launchTables []) loadedEarly := by
  have hsends : SendsCalibration (fun _ => (0, eightDegreesText)) eightDegrees 16 := fun _ => rfl
  have hreaches : Reaches calibrationPeer calibrationNet := ⟨fun _ => rfl, 0, rfl⟩
  have hresult := exec_getLidarCalibration calibrationPeer_answers hreaches hsends fun _ => 0
  have husable : ∀ op ∈ loadedEarly, op.Usable launchConfig LoadEnv.launch :=
    List.forall_mem_cons.mpr ⟨usable_eightDegrees, fun op hop => (quiet_loadedEarly op hop).1⟩
  have hlive := ((usable_init launchConfig LoadEnv.launch ⟨Calibration.zero, 0⟩ []).run husable
    (by decide) (by decide +kernel)).1
  -- the load
  have hload : CalibratedOk launchConfig LoadEnv.launch calibrationPeer 16
      (ReplayState.init launchTables []) (.calibrate none ⟨0, some (eightDegreesText ++ [0])⟩) := by
    refine ⟨hlive.1, by simp, fun _ _ hop => ?_, by simp⟩
    obtain ⟨-, rfl⟩ := LiveOp.calibrate.inj hop
    exact ⟨_, _, hreaches, hresult.symm⟩
  refine ⟨hload, ?_⟩
  -- from here on it stays loaded
  apply hlive.2.strengthen (P := LoadedInv launchConfig eightDegrees 16)
  · have hinit : CalibratedInv launchConfig eightDegrees 16 (ReplayState.init launchTables []) :=
      ⟨liveInv_init ⟨rfl, rfl, rfl, rfl, rfl, rfl⟩, fun hflag => absurd hflag Bool.false_ne_true⟩
    refine ⟨hinit.step calibrationPeer_answers hsends (by decide) survives_eightDegrees hload,
      ?_, ?_⟩
    · exact (getCalibrationFromDevice_sent LoadEnv.launch none (by decide) survives_eightDegrees
        ⟨launchTables, false⟩).1
    · rintro k ⟨packet, hpacket, -⟩
      exact absurd hpacket List.not_mem_nil
  · intro s op hop hinv hok
    obtain ⟨-, hquiet, hlasers⟩ := quiet_loadedEarly op hop
    exact ⟨hinv.calibratedOk calibrationPeer hquiet hok,
      hinv.step calibrationPeer_answers hsends (by decide) survives_eightDegrees hquiet hlasers hok⟩

/-- A calibration that comes first. -/
theorem clouds_with_lidar_calibration_loadedEarly :
    let s := loadedEarly.foldl (liveStep launchConfig LoadEnv.launch)
      (ReplayState.init launchTables [])
    s.driver.published.map (·.cloud) <+:
      (run launchConfig (DriverState.init eightDegrees)
        (loadedEarly.flatMap LiveOp.packets)).published.map (·.cloud) :=
  clouds_with_lidar_calibration launchConfig LoadEnv.launch launchTables eightDegrees 16
    (fun _ => (0, eightDegreesText)) calibrationPeer loadedEarly calibrationPeer_answers
    (fun _ => rfl) (by decide) survives_eightDegrees calibratedOk_loadedEarly

end Hesai
