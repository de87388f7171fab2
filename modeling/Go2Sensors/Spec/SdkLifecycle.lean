import Go2Sensors.Spec.SdkThreads

/-!
# `Start` and `Stop` between turns

The threads of an SDK object take their steps one by one, and a call of `Stop` may come
anywhere in a turn of the processing thread. Since the join waits for that turn to end, the
frames are those of `Lifecycle`, where calls and turns come one after the other. No packet is
lost and none is processed twice, however often the object is stopped and started again.

## Key results

- `lifecycle_refined`: the threads refine the lifecycle, but for the calibration
-/

namespace Hesai

open Run Workers

variable {F : Type} [CFloat F]

/-! ## A lifecycle step by step -/

/-- A step of the processing thread, or its beginning. -/
def threadStep (cfg : Config F) (s : DriverState F) : Option (InstanceStep F) → DriverState F
  | none => { s with outMsg := PPointCloud.empty, scan := [] }
  | some e => instanceStep cfg s e

/-- The steps of a lifecycle. -/
def lifecycleSteps (cfg : Config F) :
    (running : Bool) → List (LifecycleOp F) → List (Option (InstanceStep F))
  | _, [] => []
  | _, .start :: ops => none :: lifecycleSteps cfg true ops
  | _, .stop :: ops => lifecycleSteps cfg false ops
  | running, .turn packet :: ops =>
    if running then (turnSteps cfg packet).map some ++ lifecycleSteps cfg running ops
    else lifecycleSteps cfg running ops

variable {cfg : Config F}

/-- The steps do what the lifecycle does. -/
theorem foldl_lifecycleSteps (cfg : Config F) (ops : List (LifecycleOp F)) (running : Bool)
    (driver : DriverState F) :
    (lifecycleSteps cfg running ops).foldl (threadStep cfg) driver =
      (ops.foldl (lifecycleStep cfg) ⟨driver, running⟩).driver := by
  induction ops generalizing running driver with
  | nil => rfl
  | cons op ops ih =>
    cases op with
    | start => exact ih true _
    | stop => exact ih false _
    | turn packet =>
      cases running with
      | false => exact ih false _
      | true =>
        simp only [lifecycleSteps, ↓reduceIte, List.foldl_append, List.foldl_map, threadStep,
          foldl_turnSteps, ih]
        rfl

/-- One more call, or turn. -/
theorem lifecycleSteps_append (cfg : Config F) (ops : List (LifecycleOp F)) (running : Bool)
    (driver : DriverState F) (op : LifecycleOp F) :
    lifecycleSteps cfg running (ops ++ [op]) = lifecycleSteps cfg running ops ++
      lifecycleSteps cfg (ops.foldl (lifecycleStep cfg) ⟨driver, running⟩).running [op] := by
  induction ops generalizing running driver with
  | nil => rfl
  | cons op' ops ih =>
    cases op' with
    | start => exact congrArg (none :: ·) (ih true _)
    | stop => exact ih false _
    | turn packet =>
      cases running with
      | false => exact ih false _
      | true =>
        simp only [List.cons_append, lifecycleSteps, ↓reduceIte, List.append_assoc]
        -- the turn that stands before changes the driver, and no flag
        rw [ih true (processLiarPacket cfg driver packet)]
        rfl

theorem turnPackets_append (cfg : Config F) (ops : List (LifecycleOp F)) (running : Bool)
    (driver : DriverState F) (op : LifecycleOp F) :
    turnPackets running (ops ++ [op]) = turnPackets running ops ++
      turnPackets (ops.foldl (lifecycleStep cfg) ⟨driver, running⟩).running [op] := by
  induction ops generalizing running driver with
  | nil => rfl
  | cons op' ops ih =>
    cases op' with
    | start => exact ih true _
    | stop => exact ih false _
    | turn packet =>
      cases running with
      | false => exact ih false _
      | true => exact congrArg (packet :: ·) (ih true _)

/-! ## The threads follow the lifecycle -/

/-- The condition on a step: what a thread does is defined. -/
def SdkOk (cfg : Config F) (env : LoadEnv F) (s : SdkState F) : SdkOp F → Prop
  | .process => s.running .process = true → LiveOk cfg env s.live .process
  | .receive time stale outcome =>
    s.running .receive = true → s.enabled .receive = true →
      LiveOk cfg env s.live (.receive time stale outcome)
  | .parse time stale (some record) =>
    s.running .parse = true → s.enabled .parse = true →
      LiveOk cfg env s.live (.capture time stale record)
  | .calibrate localFile result =>
    s.running .calibration = true → LiveOk cfg env s.live (.calibrate localFile result)
  | .call _ | .owner | .parse _ _ none => True

/-- The lifecycle that the threads have gone through. -/
def SdkState.lifecycle (cfg : Config F) (calib : Calibration F) (s : SdkState F) : Lifecycle F :=
  s.history.foldl (lifecycleStep cfg) (Lifecycle.init calib)

/-- Where an object stands in its lifecycle. -/
structure LifecycleInv (cfg : Config F) (calib : Calibration F) (connectLidar : Bool)
    (s : SdkState F) : Prop where
  sdk : SdkInv connectLidar s
  fifo : s.live.ring.Fifo
  packets : turnPackets false s.history = s.live.ring.issued.take s.live.ring.moved
  running : s.running .process = true → (s.lifecycle cfg calib).running = true
  thread : Following (threadStep cfg) (DriverState.init calib) (fun a e => a = some e) SameButXyz
    (lifecycleSteps cfg false s.history) s.live.turn s.live.driver

variable {calib : Calibration F} {connectLidar : Bool} {s : SdkState F}

theorem lifecycleInv_init (tables : CalibrationTables F) :
    LifecycleInv cfg calib connectLidar (SdkState.init tables) where
  sdk := sdkInv_init connectLidar tables
  fifo := RingState.fifo_init
  packets := rfl
  running h := absurd h Bool.false_ne_true
  thread := Following.init ⟨rfl, rfl, rfl, rfl, rfl, rfl⟩

/-- A step of a thread that does not touch the driver. -/
theorem LifecycleInv.other (h : LifecycleInv cfg calib connectLidar s) {env : LoadEnv F}
    {op : LiveOp F} (hop : op ≠ .process) (hok : LiveOk cfg env s.live op) {s' : SdkState F}
    (hsdk : SdkInv connectLidar s') (hlive : s'.live = liveStep cfg env s.live op)
    (hhistory : s'.history = s.history)
    (hrunning : s'.running .process = true → s.running .process = true) :
    LifecycleInv cfg calib connectLidar s' := by
  obtain ⟨hfifo, htake⟩ := h.fifo.other cfg env hop hok
  obtain ⟨-, hturn, hdriver⟩ := liveStep_other cfg env s.live hop
  refine ⟨hsdk, hlive ▸ hfifo, ?_, fun hup => ?_, ?_⟩
  · rw [hlive, htake, hhistory]
    exact h.packets
  · rw [SdkState.lifecycle, hhistory]
    exact h.running (hrunning hup)
  · rw [hlive, hturn, hdriver, hhistory]
    exact h.thread

/-- A step at the flags and threads only. -/
theorem LifecycleInv.same (h : LifecycleInv cfg calib connectLidar s) {s' : SdkState F}
    (hsdk : SdkInv connectLidar s') (hlive : s'.live = s.live) (hhistory : s'.history = s.history)
    (hrunning : s'.running .process = true → s.running .process = true) :
    LifecycleInv cfg calib connectLidar s' := by
  refine ⟨hsdk, hlive ▸ h.fifo, ?_, fun hup => ?_, ?_⟩
  · rw [hlive, hhistory]
    exact h.packets
  · rw [SdkState.lifecycle, hhistory]
    exact h.running (hrunning hup)
  · rw [hlive, hhistory]
    exact h.thread

/-- A step of the caller. -/
theorem LifecycleInv.owner (h : LifecycleInv cfg calib connectLidar s)
    (hsdk : SdkInv connectLidar (sdkOwner s)) :
    LifecycleInv cfg calib connectLidar (sdkOwner s) := by
  unfold sdkOwner at hsdk ⊢
  cases hcall : s.call with
  | nil => exact h
  | cons c call =>
    simp only [hcall] at hsdk ⊢
    cases c with
    | enable w on => exact h.same hsdk rfl rfl id
    | join w =>
      dsimp only at hsdk ⊢
      cases hrunning : s.running w with
      | true => exact h
      | false =>
        simp only [hrunning, Bool.false_eq_true, ↓reduceIte] at hsdk ⊢
        by_cases hw : w = .process
        · -- the end of a processing thread
          subst hw
          simp only [↓reduceIte] at hsdk ⊢
          refine ⟨hsdk, h.fifo, ?_, fun hup => ?_, ?_⟩
          · show turnPackets false (s.history ++ [.stop]) = _
            rw [turnPackets_append cfg _ _ (DriverState.init calib), turnPackets, turnPackets,
              List.append_nil]
            exact h.packets
          · rw [hrunning] at hup
            -- it is not running any more
            exact absurd hup Bool.false_ne_true
          · show Following _ _ _ _ (lifecycleSteps cfg false (s.history ++ [.stop])) _ _
            rw [lifecycleSteps_append cfg _ _ (DriverState.init calib), lifecycleSteps,
              lifecycleSteps, List.append_nil]
            exact h.thread
        · simp only [hw, ↓reduceIte] at hsdk ⊢
          exact h.same hsdk rfl rfl id
    | create w =>
      dsimp only at hsdk ⊢
      by_cases hw : w = .process
      · -- a new processing thread, at the head of its loop
        subst hw
        simp only [↓reduceIte] at hsdk ⊢
        have hordered := h.sdk.pool.ordered
        simp only [SdkState.pool, hcall] at hordered
        have hrest : stepsToHead s.live = 0 := h.sdk.pool.rests .process hordered.1
        -- no thread is created while another one is in its turn
        have hturn : s.live.turn = [] := by
          apply List.length_eq_zero_iff.mp
          unfold stepsToHead at hrest
          omega
        have hthread := h.thread
        rw [hturn] at hthread
        refine ⟨hsdk, h.fifo, ?_, fun _ => ?_, ?_⟩
        · show turnPackets false (s.history ++ [.start]) = _
          rw [turnPackets_append cfg _ _ (DriverState.init calib), turnPackets, turnPackets,
            List.append_nil]
          exact h.packets
        · show ((s.history ++ [LifecycleOp.start]).foldl (lifecycleStep cfg) _).running = true
          rw [List.foldl_append]
          rfl
        · show Following _ _ _ _ (lifecycleSteps cfg false (s.history ++ [.start])) s.live.turn
            s.live.newThread.driver
          rw [lifecycleSteps_append cfg _ _ (DriverState.init calib), lifecycleSteps,
            lifecycleSteps, hturn]
          refine hthread.together fun live hlive => ?_
          -- only its local variables are new, and they are so in the lifecycle
          exact ⟨hlive.lastAzimuth, hlive.dPktTimestamp, hlive.store, rfl, rfl, hlive.published⟩
      · simp only [hw, ↓reduceIte] at hsdk ⊢
        refine h.same hsdk rfl rfl fun hup => ?_
        dsimp only at hup
        rwa [Function.update_of_ne (Ne.symm hw)] at hup

/-- A step of the processing thread in its turn, or at the ring. -/
theorem LifecycleInv.process_turn (h : LifecycleInv cfg calib connectLidar s)
    (hrunning : s.running .process = true) {s' : SdkState F} (hsdk : SdkInv connectLidar s')
    (hlive : s'.live = replayProcess cfg s.live)
    (hhistory : s'.history = s.history ++
      if s.live.turn.isEmpty && decide (s.live.ring.pc = .move)
      then s.live.ring.taken.getLast?.toList.map .turn else []) :
    LifecycleInv cfg calib connectLidar s' := by
  have hup := h.running hrunning
  have hpackets := h.packets
  have hthread := h.thread
  unfold replayProcess at hlive
  cases hturn : s.live.turn with
  | cons e turn =>
    rw [hturn] at hthread
    simp only [hturn, List.isEmpty_cons, Bool.false_and, Bool.false_eq_true, ↓reduceIte,
      List.append_nil] at hlive hhistory
    refine ⟨hsdk, hlive ▸ h.fifo, ?_, fun _ => ?_, ?_⟩
    · rw [hlive, hhistory]
      exact hpackets
    · rw [SdkState.lifecycle, hhistory]
      exact hup
    · rw [hlive, hhistory]
      -- the next step of the turn, with the tables as they are now
      refine hthread.next ?_
      rintro live _ hrel rfl
      exact hrel.step live.calibration _ e
  | nil =>
    rw [hturn] at hthread
    have hmoved := RingState.consumerStep_moved s.live.ring
    simp only [hturn, List.isEmpty_nil, Bool.true_and, decide_eq_true_eq] at hlive hhistory
    by_cases hpc : s.live.ring.pc = .move
    · -- the turn of the packet that was read begins
      obtain ⟨packet, hlast, htake⟩ := h.fifo.next_packet hpc
      simp only [hpc, hlast, ↓reduceIte, Option.toList_some, List.flatMap_singleton,
        List.map_singleton] at hlive hhistory hmoved
      refine ⟨hsdk, hlive ▸ h.fifo.consumerStep, ?_, fun _ => ?_, ?_⟩
      · rw [hlive, hhistory, turnPackets_append cfg _ _ (DriverState.init calib), hpackets]
        rw [SdkState.lifecycle, Lifecycle.init] at hup
        dsimp only
        rw [RingState.consumerStep_issued, hmoved, htake, hup]
        rfl
      · rw [SdkState.lifecycle] at hup ⊢
        rw [hhistory, List.foldl_append, List.foldl_cons, List.foldl_nil, lifecycleStep_turn hup]
        exact hup
      · rw [hlive, hhistory, lifecycleSteps_append cfg _ _ (DriverState.init calib)]
        rw [SdkState.lifecycle, Lifecycle.init] at hup
        rw [hup, lifecycleSteps, lifecycleSteps, if_pos rfl, List.append_nil]
        refine hthread.extend ?_
        -- the whole turn is ahead of it
        rw [List.forall₂_map_left_iff]
        exact List.forall₂_same.mpr fun _ _ => rfl
    · simp only [hpc, ↓reduceIte, List.append_nil] at hlive hhistory hmoved
      refine ⟨hsdk, hlive ▸ h.fifo.consumerStep, ?_, fun _ => ?_, ?_⟩
      · rw [hlive, hhistory]
        dsimp only
        rw [RingState.consumerStep_issued, hmoved]
        exact hpackets
      · rw [SdkState.lifecycle, hhistory]
        exact hup
      · rw [hlive, hhistory]
        exact hthread

/-- A step of the processing thread. -/
theorem LifecycleInv.process (h : LifecycleInv cfg calib connectLidar s)
    (hsdk : SdkInv connectLidar (sdkProcess cfg s)) :
    LifecycleInv cfg calib connectLidar (sdkProcess cfg s) := by
  cases hrunning : s.running .process with
  | false =>
    have hsame : sdkProcess cfg s = s := by simp [sdkProcess, hrunning]
    rwa [hsame]
  | true =>
    cases hend : s.live.atHead && !s.enabled .process with
    | true =>
      have hfinish : sdkProcess cfg s = s.finish .process := by
        simp only [sdkProcess, hrunning, hend, ↓reduceIte]
      rw [hfinish] at hsdk ⊢
      exact h.same hsdk rfl rfl fun _ => hrunning
    | false =>
      apply h.process_turn hrunning hsdk
      · simp only [sdkProcess, hrunning, hend, ↓reduceIte, Bool.false_eq_true]
      · simp only [sdkProcess, hrunning, hend, ↓reduceIte, Bool.false_eq_true]

/-- A turn of another thread. -/
theorem LifecycleInv.turn (h : LifecycleInv cfg calib connectLidar s) {env : LoadEnv F}
    {w : Worker} (hw : w ≠ .process) {op : LiveOp F} (hop : op ≠ .process)
    (hok : s.running w = true → s.enabled w = true → LiveOk cfg env s.live op)
    (hsdk : SdkInv connectLidar (sdkTurn cfg env w s op)) :
    LifecycleInv cfg calib connectLidar (sdkTurn cfg env w s op) := by
  unfold sdkTurn at hsdk ⊢
  cases hrunning : s.running w with
  | false => simpa [hrunning] using h
  | true =>
    simp only [hrunning, ↓reduceIte] at hsdk ⊢
    cases henabled : s.enabled w with
    | false =>
      simp only [henabled, Bool.false_eq_true, ↓reduceIte] at hsdk ⊢
      refine h.same hsdk rfl rfl fun hup => ?_
      simpa [SdkState.finish, Ne.symm hw] using hup
    | true =>
      simp only [henabled, ↓reduceIte] at hsdk ⊢
      exact h.other hop (hok hrunning henabled) hsdk rfl rfl id

/-- Every step keeps to the lifecycle. -/
theorem LifecycleInv.step (h : LifecycleInv cfg calib connectLidar s) {env : LoadEnv F}
    {op : SdkOp F} (hok : SdkOk cfg env s op) :
    LifecycleInv cfg calib connectLidar (sdkStep cfg env connectLidar s op) := by
  have hsdk := h.sdk.step cfg env op
  cases op with
  | call start =>
    simp only [sdkStep] at hsdk ⊢
    split
    · rename_i hcall
      rw [if_pos hcall] at hsdk
      exact h.same hsdk rfl rfl id
    · exact h
  | owner => exact h.owner hsdk
  | process => exact h.process hsdk
  | receive time stale outcome => exact h.turn (by decide) (by simp) hok hsdk
  | parse time stale record =>
    cases record with
    | some record => exact h.turn (by decide) (by simp) hok hsdk
    | none =>
      simp only [sdkStep] at hsdk ⊢
      cases hrunning : s.running .parse with
      | false => simpa [hrunning] using h
      | true =>
        simp only [hrunning, ↓reduceIte] at hsdk ⊢
        exact h.same hsdk rfl rfl id
  | calibrate localFile result =>
    simp only [sdkStep] at hsdk ⊢
    cases hrunning : s.running .calibration with
    | false => simpa [hrunning] using h
    | true =>
      simp only [hrunning, ↓reduceIte] at hsdk ⊢
      exact h.other (by simp) (hok hrunning) hsdk rfl rfl id

/-- Whatever the threads do while `Start` and `Stop` are called, as long as it is defined, and
    whenever a calibration is loaded: the turns have taken the packets of the ring one after the
    other, the frames are the first ones of the lifecycle, but for the coordinates and the
    correction packets, and between two turns they are all of them, in the same state. -/
theorem lifecycle_refined (cfg : Config F) (env : LoadEnv F) (connectLidar : Bool)
    (calib : Calibration F) (tables : CalibrationTables F) (ops : List (SdkOp F))
    (hops : EachStep (sdkStep cfg env connectLidar) (SdkOk cfg env) (SdkState.init tables) ops) :
    let s := ops.foldl (sdkStep cfg env connectLidar) (SdkState.init tables)
    turnPackets false s.history = s.live.ring.issued.take s.live.ring.moved ∧
      (s.running .process = true → (s.lifecycle cfg calib).running = true) ∧
      s.live.driver.published.map Frame.withoutXyz <+:
        (s.lifecycle cfg calib).driver.published.map Frame.withoutXyz ∧
      (s.live.atHead = true → SameButXyz (s.lifecycle cfg calib).driver s.live.driver) := by
  intro s
  have hinv : LifecycleInv cfg calib connectLidar s :=
    hops.inv (lifecycleInv_init tables) fun _ _ h hok => h.step hok
  have hspec : (lifecycleSteps cfg false s.history).foldl (threadStep cfg)
      (DriverState.init calib) = (s.lifecycle cfg calib).driver :=
    foldl_lifecycleSteps cfg s.history false (DriverState.init calib)
  refine ⟨hinv.packets, hinv.running, ?_, fun hhead => ?_⟩
  · -- what is published grows, and reloading the tables only changes coordinates
    have hprefix := hinv.thread.prefix_of (fun d => d.published.map Frame.withoutXyz)
      (fun d => d.published.map Frame.withoutXyz) (fun d a => ?_) (fun _ hrel => hrel.published)
      List.prefix_rfl
    · rwa [hspec] at hprefix
    · cases a with
      | none => exact List.prefix_rfl
      | some e => exact (frames_prefix_instanceStep cfg d e).map _
  · obtain ⟨done, rest, hscript, hrest, hrel⟩ := hinv.thread
    -- at the head nothing is left of the turn
    have hturn : s.live.turn = [] := by
      apply List.length_eq_zero_iff.mp
      have hzero := (atHead_iff s.live).mp hhead
      unfold stepsToHead at hzero
      omega
    rw [hturn, List.forall₂_nil_right_iff] at hrest
    rw [hrest, List.append_nil] at hscript
    rwa [hscript, hspec] at hrel

/-! ## An object that is started twice -/

/-- What a thread does in its step. -/
def SdkOp.live : SdkOp F → Option (LiveOp F)
  | process => some .process
  | receive time stale outcome => some (.receive time stale outcome)
  | parse time stale record => record.map (.capture time stale)
  | calibrate localFile result => some (.calibrate localFile result)
  | call _ | owner => none

/-- The instance takes this step, or gets a new processing thread, or stays as it is. -/
theorem sdkStep_live (cfg : Config F) (env : LoadEnv F) (connectLidar : Bool) (s : SdkState F)
    (op : SdkOp F) : (sdkStep cfg env connectLidar s op).live = s.live ∨
      (sdkStep cfg env connectLidar s op).live = s.live.newThread ∨
      ∃ liveOp, op.live = some liveOp ∧
        (sdkStep cfg env connectLidar s op).live = liveStep cfg env s.live liveOp := by
  have hturn : ∀ w liveOp, (sdkTurn cfg env w s liveOp).live = s.live ∨
      (sdkTurn cfg env w s liveOp).live = liveStep cfg env s.live liveOp := by
    intro w liveOp
    unfold sdkTurn
    split
    · split
      · exact Or.inr rfl
      · exact Or.inl rfl
    · exact Or.inl rfl
  cases op with
  | call start =>
    simp only [sdkStep]
    split <;> exact Or.inl rfl
  | owner =>
    simp only [sdkStep, sdkOwner]
    split
    · exact Or.inl rfl
    · exact Or.inl rfl
    · split <;> exact Or.inl rfl
    · dsimp only
      split
      · exact Or.inr (Or.inl rfl)
      · exact Or.inl rfl
  | process =>
    simp only [sdkStep, sdkProcess]
    split
    · split
      · exact Or.inl rfl
      · exact Or.inr (Or.inr ⟨.process, rfl, rfl⟩)
    · exact Or.inl rfl
  | receive time stale outcome =>
    exact (hturn .receive (.receive time stale outcome)).imp_right
      fun h => Or.inr ⟨_, rfl, h⟩
  | parse time stale record =>
    cases record with
    | some record =>
      exact (hturn .parse (.capture time stale record)).imp_right fun h => Or.inr ⟨_, rfl, h⟩
    | none =>
      simp only [sdkStep]
      split <;> exact Or.inl rfl
  | calibrate localFile result =>
    simp only [sdkStep]
    split
    · exact Or.inr (Or.inr ⟨.calibrate localFile result, rfl, rfl⟩)
    · exact Or.inl rfl

/-- So few steps fill neither the ring nor `PointCloud`. -/
theorem eachStep_sdkOk {ops : List (SdkOp F)} (husable : Usable cfg s.live)
    (hops : ∀ op ∈ ops, ∀ liveOp, op.live = some liveOp → liveOp.Usable cfg env)
    (hring : s.live.ring.accepted.length + ops.length ≤ pktArraySize)
    (hcells : s.live.driver.store.iPointCloudIndex + 64 * ops.length ≤ maxPointCloudNum) :
    EachStep (sdkStep cfg env connectLidar) (SdkOk cfg env) s ops := by
  induction ops generalizing s with
  | nil => trivial
  | cons op ops ih =>
    rw [List.length_cons] at hring hcells
    have hlive : ∀ liveOp, op.live = some liveOp → LiveOk cfg env s.live liveOp ∧
        Usable cfg (liveStep cfg env s.live liveOp) ∧
        (liveStep cfg env s.live liveOp).driver.store.iPointCloudIndex ≤
          s.live.driver.store.iPointCloudIndex + 64 := fun liveOp hlive =>
      husable.liveOk (hops op List.mem_cons_self liveOp hlive) (by omega) (by omega)
    have hok : SdkOk cfg env s op := by
      cases op with
      | call | owner => trivial
      | process => exact fun _ => (hlive _ rfl).1
      | receive time stale outcome => exact fun _ _ => (hlive _ rfl).1
      | parse time stale record =>
        cases record with
        | none => trivial
        | some record => exact fun _ _ => (hlive _ rfl).1
      | calibrate localFile result => exact fun _ => (hlive _ rfl).1
    have hnext : Usable cfg (sdkStep cfg env connectLidar s op).live ∧
        (sdkStep cfg env connectLidar s op).live.ring.accepted.length ≤
          s.live.ring.accepted.length + 1 ∧
        (sdkStep cfg env connectLidar s op).live.driver.store.iPointCloudIndex ≤
          s.live.driver.store.iPointCloudIndex + 64 := by
      rcases sdkStep_live cfg env connectLidar s op with hsame | hnew | ⟨liveOp, hop, hstep⟩
      · rw [hsame]
        exact ⟨husable, Nat.le_add_right _ _, Nat.le_add_right _ _⟩
      · rw [hnew]
        exact ⟨⟨husable.fifo, husable.issued, husable.turn, husable.tables⟩,
          Nat.le_add_right _ _, Nat.le_add_right _ _⟩
      · rw [hstep]
        obtain ⟨-, husable', hindex⟩ := hlive liveOp hop
        exact ⟨husable', length_accepted_liveStep cfg env s.live liveOp, hindex⟩
    obtain ⟨husable', haccepted, hindex⟩ := hnext
    exact ⟨hok, ih husable' (fun op hop => hops op (List.mem_cons_of_mem _ hop)) (by omega)
      (by omega)⟩

/-- A datagram on the socket of the lidar. -/
def sdkReceive (packet : PandarPacket Rat) : SdkOp Rat :=
  .receive packet.stamp (fun _ => 0)
    ⟨1, ⟨true, false, false, false, .datagram (bytes packet.data packet.size)⟩, none⟩

/-- Three packets, and then `Stop` while the first turn is not over, and everything again. -/
def startedTwice : List (SdkOp Rat) :=
  let started := .call true :: (List.replicate 16 .owner ++ threePackets.map sdkReceive) ++
    [.calibrate none ⟨2, none⟩]
  started ++ List.replicate 8 .process ++ .call false :: List.replicate 4 .owner ++
    List.replicate 30 .process ++ threePackets.map sdkReceive ++ List.replicate 4 .owner ++
    started ++ List.replicate 30 .process

theorem sdkOk_startedTwice :
    EachStep (sdkStep launchConfig LoadEnv.launch true) (SdkOk launchConfig LoadEnv.launch)
      (SdkState.init launchTables) startedTwice := by
  refine eachStep_sdkOk (usable_init launchConfig LoadEnv.launch ⟨Calibration.zero, 0⟩ []) ?_
    (by decide +kernel) (by decide +kernel)
  intro op hop liveOp hlive
  have hkind : op = .owner ∨ op = .process ∨ (∃ start, op = .call start) ∨
      op = .calibrate none ⟨2, none⟩ ∨ ∃ packet ∈ threePackets, op = sdkReceive packet := by
    simp only [startedTwice, List.mem_append, List.mem_cons, List.mem_map,
      List.mem_replicate] at hop
    grind
  obtain rfl | rfl | ⟨start, rfl⟩ | rfl | ⟨packet, hpacket, rfl⟩ := hkind
  · exact absurd hlive.symm (Option.some_ne_none _)
  · obtain rfl := Option.some.inj hlive
    exact LiveOp.usable_process
  · exact absurd hlive.symm (Option.some_ne_none _)
  · obtain rfl := Option.some.inj hlive
    -- the lidar cannot be reached, and there is no local file
    refine ⟨fun _ => by simp [LiveOp.input], fun _ _ h => absurd h List.not_mem_nil,
      fun s htables => ?_⟩
    have hsame : getCalibrationFromDevice LoadEnv.launch none ⟨2, none⟩ s.correction =
        s.correction := by simp [getCalibrationFromDevice]
    show TablesUsable launchConfig (getCalibrationFromDevice LoadEnv.launch none ⟨2, none⟩
      s.correction).tables
    rwa [hsame]
  · obtain rfl := Option.some.inj hlive
    exact usable_receivePacket hpacket

/-- The object is stopped in the first turn. -/
theorem lifecycle_refined_startedTwice :
    let s := startedTwice.foldl (sdkStep launchConfig LoadEnv.launch true)
      (SdkState.init launchTables)
    turnPackets false s.history = s.live.ring.issued.take s.live.ring.moved ∧
      (s.running .process = true → (s.lifecycle launchConfig Calibration.zero).running = true) ∧
      s.live.driver.published.map Frame.withoutXyz <+:
        (s.lifecycle launchConfig Calibration.zero).driver.published.map Frame.withoutXyz ∧
      (s.live.atHead = true →
        SameButXyz (s.lifecycle launchConfig Calibration.zero).driver s.live.driver) :=
  lifecycle_refined launchConfig LoadEnv.launch true Calibration.zero launchTables startedTwice
    sdkOk_startedTwice

end Hesai
