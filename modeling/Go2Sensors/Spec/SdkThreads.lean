import Go2Sensors.Native.Sdk
import Go2Sensors.Spec.Live

/-!
# The threads of an SDK object

The calls of `Start` and `Stop` create and join the threads in good order, whatever the
threads do in the meantime, and each call returns. A processing thread that is stopped
finishes its turn, so that the frames are those of the calls and turns one after the other
(`Lifecycle`): the steps of the threads refine that model, but for the calibration, which
may be loaded at any time.

## Key results

- `start_stop_safe`: which threads there are
- `start_stop_return`: every call returns
- `lifecycle_refined`: the frames are those of the lifecycle
-/

namespace Hesai

open Run Traced Workers

variable {F : Type} [CFloat F]

/-! ## The object as a pool of threads -/

/-- No turn has as many steps. -/
def turnBound : Nat := 1000

/-- A bound for the number of steps after which the processing thread is at the head of its
    loop. -/
def stepsToHead (s : ReplayState F) : Nat :=
  s.turn.length + match s.ring.pc with
    | .poll => 0
    | .read => turnBound + 1
    | .move => turnBound

/-- The object as a pool. -/
def SdkState.pool (s : SdkState F) : Pool Worker where
  running := s.running
  enabled := s.enabled
  left w := if w = .process then stepsToHead s.live else 0
  todo := s.call

/-- Who takes the step, `none` for the caller. -/
def SdkOp.actor : SdkOp F → Option Worker
  | call _ | owner => none
  | process => some .process
  | receive _ _ _ => some .receive
  | parse _ _ _ => some .parse
  | calibrate _ _ => some .calibration

/-- The step does not begin a call. -/
def SdkOp.isCall : SdkOp F → Bool
  | call _ => true
  | owner | process | receive _ _ _ | parse _ _ _ | calibrate _ _ => false

omit [CFloat F] in
theorem atHead_iff (s : ReplayState F) : s.atHead = true ↔ stepsToHead s = 0 := by
  unfold ReplayState.atHead stepsToHead
  cases s.ring.pc <;> simp [turnBound]

omit [CFloat F] in
/-- A packet has at most as many blocks as a byte can count. -/
theorem length_blocks_parseData_le {fmt : Format} {charSigned : Bool} {recvbuf : Nat → UInt8}
    {len : Nat} {pkt : LidarPacket} (h : (parseData fmt charSigned recvbuf len).val = some pkt) :
    pkt.blocks.length ≤ 255 := by
  unfold parseData at h
  split at h
  · exact absurd h (Option.some_ne_none _).symm
  · rw [val_bind] at h
    split at h
    · exact absurd h (Option.some_ne_none _).symm
    · rw [← Option.some.inj h]
      dsimp only [val_bind]
      rw [length_parseBlocks, val_parseHeader_blockNumber]
      -- the number of blocks is a byte, and a negative one counts as none
      have hbyte := (recvbuf (fmt.laserNumberIndex + 1)).toNat_lt
      have hchar := toChar_toNat_le charSigned (headerBlocks fmt recvbuf)
      unfold headerBlocks at hchar ⊢
      omega

omit [CFloat F] in
theorem length_blocks_le {cfg : Config F} {packet : PandarPacket F} {pkt : ParsedPacket}
    (h : parsePacket cfg packet = some pkt) : pkt.blocks.length ≤ 255 := by
  have hparser := parsedBy_of_parsePacket h
  cases pkt with
  | pandar40P pkt =>
    simp only [ParsedBy, parseRawData] at hparser
    split at hparser
    · exact absurd hparser (Option.some_ne_none _).symm
    · rw [← Option.some.inj hparser]
      show (parseBlocks _ _ _ _ _ _ _ _).val.1.length ≤ 255
      rw [length_parseBlocks]
      decide
  | l64 pkt => exact length_blocks_parseData_le hparser
  | l20 pkt => exact length_blocks_parseData_le hparser
  | qt pkt => exact length_blocks_parseData_le hparser
  | xt pkt => exact length_blocks_parseData_le hparser

omit [CFloat F] in
/-- The bound is one. -/
theorem length_turnSteps_lt (cfg : Config F) (packet : PandarPacket F) :
    (turnSteps cfg packet).length < turnBound := by
  have hloop : ∀ (pkt : ParsedPacket) (blocks : List LidarBlock) (blockid : Nat),
      (loopSteps F pkt blocks blockid).length = 2 * blocks.length := by
    intro pkt blocks blockid
    induction blocks generalizing blockid with
    | nil => rfl
    | cons block blocks ih =>
      simp only [loopSteps, List.length_cons, ih]
      omega
  unfold turnSteps turnBound
  cases hparse : parsePacket cfg packet with
  | none => exact (by decide : 1 < 1000)
  | some pkt =>
    have hblocks := length_blocks_le hparse
    simp only [List.length_cons, List.length_append, List.length_nil, hloop]
    omega

/-- A step of the processing thread brings it closer to the head of its loop, unless it is
    there. -/
theorem stepsToHead_replayProcess (cfg : Config F) (s : ReplayState F) :
    stepsToHead (replayProcess cfg s) < stepsToHead s ∨
      stepsToHead s = 0 ∧ stepsToHead (replayProcess cfg s) ≤ turnBound + 1 := by
  unfold replayProcess
  cases hturn : s.turn with
  | cons e turn =>
    left
    simp only [stepsToHead, hturn, List.length_cons]
    omega
  | nil =>
    cases hpc : s.ring.pc with
    | poll =>
      -- at the head, with or without a packet
      right
      cases henough : s.ring.ring.hasEnoughPackets with
      | false => simp [stepsToHead, hturn, hpc, henough, RingState.consumerStep]
      | true => simp [stepsToHead, hturn, hpc, henough, RingState.consumerStep]
    | read =>
      left
      simp [stepsToHead, hturn, hpc, RingState.consumerStep]
    | move =>
      left
      -- the steps of the packet that was read
      simp only [stepsToHead, hturn, hpc, RingState.consumerStep, ↓reduceIte, List.length_nil]
      cases s.ring.taken.getLast? with
      | none => exact (by decide : 0 < turnBound)
      | some packet =>
        have hlt := length_turnSteps_lt cfg packet
        simpa using hlt

/-- No other thread moves the processing thread. -/
theorem stepsToHead_liveStep (cfg : Config F) (env : LoadEnv F) (s : ReplayState F)
    {op : LiveOp F} (hop : op ≠ .process) :
    stepsToHead (liveStep cfg env s op) = stepsToHead s := by
  obtain ⟨hring, hturn, -⟩ := liveStep_other cfg env s hop
  have hpc : (liveStep cfg env s op).ring.pc = s.ring.pc := by
    rw [hring]
    cases op.input s <;> rfl
  unfold stepsToHead
  rw [hturn, hpc]

/-- What holds of the pool: no thread is created while it runs, or joined while it is switched
    on, and a thread that does not run is not in the middle of a turn. -/
structure PoolOk (p : Pool Worker) : Prop where
  ordered : Disciplined isLone p.todo p.enabled p.running
  rests : ∀ w, p.running w = false → p.left w = 0
  short : ∀ w, p.left w ≤ turnBound + 1

/-- A step of the pool that corresponds to a step of the object: everybody else has it in one
    turn, the processing thread in as many as are left. -/
structure IsEventOf (op : SdkOp F) (e : Event Worker) : Prop where
  owner : op.actor = none → e = .owner
  work : ∀ w, op.actor = some w → ∃ next, e = .work w next ∧
    (next = none → w = .parse ∨ w = .calibration)
  bounded : e.Bounded (turnBound + 1)

omit [CFloat F] in
/-- Only the threads that read a file or ask for the calibration end on their own. -/
theorem IsEventOf.ne_end {op : SdkOp F} {e : Event Worker} (h : IsEventOf op e) {w : Worker}
    (hw : w = .process ∨ w = .receive) : e ≠ .work w none := by
  rintro rfl
  cases hactor : op.actor with
  | none =>
    have howner := h.owner hactor
    simp at howner
  | some w' =>
    obtain ⟨next, hnext, hend⟩ := h.work w' hactor
    obtain ⟨rfl, rfl⟩ := Event.work.inj hnext
    rcases hw with rfl | rfl <;> simp at hend

variable {cfg : Config F} {env : LoadEnv F} {connectLidar : Bool} {s : SdkState F}

omit [CFloat F] in
/-- The caller. -/
theorem sdkOwner_pool (h : PoolOk s.pool) : (sdkOwner s).pool = s.pool.owner := by
  unfold sdkOwner Pool.owner
  simp only [SdkState.pool]
  cases hcall : s.call with
  | nil => simp [hcall]
  | cons c call =>
    cases c with
    | enable w on => rfl
    | join w =>
      cases hrunning : s.running w with
      | true => simp [hrunning, hcall]
      | false => simp [hrunning]
    | create w =>
      -- a thread that is created is at the head of its loop
      have hordered := h.ordered
      simp only [SdkState.pool, hcall] at hordered
      have hleft := h.rests w hordered.1
      simp only [SdkState.pool] at hleft
      simp only [Pool.mk.injEq, true_and, and_true]
      funext w'
      by_cases hw : w' = w
      · subst hw
        rw [Function.update_self, ← hleft]
        by_cases hprocess : w' = .process
        · subst hprocess
          rfl
        · simp [hprocess]
      · rw [Function.update_of_ne hw]
        by_cases hprocess : w = .process
        · subst hprocess
          simp [hw]
        · simp [hprocess]

/-- A turn of a thread that looks at its flag first. -/
theorem sdkTurn_pool (cfg : Config F) (env : LoadEnv F) {w : Worker} (hw : w ≠ .process)
    (hlone : isLone w = false) {op : LiveOp F} (hop : op ≠ .process) :
    (sdkTurn cfg env w s op).pool = s.pool.work isLone w (some 0) := by
  unfold sdkTurn Pool.work
  simp only [SdkState.pool, hw, hlone, ↓reduceIte, Bool.not_false, Bool.and_true]
  split
  · split
    · -- a whole turn is one step, so nothing is left of it
      simp only [Pool.mk.injEq, true_and, stepsToHead_liveStep cfg env s.live hop]
      rw [and_true]
      funext w'
      by_cases hw' : w' = w
      · subst hw'
        simp [hw]
      · rw [Function.update_of_ne hw']
    · rfl
  · rfl

/-- A step of the processing thread. -/
theorem sdkProcess_pool (cfg : Config F) : (sdkProcess cfg s).pool =
    s.pool.work isLone .process (some (stepsToHead (replayProcess cfg s.live))) := by
  have hleft : ∀ n, (fun w => if w = Worker.process then n else 0) =
      Function.update (fun w => if w = .process then stepsToHead s.live else 0) .process n := by
    intro n
    funext w
    by_cases hw : w = .process
    · subst hw
      simp
    · simp [hw]
  unfold sdkProcess Pool.work
  cases hrunning : s.running .process with
  | false => simp [SdkState.pool, hrunning]
  | true =>
    simp only [SdkState.pool, hrunning, ↓reduceIte]
    by_cases hhead : stepsToHead s.live = 0
    · -- at the head of its loop it looks at the flag
      simp only [(atHead_iff s.live).mpr hhead, hhead, ↓reduceIte, Bool.true_and]
      cases hon : s.enabled .process with
      | false => simp [SdkState.finish, Pool.finish, hhead]
      | true =>
        simp only [Bool.not_true, Bool.false_eq_true, ↓reduceIte, isLone, Bool.not_false,
          Bool.and_self, Pool.mk.injEq, and_true, true_and]
        rw [hleft (stepsToHead (replayProcess cfg s.live)), hhead]
    · -- elsewhere it goes on, whatever the flag says
      have hnot : s.live.atHead = false := by
        rw [← Bool.not_eq_true, atHead_iff]
        exact hhead
      have hless := (stepsToHead_replayProcess cfg s.live).resolve_right fun h => hhead h.1
      simp only [hnot, hhead, Bool.false_and, Bool.false_eq_true, ↓reduceIte, Option.getD_some,
        Pool.mk.injEq, and_true, true_and]
      rw [hleft (stepsToHead (replayProcess cfg s.live)), Nat.min_eq_right (by omega)]

/-- Every step but the beginning of a call is one of the pool. -/
theorem sdkStep_pool (cfg : Config F) (env : LoadEnv F) (connectLidar : Bool)
    (h : PoolOk s.pool) {op : SdkOp F} (hop : op.isCall = false) :
    ∃ e, IsEventOf op e ∧ (sdkStep cfg env connectLidar s op).pool = s.pool.step isLone e := by
  cases op with
  | call start => exact absurd hop Bool.true_eq_false.mp
  | owner =>
    exact ⟨.owner, ⟨fun _ => rfl, by simp [SdkOp.actor], trivial⟩, sdkOwner_pool h⟩
  | process =>
    refine ⟨.work .process (some (stepsToHead (replayProcess cfg s.live))),
      ⟨by simp [SdkOp.actor], ?_, ?_⟩, sdkProcess_pool cfg⟩
    · simp [SdkOp.actor]
    · have hshort : stepsToHead s.live ≤ turnBound + 1 := h.short .process
      show stepsToHead (replayProcess cfg s.live) ≤ turnBound + 1
      rcases stepsToHead_replayProcess cfg s.live with hless | ⟨-, hle⟩
      · omega
      · exact hle
  | receive time stale outcome =>
    refine ⟨.work .receive (some 0), ⟨by simp [SdkOp.actor], ?_, Nat.zero_le _⟩, ?_⟩
    · simp [SdkOp.actor]
    · exact sdkTurn_pool cfg env (by decide) rfl (by simp)
  | parse time stale record =>
    cases record with
    | some record =>
      refine ⟨.work .parse (some 0), ⟨by simp [SdkOp.actor], ?_, Nat.zero_le _⟩, ?_⟩
      · simp [SdkOp.actor]
      · exact sdkTurn_pool cfg env (by decide) rfl (by simp)
    | none =>
      refine ⟨.work .parse none, ⟨by simp [SdkOp.actor], ?_, Nat.zero_le _⟩, ?_⟩
      · simp [SdkOp.actor]
      · simp only [sdkStep, Pool.step, Pool.work, SdkState.pool, reduceCtorEq, ↓reduceIte]
        split <;> rfl
  | calibrate localFile result =>
    refine ⟨.work .calibration none, ⟨by simp [SdkOp.actor], ?_, Nat.zero_le _⟩, ?_⟩
    · simp [SdkOp.actor]
    · have hsame := stepsToHead_liveStep cfg env s.live
        (show LiveOp.calibrate localFile result ≠ .process by simp)
      simp only [sdkStep, Pool.step, Pool.work, SdkState.pool, reduceCtorEq, ↓reduceIte]
      split
      · simp [SdkState.finish, Pool.finish, hsame]
      · rfl

/-- The thread that an object without sockets does not need, and the one that an object with
    sockets does not. -/
def unusedWorker (connectLidar : Bool) : Worker := if connectLidar then .parse else .receive

/-- Where the threads of an object stand. -/
structure SdkInv (connectLidar : Bool) (s : SdkState F) : Prop where
  pool : PoolOk s.pool
  unused : runningAfter s.call s.running (unusedWorker connectLidar) = false
  length : s.call.length ≤ 23

omit [CFloat F] in
/-- A call begins with commands in good order, whatever the threads are doing. -/
theorem disciplined_call (connectLidar start : Bool) (enabled running : Worker → Bool) :
    Disciplined isLone (if start then sdkStart connectLidar else sdkStop connectLidar) enabled
      running := by
  cases connectLidar <;> cases start <;>
    simp [sdkStart, sdkStop, internalStart, internalStop, pcapReaderStart, pcapReaderStop,
      Disciplined, isLone]

omit [CFloat F] in
/-- No call creates the thread that is not used. -/
theorem runningAfter_call (connectLidar start : Bool) {running : Worker → Bool}
    (h : running (unusedWorker connectLidar) = false) :
    runningAfter (if start then sdkStart connectLidar else sdkStop connectLidar) running
      (unusedWorker connectLidar) = false := by
  revert h
  cases connectLidar <;> cases start <;>
    simp [sdkStart, sdkStop, internalStart, internalStop, pcapReaderStart, pcapReaderStop,
      runningAfter, unusedWorker]

omit [CFloat F] in
/-- `Stop` waits for every thread. -/
theorem runningAfter_stop {running : Worker → Bool}
    (h : running (unusedWorker connectLidar) = false) (w : Worker) :
    runningAfter (sdkStop connectLidar) running w = false := by
  revert h
  cases connectLidar <;> cases w <;>
    simp [sdkStop, internalStop, pcapReaderStop, runningAfter, unusedWorker]

omit [CFloat F] in
/-- `Start` leaves the processing thread running, and the one that receives. -/
theorem staysAfter_start {w : Worker}
    (h : w = .process ∨ (connectLidar = true ∧ w = .receive)) (on up : Bool) :
    staysAfter w (sdkStart connectLidar) on up = true := by
  rcases h with rfl | ⟨rfl, rfl⟩
  · cases connectLidar <;> rfl
  · rfl

omit [CFloat F] in
/-- No call has more commands than `Start` with a capture file. -/
theorem length_call_le (connectLidar start : Bool) :
    (if start then sdkStart connectLidar else sdkStop connectLidar).length ≤ 23 := by
  cases connectLidar <;> cases start <;> decide

theorem sdkInv_init (connectLidar : Bool) (tables : CalibrationTables F) :
    SdkInv connectLidar (SdkState.init tables) := by
  refine ⟨⟨trivial, fun w _ => ?_, fun w => ?_⟩, rfl, Nat.zero_le _⟩
  · simp [SdkState.pool, SdkState.init, stepsToHead, ReplayState.init, RingState.init]
  · simp [SdkState.pool, SdkState.init, stepsToHead, ReplayState.init, RingState.init]

/-- Every step of the pool keeps it in order. -/
theorem PoolOk.step {p : Pool Worker} (h : PoolOk p) {e : Event Worker}
    (he : e.Bounded (turnBound + 1)) : PoolOk (p.step isLone e) where
  ordered := h.ordered.step e
  rests := left_eq_zero_step h.rests e
  short := left_le_step h.short he

theorem SdkInv.step (h : SdkInv connectLidar s) (cfg : Config F) (env : LoadEnv F) (op : SdkOp F) :
    SdkInv connectLidar (sdkStep cfg env connectLidar s op) := by
  by_cases hop : op.isCall = true
  · cases op with
    | call start =>
      simp only [sdkStep]
      split
      · rename_i hcall
        have hunused := h.unused
        rw [hcall] at hunused
        exact ⟨⟨disciplined_call connectLidar start _ _, h.pool.rests, h.pool.short⟩,
          runningAfter_call connectLidar start hunused, length_call_le connectLidar start⟩
      · exact h
    | _ => exact absurd hop Bool.false_ne_true
  · -- any other step is one of the pool
    obtain ⟨e, he, hpool⟩ := sdkStep_pool cfg env connectLidar h.pool (Bool.not_eq_true _ ▸ hop)
    have hlength := length_todo_step_le isLone s.pool e
    rw [← hpool] at hlength
    refine ⟨hpool ▸ h.pool.step he.bounded, ?_, Nat.le_trans hlength h.length⟩
    have hfewer := runningAfter_step isLone s.pool e
    rw [← hpool] at hfewer
    -- the unused thread would have had to be among the ones that may run before
    by_contra hup
    have hdown := hfewer _ (Bool.eq_true_of_not_eq_false hup)
    exact Bool.false_ne_true (h.unused.symm.trans hdown)

/-! ## Which threads there are -/

/-- Steps that begin no call are steps of the pool. -/
theorem foldl_sdkStep_pool (cfg : Config F) (env : LoadEnv F) (h : SdkInv connectLidar s)
    {ops : List (SdkOp F)}
    (hops : ∀ op ∈ ops, op.isCall = false) :
    ∃ events, List.Forall₂ IsEventOf ops events ∧
      (ops.foldl (sdkStep cfg env connectLidar) s).pool =
        events.foldl (Pool.step isLone) s.pool := by
  induction ops generalizing s with
  | nil => exact ⟨[], List.Forall₂.nil, rfl⟩
  | cons op ops ih =>
    obtain ⟨e, he, hpool⟩ := sdkStep_pool cfg env connectLidar h.pool
      (hops op List.mem_cons_self)
    obtain ⟨events, hevents, hrun⟩ := ih (h.step cfg env op) fun op' hop' =>
      hops op' (List.mem_cons_of_mem op hop')
    exact ⟨e :: events, List.Forall₂.cons he hevents, by rw [List.foldl_cons, hrun, hpool]; rfl⟩

/-- When a call has returned no more threads are running than its commands say. -/
theorem runningAfter_foldl (h : SdkInv connectLidar s) {ops : List (SdkOp F)}
    (hops : ∀ op ∈ ops, op.isCall = false)
    (hreturned : (ops.foldl (sdkStep cfg env connectLidar) s).call = []) :
    Fewer (ops.foldl (sdkStep cfg env connectLidar) s).running
      (runningAfter s.call s.running) := by
  obtain ⟨events, -, hpool⟩ := foldl_sdkStep_pool cfg env h hops
  let Kept : Pool Worker → Prop := fun p =>
    Fewer (runningAfter p.todo p.running) (runningAfter s.call s.running)
  -- by induction: no step adds to the threads that will be running
  have hfewer : Kept (events.foldl (Pool.step isLone) s.pool) :=
    inv events (show Kept s.pool from fun _ hw => hw)
      fun p e hp w hw => hp w (runningAfter_step isLone p e w hw)
  rw [← hpool] at hfewer
  unfold Kept at hfewer
  have htodo : (ops.foldl (sdkStep cfg env connectLidar) s).pool.todo = [] := hreturned
  rwa [htodo] at hfewer

/-- A thread that the commands leave running is there when the call has returned. -/
theorem stays_foldl (h : SdkInv connectLidar s) {ops : List (SdkOp F)}
    (hops : ∀ op ∈ ops, op.isCall = false)
    (hreturned : (ops.foldl (sdkStep cfg env connectLidar) s).call = []) {w : Worker}
    (hw : w = .process ∨ w = .receive) (hstays : s.pool.Stays w) :
    (ops.foldl (sdkStep cfg env connectLidar) s).running w = true ∧
      (ops.foldl (sdkStep cfg env connectLidar) s).enabled w = true := by
  obtain ⟨events, hevents, hpool⟩ := foldl_sdkStep_pool cfg env h hops
  have hsteps : EachStep (Pool.step isLone) (fun _ e => e ≠ .work w none) s.pool events :=
    eachStep_of_inv (P := fun _ => True) trivial (fun _ _ _ _ => trivial) fun _ e he _ => by
      obtain ⟨op, -, hop⟩ := hevents.exists_of_mem he
      exact hop.ne_end hw
  have hlone : isLone w = false := by
    rcases hw with rfl | rfl <;> rfl
  have hafter := hsteps.inv (P := fun p => p.Stays w) hstays fun _ _ h he => h.step hlone he
  rw [← hpool] at hafter
  have htodo : (ops.foldl (sdkStep cfg env connectLidar) s).pool.todo = [] := hreturned
  rw [Pool.Stays, htodo, staysAfter] at hafter
  simp only [SdkState.pool, Bool.and_eq_true] at hafter
  exact hafter.2

/-- A thread is created only when there is no other one of its kind. Once `Stop` has returned
    no thread is left; once `Start` has returned the processing thread and the receiving one
    are there and stay switched on, and the thread that the object does not need is not. -/
theorem start_stop_safe (cfg : Config F) (env : LoadEnv F) (connectLidar : Bool)
    (tables : CalibrationTables F) (ops : List (SdkOp F)) :
    let s := ops.foldl (sdkStep cfg env connectLidar) (SdkState.init tables)
    (∀ w call, s.call = .create w :: call → s.running w = false) ∧
      ∀ (start : Bool) (rest : List (SdkOp F)), s.call = [] →
        (∀ op ∈ rest, op.isCall = false) →
        let t := (.call start :: rest).foldl (sdkStep cfg env connectLidar) s
        t.call = [] →
          if start then
            t.running .process = true ∧ t.enabled .process = true ∧
              (connectLidar = true → t.running .receive = true ∧ t.enabled .receive = true) ∧
              t.running (unusedWorker connectLidar) = false
          else ∀ w, t.running w = false := by
  intro s
  have hinv : SdkInv connectLidar s :=
    inv ops (sdkInv_init connectLidar tables) fun _ op h => h.step cfg env op
  constructor
  · intro w call hcall
    have hordered := hinv.pool.ordered
    simp only [SdkState.pool, hcall] at hordered
    exact hordered.1
  · intro start rest hidle hrest t hreturned
    have hcalled := hinv.step cfg env (.call start)
    have hunused := hinv.unused
    rw [hidle] at hunused
    -- the call finds no other one in progress
    have hbegun : sdkStep cfg env connectLidar s (.call start) =
        { s with
          call := if start then sdkStart connectLidar else sdkStop connectLidar } := by
      simp only [sdkStep, hidle, ↓reduceIte]
    have hfewer : Fewer t.running (runningAfter
        (if start then sdkStart connectLidar else sdkStop connectLidar) s.running) := by
      have hafter := runningAfter_foldl hcalled hrest hreturned
      rwa [congrArg SdkState.call hbegun, congrArg SdkState.running hbegun] at hafter
    have hunused : s.running (unusedWorker connectLidar) = false := hunused
    cases start with
    | false =>
      simp only [Bool.false_eq_true, ↓reduceIte] at hfewer ⊢
      intro w
      -- a thread that is left would be one that `Stop` has not joined
      by_contra hw
      have hup := hfewer w (Bool.eq_true_of_not_eq_false hw)
      rw [runningAfter_stop hunused w] at hup
      exact Bool.false_ne_true hup
    | true =>
      have hstays : ∀ w, w = .process ∨ (connectLidar = true ∧ w = .receive) →
          t.running w = true ∧ t.enabled w = true := by
        intro w hw
        apply stays_foldl hcalled hrest hreturned
        · exact hw.imp_right And.right
        · rw [hbegun]
          exact staysAfter_start hw _ _
      refine ⟨(hstays .process (Or.inl rfl)).1, (hstays .process (Or.inl rfl)).2,
        fun hconnect => hstays .receive (Or.inr ⟨hconnect, rfl⟩), ?_⟩
      by_contra hw
      have hup := hfewer _ (Bool.eq_true_of_not_eq_false hw)
      exact Bool.false_ne_true ((runningAfter_call connectLidar true hunused).symm.trans hup)

/-- The first call of `Start`, with a lidar. -/
theorem start_stop_safe_firstStart :
    let t := (.call true :: List.replicate 16 .owner).foldl
      (sdkStep launchConfig LoadEnv.launch true) (SdkState.init launchTables)
    t.running .process = true ∧ t.enabled .process = true ∧
      (true = true → t.running .receive = true ∧ t.enabled .receive = true) ∧
      t.running .parse = false := by
  have hsafe := start_stop_safe launchConfig LoadEnv.launch true launchTables []
  exact hsafe.2 true (List.replicate 16 .owner) rfl (by simp [SdkOp.isCall]) rfl

/-! ## Every call returns -/

/-- Everybody takes a step, and no other call is made. -/
structure IsSdkRound (ops : List (SdkOp F)) : Prop where
  noCall : ∀ op ∈ ops, op.isCall = false
  everybody : ∀ actor, ∃ op ∈ ops, op.actor = actor

omit [CFloat F] in
/-- A round of the object is one of the pool. -/
theorem IsSdkRound.isRound {ops : List (SdkOp F)} (h : IsSdkRound ops)
    {events : List (Event Worker)} (hevents : List.Forall₂ IsEventOf ops events) :
    IsRound (turnBound + 1) events where
  owner := by
    obtain ⟨op, hop, hactor⟩ := h.everybody none
    obtain ⟨e, he, hevent⟩ := hevents.flip.exists_of_mem hop
    exact hevent.owner hactor ▸ he
  work w := by
    obtain ⟨op, hop, hactor⟩ := h.everybody (some w)
    obtain ⟨e, he, hevent⟩ := hevents.flip.exists_of_mem hop
    obtain ⟨next, rfl, -⟩ := hevent.work w hactor
    exact ⟨next, he⟩
  bounded e he := by
    obtain ⟨op, -, hevent⟩ := hevents.exists_of_mem he
    exact hevent.bounded

/-- Rounds of the object are rounds of the pool. -/
theorem rounds_pool (cfg : Config F) (env : LoadEnv F) (h : SdkInv connectLidar s)
    {rounds : List (List (SdkOp F))}
    (hrounds : ∀ ops ∈ rounds, IsSdkRound ops) :
    ∃ rounds' : List (List (Event Worker)), rounds'.length = rounds.length ∧
      (∀ events ∈ rounds', IsRound (turnBound + 1) events) ∧
      (rounds.flatten.foldl (sdkStep cfg env connectLidar) s).pool =
        rounds'.flatten.foldl (Pool.step isLone) s.pool := by
  induction rounds generalizing s with
  | nil => exact ⟨[], rfl, by simp, rfl⟩
  | cons ops rounds ih =>
    have hround := hrounds ops List.mem_cons_self
    obtain ⟨events, hevents, hpool⟩ :=
      foldl_sdkStep_pool cfg env h hround.noCall
    have hnext : SdkInv connectLidar (ops.foldl (sdkStep cfg env connectLidar) s) :=
      inv ops h fun _ op h => h.step cfg env op
    obtain ⟨rounds', hlength, hall, hrest⟩ :=
      ih hnext fun ops' hops' => hrounds ops' (List.mem_cons_of_mem ops hops')
    refine ⟨events :: rounds', by simp [hlength], ?_, ?_⟩
    · intro events' he
      rcases List.mem_cons.mp he with rfl | he
      · exact hround.isRound hevents
      · exact hall events' he
    · simp only [List.flatten_cons, List.foldl_append, hrest, hpool]

/-- If the call to the lidar returns, every call does: there is a number of rounds after which
    `Start` or `Stop` has returned, in whatever state the object is and in whatever order the
    steps of a round are taken. A round has a step of the calibration thread in it, so a lidar
    that takes the command and never answers has no rounds, and `Stop` waits for that thread. -/
theorem start_stop_return (cfg : Config F) (env : LoadEnv F) (connectLidar : Bool) :
    ∃ n, ∀ (tables : CalibrationTables F) (ops : List (SdkOp F))
      (rounds : List (List (SdkOp F))), (∀ ops ∈ rounds, IsSdkRound ops) → n ≤ rounds.length →
      ((ops ++ rounds.flatten).foldl (sdkStep cfg env connectLidar)
        (SdkState.init tables)).call = [] := by
  refine ⟨(turnBound + 3) * 23 + Fintype.card Worker * (turnBound + 2),
    fun tables ops rounds hrounds hmany => ?_⟩
  have hinv : SdkInv connectLidar
      (ops.foldl (sdkStep cfg env connectLidar) (SdkState.init tables)) :=
    inv ops (sdkInv_init connectLidar tables) fun _ op h => h.step cfg env op
  rw [List.foldl_append]
  generalize ops.foldl (sdkStep cfg env connectLidar) (SdkState.init tables) = s at hinv ⊢
  obtain ⟨rounds', hlength, hall, hpool⟩ := rounds_pool cfg env hinv hrounds
  have hmeasure : s.pool.measure isLone (turnBound + 1) ≤ _ := measure_le hinv.pool.short
  have hcommands := Nat.mul_le_mul_left (turnBound + 3) hinv.length
  have hdone := todo_eq_nil_of_rounds hinv.pool.ordered hinv.pool.short hall
    (hlength ▸ Nat.le_trans hmeasure (Nat.le_trans (Nat.add_le_add_right hcommands _) hmany))
  rw [← hpool] at hdone
  exact hdone

/-- Everybody in turn, nothing arrives. -/
def quietRound : List (SdkOp Rat) :=
  [.owner, .process, .receive 0 (fun _ => 0) ⟨0, ⟨false, false, false, false, .error 11⟩, none⟩,
    .parse 0 (fun _ => 0) none, .calibrate none ⟨2, none⟩]

/-- `Start` while nothing arrives. -/
theorem start_stop_return_quietRound : ∃ n,
    ((SdkOp.call true :: (List.replicate n quietRound).flatten).foldl
      (sdkStep launchConfig LoadEnv.launch true) (SdkState.init launchTables)).call = [] := by
  obtain ⟨n, hreturn⟩ := start_stop_return launchConfig LoadEnv.launch true
  refine ⟨n, hreturn launchTables [.call true] (List.replicate n quietRound) ?_ (by simp)⟩
  intro ops hops
  obtain rfl := List.eq_of_mem_replicate hops
  refine ⟨by simp [quietRound, SdkOp.isCall], fun actor => ?_⟩
  cases actor with
  | none => simp [quietRound, SdkOp.actor]
  | some w => cases w <;> simp [quietRound, SdkOp.actor]

end Hesai
