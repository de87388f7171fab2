import Mathlib.Data.List.Basic
import Go2Sensors.ForStd.Run
import Go2Sensors.Native.PacketsBuffer

/-!
# The packet ring: order, stalls and overflow

In every interleaving the read iterator is the number of consumed packets modulo
`36000`, and the push iterator the number of `push_back` calls less one modulo
`36000`, because a refused call advances it too. While the producer never pushes
into a full ring this makes the ring a FIFO queue (`taken_prefix_issued`). It
also says when a consumer that has fallen behind may go on
(`hasEnoughPackets_iff_resumable`): not when the unread packets run past the end
of the array, short of a window of 1000 cells at both ends. A push into a full
ring is never harmless (`pushBack_full_not_harmless`).
-/

namespace Hesai

variable {α : Type}

namespace PacketsBuffer

/-! ## What each call can do -/

/-- The first push fills the cell under the push iterator. -/
theorem pushBack_first {b : PacketsBuffer α} (pkt : α) (h : b.startFlag = false) :
    b.pushBack pkt =
      (1, { b with buffers := b.buffers.set b.iterPush pkt b.push_lt, startFlag := true }) := by
  simp [pushBack, h]

/-- The push iterator advances by one cell in every later call, refused or not. -/
theorem pushBack_iterPush {b : PacketsBuffer α} (pkt : α) (h : b.startFlag = true) :
    (b.pushBack pkt).2.iterPush = (b.iterPush + 1) % pktArraySize := by
  have hp : b.iterPush < 36000 := b.push_lt
  have hc : b.iterCalc < 36000 := b.calc_lt
  -- refused, wrapped, and plain advance
  simp only [pushBack, h, Bool.not_true, Bool.false_eq_true, ↓reduceIte]
  split
  · dsimp only [pktArraySize]; omega
  · split
    · simp [*]
    · rename_i hend
      have hne : b.iterPush + 1 ≠ 36000 := hend
      dsimp only [pktArraySize]; omega

/-- A call is refused exactly when the advanced iterator meets the read iterator,
    before any wrap. -/
theorem pushBack_eq_zero_iff {b : PacketsBuffer α} (pkt : α) (h : b.startFlag = true) :
    (b.pushBack pkt).1 = 0 ↔ b.iterPush + 1 = b.iterCalc := by
  simp only [pushBack, h, Bool.not_true, Bool.false_eq_true, ↓reduceIte]
  split
  · rename_i hfull
    exact ⟨fun _ => hfull, fun _ => rfl⟩
  · rename_i hfull
    split <;> exact ⟨fun h1 => absurd h1 (by simp), fun h1 => absurd h1 hfull⟩

/-- The return value is `0` or `1`. -/
theorem pushBack_ret (b : PacketsBuffer α) (pkt : α) :
    (b.pushBack pkt).1 = 0 ∨ (b.pushBack pkt).1 = 1 := by
  unfold pushBack
  split
  · exact .inr rfl
  · split
    · exact .inl rfl
    · split <;> exact .inr rfl

/-- The read iterator is the consumer's. -/
@[simp] theorem pushBack_iterCalc (b : PacketsBuffer α) (pkt : α) :
    (b.pushBack pkt).2.iterCalc = b.iterCalc := by
  unfold pushBack
  split
  · rfl
  · split
    · rfl
    · split <;> rfl

/-- Every call leaves the ring started. -/
@[simp] theorem pushBack_startFlag (b : PacketsBuffer α) (pkt : α) :
    (b.pushBack pkt).2.startFlag = true := by
  unfold pushBack
  split
  · rfl
  · rename_i h
    have hs : b.startFlag = true := by simpa using h
    split
    · exact hs
    · split <;> exact hs

/-- The cell the push iterator ends at holds the packet of an accepted call. -/
theorem pushBack_cells_self {b : PacketsBuffer α} {pkt : α} (h : (b.pushBack pkt).1 = 1) :
    (b.pushBack pkt).2.cells (b.pushBack pkt).2.iterPush = some pkt := by
  unfold pushBack at h ⊢
  split at h
  · simp_all [cells]
  · split at h
    · simp at h
    · split at h <;> simp_all [cells]

/-- No other cell changes. -/
theorem pushBack_cells_ne {b : PacketsBuffer α} {pkt : α} {j : Nat}
    (hj : j ≠ (b.pushBack pkt).2.iterPush) : (b.pushBack pkt).2.cells j = b.cells j := by
  unfold pushBack at hj ⊢
  split at hj
  · simp_all [cells, Ne.symm hj]
  · split at hj
    · simp_all [cells]
    · split at hj <;> simp_all [cells, Ne.symm hj]

/-- `moveIterCalc` goes round the array. -/
@[simp] theorem moveIterCalc_iterCalc (b : PacketsBuffer α) :
    b.moveIterCalc.iterCalc = (b.iterCalc + 1) % pktArraySize := by
  have hc : b.iterCalc < 36000 := b.calc_lt
  unfold moveIterCalc
  split
  · simp [*]
  · rename_i hend
    have hne : b.iterCalc + 1 ≠ 36000 := hend
    dsimp only [pktArraySize]; omega

@[simp] theorem moveIterCalc_iterPush (b : PacketsBuffer α) :
    b.moveIterCalc.iterPush = b.iterPush := by
  unfold moveIterCalc; split <;> rfl

@[simp] theorem moveIterCalc_startFlag (b : PacketsBuffer α) :
    b.moveIterCalc.startFlag = b.startFlag := by
  unfold moveIterCalc; split <;> rfl

@[simp] theorem moveIterCalc_cells (b : PacketsBuffer α) :
    b.moveIterCalc.cells = b.cells := by
  unfold moveIterCalc; split <;> rfl

/-- The packet under the read iterator is the one in its cell. -/
theorem getIterCalc_eq (b : PacketsBuffer α) : some b.getIterCalc = b.cells b.iterCalc := by
  simp [getIterCalc, cells, b.calc_lt, Vector.get]

/-- The emptiness test in terms of cell numbers. -/
theorem hasEnoughPackets_iff (b : PacketsBuffer α) :
    b.hasEnoughPackets = true ↔
      b.iterCalc < b.iterPush ∨ (35000 < b.iterCalc ∧ b.iterPush < 1000) := by
  have hp : b.iterPush < 36000 := b.push_lt
  have hc : b.iterCalc < 36000 := b.calc_lt
  simp only [hasEnoughPackets, pktArraySize, Bool.or_eq_true, Bool.and_eq_true,
    decide_eq_true_eq]
  omega

/-- A ring whose iterators coincide looks empty. -/
theorem hasEnoughPackets_of_eq {b : PacketsBuffer α} (h : b.iterPush = b.iterCalc) :
    b.hasEnoughPackets = false := by
  rw [Bool.eq_false_iff, ne_eq, hasEnoughPackets_iff]
  omega

end PacketsBuffer

namespace RingState

open Run

/-! ## Where the iterators are -/

/-- The iterators in terms of the history, in any interleaving. -/
structure Counted (s : RingState α) : Prop where
  startFlag : s.ring.startFlag = !s.issued.isEmpty
  iterPush : s.ring.iterPush = (s.issued.length - 1) % pktArraySize
  iterCalc : s.ring.iterCalc = s.moved % pktArraySize

theorem counted_init [Inhabited α] : Counted (init : RingState α) :=
  ⟨rfl, rfl, rfl⟩

/-- The read iterator follows `moveIterCalc`, the push iterator every `push_back`. -/
theorem Counted.step {s : RingState α} (h : Counted s) (op : RingOp α) :
    Counted (s.step op) := by
  cases op with
  | pushBack pkt =>
    refine ⟨by simp [RingState.step, pushStep], ?_, by simp [RingState.step, pushStep, h.iterCalc]⟩
    simp only [RingState.step, pushStep, List.length_append, List.length_singleton,
      Nat.add_sub_cancel]
    cases hs : s.ring.startFlag with
    | false =>
      have hnil : s.issued = [] := by simpa [hs] using h.startFlag
      simp [PacketsBuffer.pushBack_first pkt hs, h.iterPush, hnil]
    | true =>
      -- from the second call on the iterator counts calls, not accepted packets
      have hne : s.issued ≠ [] := by simpa [hs] using h.startFlag
      have hpos := List.length_pos_of_ne_nil hne
      rw [PacketsBuffer.pushBack_iterPush pkt hs, h.iterPush, Nat.mod_add_mod,
        Nat.sub_add_cancel hpos]
  | consumer =>
    simp only [RingState.step, consumerStep]
    split
    · split <;> exact ⟨h.startFlag, h.iterPush, h.iterCalc⟩
    · exact ⟨h.startFlag, h.iterPush, h.iterCalc⟩
    · exact ⟨by simp [h.startFlag], by simp [h.iterPush], by simp [h.iterCalc]⟩

theorem run_append (s : RingState α) (ops ops' : List (RingOp α)) :
    s.run (ops ++ ops') = (s.run ops).run ops' :=
  List.foldl_append

theorem Counted.run [Inhabited α] (ops : List (RingOp α)) :
    Counted (RingState.run init ops) :=
  Run.inv ops counted_init fun _ op h => h.step op

/-! ## Order and no loss -/

/-- The schedules of a producer that never pushes into a full ring. -/
def pushAllowed (s : RingState α) : RingOp α → Prop
  | .pushBack _ => s.unconsumed < pktArraySize
  | .consumer => True

/-- Number of packets the consumer has read and not yet passed. -/
def holding : ConsumerPc → Nat
  | .move => 1
  | .poll | .read => 0

/-- The FIFO invariant: every push was accepted, at least one packet is waiting
    once there was a push, the waiting packets sit in their cells, and the consumer
    has read the oldest packets in order. -/
structure Fifo (s : RingState α) : Prop where
  counted : Counted s
  returned : ∀ r ∈ s.returned, r = 1
  accepted : s.accepted = s.issued
  idle : s.issued = [] → s.moved = 0 ∧ s.pc = .poll
  waiting : s.issued ≠ [] → s.moved < s.issued.length
  room : s.issued.length ≤ s.moved + pktArraySize
  ready : s.pc ≠ ConsumerPc.poll → s.moved + 1 < s.issued.length
  taken : s.taken = s.issued.take (s.moved + holding s.pc)
  window : Ring.Window pktArraySize s.ring.cells s.moved s.issued

theorem fifo_init [Inhabited α] : Fifo (init : RingState α) where
  counted := counted_init
  returned := by simp [init]
  accepted := rfl
  idle := fun _ => ⟨rfl, rfl⟩
  waiting := fun h => absurd rfl h
  room := by simp [init]
  ready := fun h => absurd rfl h
  taken := rfl
  window := Ring.Window.nil

/-- A push into a ring with room is accepted: the advanced push iterator is the
    cell of the next log entry, and less than one turn ahead of the read iterator. -/
theorem Fifo.pushBack_ret {s : RingState α} (h : Fifo s) (pkt : α)
    (hroom : s.unconsumed < pktArraySize) : (s.ring.pushBack pkt).1 = 1 := by
  apply (s.ring.pushBack_ret pkt).resolve_left
  intro hzero
  cases hs : s.ring.startFlag with
  | false => simp [PacketsBuffer.pushBack_first pkt hs] at hzero
  | true =>
    have hne : s.issued ≠ [] := by simpa [hs] using h.counted.startFlag
    have hwait := h.waiting hne
    rw [PacketsBuffer.pushBack_eq_zero_iff pkt hs, h.counted.iterPush, h.counted.iterCalc] at hzero
    rw [unconsumed, h.accepted] at hroom
    apply Ring.mod_ne_of_lt (n := pktArraySize) hwait (by omega)
    -- the advanced iterator would be in the cell of the oldest waiting packet
    have hlt := Nat.mod_lt s.moved (show 0 < pktArraySize by decide)
    have hsucc := Ring.succ_mod_eq (k := s.issued.length - 1) (show 0 < pktArraySize by decide)
    rw [Nat.sub_add_cancel (by omega), if_neg (by omega)] at hsucc
    rw [hsucc, hzero]

/-- An allowed push keeps the FIFO invariant. -/
theorem Fifo.pushStep {s : RingState α} (h : Fifo s) (pkt : α)
    (hroom : s.unconsumed < pktArraySize) : Fifo (s.pushStep pkt) := by
  have hret := h.pushBack_ret pkt hroom
  have hcounted : Counted (s.pushStep pkt) := h.counted.step (.pushBack pkt)
  have hcell : (s.ring.pushBack pkt).2.iterPush = s.issued.length % pktArraySize := by
    simpa [RingState.pushStep] using hcounted.iterPush
  rw [unconsumed, h.accepted] at hroom
  have hmoved : s.moved ≤ s.issued.length := by
    rcases eq_or_ne s.issued [] with hnil | hne
    · simp [(h.idle hnil).1]
    · exact Nat.le_of_lt (h.waiting hne)
  refine ⟨hcounted, ?_, ?_, ?_, ?_, ?_, ?_, ?_, ?_⟩
  · -- every return value is `1`
    intro r hr
    rcases List.mem_append.mp hr with hr | hr
    · exact h.returned r hr
    · rw [List.mem_singleton.mp hr, hret]
  · simp only [RingState.pushStep, hret, ↓reduceIte, h.accepted]
  · intro hnil
    simp [RingState.pushStep] at hnil
  · intro _
    simp only [RingState.pushStep, List.length_append, List.length_singleton]; omega
  · simp only [RingState.pushStep, List.length_append, List.length_singleton]; omega
  · intro hpc
    have := h.ready hpc
    simp only [RingState.pushStep, List.length_append, List.length_singleton]; omega
  · simp only [RingState.pushStep]
    -- what the consumer has read does not reach the end of the log
    have hle : s.moved + holding s.pc ≤ s.issued.length := by
      cases hpc : s.pc with
      | poll | read => exact hmoved
      | move => exact Nat.le_of_lt (h.ready (by simp [hpc]))
    rw [h.taken, List.take_append_of_le_length hle]
  · -- the new packet enters the window of the log, in its own cell
    refine h.window.push (by omega) ?_ ?_
    · rw [← hcell]
      exact PacketsBuffer.pushBack_cells_self hret
    · intro j hj
      exact PacketsBuffer.pushBack_cells_ne (by rwa [hcell])

/-- `hasEnoughPackets` only answers `true` when at least two packets are waiting. -/
theorem Fifo.two_waiting {s : RingState α} (h : Fifo s) (he : s.ring.hasEnoughPackets = true) :
    s.moved + 1 < s.issued.length := by
  rcases eq_or_ne s.issued [] with hnil | hne
  · -- before the first push the iterators coincide
    have heq : s.ring.iterPush = s.ring.iterCalc := by
      simp [h.counted.iterPush, h.counted.iterCalc, hnil, (h.idle hnil).1]
    simp [PacketsBuffer.hasEnoughPackets_of_eq heq] at he
  · have hwait := h.waiting hne
    by_contra hle
    -- the last packet is never handed out: the iterators coincide there too
    have heq : s.ring.iterPush = s.ring.iterCalc := by
      rw [h.counted.iterPush, h.counted.iterCalc, show s.issued.length - 1 = s.moved by omega]
    simp [PacketsBuffer.hasEnoughPackets_of_eq heq] at he

/-- The packet under the read iterator is the oldest one waiting. -/
theorem Fifo.getIterCalc_eq {s : RingState α} (h : Fifo s) (hlt : s.moved < s.issued.length) :
    s.ring.getIterCalc = s.issued[s.moved] := by
  have hcell := s.ring.getIterCalc_eq
  rw [h.counted.iterCalc, h.window.read hlt] at hcell
  exact Option.some.inj hcell

/-- The consumer's steps keep the FIFO invariant. -/
theorem Fifo.consumerStep {s : RingState α} (h : Fifo s) : Fifo s.consumerStep := by
  have hcounted : Counted s.consumerStep := h.counted.step .consumer
  cases hpc : s.pc with
  | poll =>
    cases he : s.ring.hasEnoughPackets with
    | false => simpa [RingState.consumerStep, hpc, he] using h
    | true =>
      -- the answer `true` is what allows the read
      have htwo := h.two_waiting he
      have htaken := h.taken
      simp only [RingState.consumerStep, hpc, he, ↓reduceIte] at hcounted ⊢
      refine ⟨hcounted, h.returned, h.accepted, ?_, h.waiting, h.room, fun _ => htwo, ?_, h.window⟩
      · intro hnil
        exact absurd (hnil ▸ htwo) (Nat.not_lt_zero _)
      · simpa [hpc, holding] using htaken
  | read =>
    have htwo := h.ready (by simp [hpc])
    have htaken := h.taken
    simp only [RingState.consumerStep, hpc] at hcounted ⊢
    refine ⟨hcounted, h.returned, h.accepted, ?_, h.waiting, h.room, fun _ => htwo, ?_, h.window⟩
    · intro hnil
      exact absurd (hnil ▸ htwo) (Nat.not_lt_zero _)
    · -- the packet read is the next one of the log
      have hlt : s.moved < s.issued.length := by omega
      simp [h.getIterCalc_eq hlt, htaken, hpc, holding, List.take_append_getElem hlt]
  | move =>
    have htwo := h.ready (by simp [hpc])
    have htaken := h.taken
    simp only [RingState.consumerStep, hpc] at hcounted ⊢
    refine ⟨hcounted, h.returned, h.accepted, ?_, fun _ => htwo, ?_, fun hne => absurd rfl hne,
      ?_, ?_⟩
    · intro hnil
      exact absurd (hnil ▸ htwo) (Nat.not_lt_zero _)
    · have := h.room
      dsimp only
      omega
    · simpa [hpc, holding] using htaken
    · dsimp only
      rw [PacketsBuffer.moveIterCalc_cells]
      exact h.window.advance (Nat.le_succ _)

/-- The consumer issues nothing. -/
@[simp] theorem consumerStep_issued (s : RingState α) : s.consumerStep.issued = s.issued := by
  unfold RingState.consumerStep
  split
  · split <;> rfl
  · rfl
  · rfl

/-- A packet is consumed when its cell is passed. -/
theorem consumerStep_moved (s : RingState α) :
    s.consumerStep.moved = if s.pc = .move then s.moved + 1 else s.moved := by
  cases hpc : s.pc with
  | poll =>
    simp only [RingState.consumerStep, hpc]
    split <;> rfl
  | read | move => simp [RingState.consumerStep, hpc]

/-- Before its cell is passed, the packet that was read last is the oldest one waiting. -/
theorem Fifo.getLast?_taken {s : RingState α} (h : Fifo s) (hpc : s.pc = .move) :
    s.taken.getLast? = s.issued[s.moved]? := by
  have htwo := h.ready (by simp [hpc])
  have hlt : s.moved < s.issued.length := by omega
  rw [h.taken, hpc, holding, List.getLast?_take, if_neg (Nat.succ_ne_zero _), Nat.add_sub_cancel,
    List.getElem?_eq_getElem hlt, Option.some_or]

/-- The FIFO invariant holds after every allowed schedule. -/
theorem Fifo.run [Inhabited α] {ops : List (RingOp α)}
    (hallowed : EachStep RingState.step pushAllowed init ops) :
    Fifo (RingState.run init ops) := by
  apply hallowed.inv fifo_init
  intro s op h hop
  cases op with
  | pushBack pkt => exact h.pushStep pkt hop
  | consumer => exact h.consumerStep

/-! ### Filling the ring -/

/-- Only `push_back` calls: nothing moves on the consumer's side. -/
theorem run_pushes (s : RingState α) (pkt : α) (k : Nat) :
    (s.run (List.replicate k (.pushBack pkt))).issued.length = s.issued.length + k ∧
      (s.run (List.replicate k (.pushBack pkt))).moved = s.moved ∧
      (s.run (List.replicate k (.pushBack pkt))).pc = s.pc := by
  induction k generalizing s with
  | zero => exact ⟨rfl, rfl, rfl⟩
  | succ k ih =>
    obtain ⟨hissued, hmoved, hpc⟩ := ih (s.pushStep pkt)
    have hone : (s.pushStep pkt).issued.length = s.issued.length + 1 := by
      simp [RingState.pushStep]
    rw [hone] at hissued
    exact ⟨hissued.trans (by omega), hmoved, hpc⟩

/-- Up to a full ring such a schedule is allowed. -/
theorem allowed_pushes [Inhabited α] (pkt : α) {k : Nat} (hk : k ≤ pktArraySize) :
    EachStep RingState.step pushAllowed init (List.replicate k (.pushBack pkt)) := by
  induction k with
  | zero => trivial
  | succ k ih =>
    have hallowed := ih (by omega)
    have hfifo := Fifo.run hallowed
    obtain ⟨hissued, hmoved, -⟩ := run_pushes (init : RingState α) pkt k
    -- the last push finds `k` packets waiting
    rw [List.replicate_succ', eachStep_append]
    refine ⟨hallowed, ?_, trivial⟩
    have hlen : (RingState.run init (List.replicate k (.pushBack pkt))).unconsumed = k := by
      rw [unconsumed, hfifo.accepted, hissued, hmoved]
      simp [init]
    change (RingState.run init _).unconsumed < _
    rw [hlen]
    omega

/-- While the producer never pushes into a full ring, every `push_back` returns `1`
    and what the consumer has read is a prefix of what was pushed. -/
theorem taken_prefix_issued [Inhabited α] (ops : List (RingOp α))
    (hallowed : EachStep RingState.step pushAllowed init ops) :
    (∀ r ∈ (RingState.run init ops).returned, r = 1) ∧
      (RingState.run init ops).taken <+: (RingState.run init ops).issued := by
  have h := Fifo.run hallowed
  constructor
  · exact h.returned
  · rw [h.taken]
    exact List.take_prefix _ _

/-- The schedule that fills the ring and then hands one packet to the consumer. -/
theorem taken_prefix_issued_after_pushes :
    let ops : List (RingOp Nat) := List.replicate pktArraySize (.pushBack 0) ++
      [.consumer, .consumer, .consumer]
    EachStep RingState.step pushAllowed init ops ∧
      (∀ r ∈ (RingState.run init ops).returned, r = 1) ∧
      (RingState.run init ops).taken <+: (RingState.run init ops).issued := by
  intro ops
  have hallowed : EachStep RingState.step pushAllowed init ops :=
    (eachStep_append _ _).mpr
      ⟨allowed_pushes 0 (Nat.le_refl pktArraySize), trivial, trivial, trivial, trivial⟩
  exact ⟨hallowed, taken_prefix_issued ops hallowed⟩

/-! ## When the consumer can go on -/

/-- The unread packets do not run past the end of the array, or they do and both
    ends lie within the windows of 1000 cells. The cells are given by the number of
    consumed packets and the number of `push_back` calls so far. -/
def Resumable (s : RingState α) : Prop :=
  s.moved % pktArraySize < (s.issued.length - 1) % pktArraySize ∨
    (35000 < s.moved % pktArraySize ∧ (s.issued.length - 1) % pktArraySize < 1000)

/-- The emptiness test in terms of the history. -/
theorem Counted.hasEnoughPackets_iff {s : RingState α} (h : Counted s) :
    s.ring.hasEnoughPackets = true ↔ Resumable s := by
  rw [PacketsBuffer.hasEnoughPackets_iff, h.iterPush, h.iterCalc, Resumable]

/-- In every state of every interleaving, the consumer may proceed exactly when the
    ring is resumable. -/
theorem hasEnoughPackets_iff_resumable [Inhabited α] (ops : List (RingOp α)) :
    (RingState.run init ops).ring.hasEnoughPackets = true ↔
      Resumable (RingState.run init ops) :=
  (Counted.run ops).hasEnoughPackets_iff

/-- A consumer that finds the ring ready takes one packet in three steps. -/
theorem Fifo.takeOne {s : RingState α} (h : Fifo s) (hpc : s.pc = .poll)
    (henough : s.ring.hasEnoughPackets = true) :
    Fifo (s.run [.consumer, .consumer, .consumer]) ∧
      (s.run [.consumer, .consumer, .consumer]).issued = s.issued ∧
      (s.run [.consumer, .consumer, .consumer]).moved = s.moved + 1 ∧
      (s.run [.consumer, .consumer, .consumer]).pc = .poll := by
  refine ⟨h.consumerStep.consumerStep.consumerStep, ?_⟩
  simp [RingState.run, RingState.step, RingState.consumerStep, hpc, henough]

/-- `n` pushes, two packets consumed, one more push. With a full ring the push
    iterator has then gone round to cell `0` and the read iterator stands at cell `2`. -/
def stalledSchedule (n : Nat) : List (RingOp Nat) :=
  List.replicate n (.pushBack 0) ++
    ([.consumer, .consumer, .consumer] ++
      ([.consumer, .consumer, .consumer] ++ [.pushBack 0]))

/-- The state of the stalled schedule: `36001` packets accepted, two consumed. -/
private theorem run_stalledSchedule {n : Nat} (hn : n = pktArraySize) :
    (RingState.run init (stalledSchedule n)).issued.length = n + 1 ∧
      (RingState.run init (stalledSchedule n)).moved = 2 ∧
      (RingState.run init (stalledSchedule n)).unconsumed = n - 1 := by
  obtain ⟨hissued, hmoved, hpc⟩ := run_pushes (init : RingState Nat) 0 n
  have hfifo := Fifo.run (allowed_pushes (0 : Nat) (Nat.le_of_eq hn))
  rw [stalledSchedule, run_append, run_append, run_append]
  generalize RingState.run init (List.replicate n (.pushBack (0 : Nat))) = s at *
  have hlen : s.issued.length = n := by simpa [init] using hissued
  have hzero : s.moved = 0 := hmoved
  have hready : s.ring.hasEnoughPackets = true := by
    rw [hfifo.counted.hasEnoughPackets_iff, Resumable, hlen, hzero, hn]
    decide
  -- the first round of the consumer
  obtain ⟨hfifo₁, hissued₁, hmoved₁, hpc₁⟩ := hfifo.takeOne hpc hready
  generalize s.run [.consumer, .consumer, .consumer] = s₁ at *
  have hready₁ : s₁.ring.hasEnoughPackets = true := by
    rw [hfifo₁.counted.hasEnoughPackets_iff, Resumable, hissued₁, hmoved₁, hlen, hzero, hn]
    decide
  -- the second round, and the last push
  obtain ⟨hfifo₂, hissued₂, hmoved₂, -⟩ := hfifo₁.takeOne hpc₁ hready₁
  generalize s₁.run [.consumer, .consumer, .consumer] = s₂ at *
  have hlen₂ : s₂.issued.length = n := by rw [hissued₂, hissued₁, hlen]
  have htwo : s₂.moved = 2 := by rw [hmoved₂, hmoved₁, hzero]
  have hroom : s₂.unconsumed < pktArraySize := by
    rw [unconsumed, hfifo₂.accepted, hlen₂, htwo, hn]
    decide
  have hfifo₃ := hfifo₂.pushStep 0 hroom
  have hlen₃ : (s₂.pushStep 0).issued.length = n + 1 := by
    simp [RingState.pushStep, hlen₂]
  refine ⟨hlen₃, htwo, ?_⟩
  change (s₂.pushStep 0).unconsumed = n - 1
  rw [unconsumed, hfifo₃.accepted, hlen₃]
  change n + 1 - s₂.moved = n - 1
  omega

/-- A consumer that has fallen behind cannot always resume: here `35999` packets are
    waiting and the ring looks empty. -/
theorem stalledSchedule_not_enough :
    ¬ ∀ ops : List (RingOp Nat),
      2 ≤ (RingState.run init ops).unconsumed →
      (RingState.run init ops).unconsumed < pktArraySize →
      (RingState.run init ops).ring.hasEnoughPackets = true := by
  intro hclaim
  obtain ⟨hissued, hmoved, hwaiting⟩ := run_stalledSchedule rfl
  have henough := hclaim (stalledSchedule pktArraySize)
    (by rw [hwaiting]; decide) (by rw [hwaiting]; decide)
  rw [(Counted.run _).hasEnoughPackets_iff, Resumable, hissued, hmoved] at henough
  revert henough
  decide

/-! ## Overflow -/

/-- All cells hold accepted packets that are not consumed. -/
def Full (s : RingState α) : Prop := ∀ i < pktArraySize, s.unread i = true

/-- What an overflow would be if it changed nothing. -/
def OverflowHarmless (s : RingState α) (pkt : α) : Prop :=
  (s.ring.pushBack pkt).1 = 0 ∧
    (s.ring.pushBack pkt).2.iterPush = s.ring.iterPush ∧
    (s.ring.pushBack pkt).2.iterCalc = s.ring.iterCalc ∧
    (s.ring.pushBack pkt).2.buffers = s.ring.buffers

@[simp] theorem consumerStep_startFlag (s : RingState α) :
    s.consumerStep.ring.startFlag = s.ring.startFlag := by
  unfold RingState.consumerStep
  split
  · split <;> rfl
  · rfl
  · exact PacketsBuffer.moveIterCalc_startFlag _

/-- The consumer marks no cell. -/
theorem unread_of_consumerStep {s : RingState α} {i : Nat}
    (hi : s.consumerStep.unread i = true) : s.unread i = true := by
  unfold RingState.consumerStep at hi
  split at hi
  · split at hi <;> exact hi
  · exact hi
  · exact (Bool.and_eq_true_iff.mp hi).2

/-- No cell is marked before the first push. -/
theorem startFlag_of_unread [Inhabited α] (ops : List (RingOp α)) {i : Nat}
    (hi : (RingState.run init ops).unread i = true) :
    (RingState.run init ops).ring.startFlag = true := by
  let Marked : RingState α → Prop := fun s => ∀ i, s.unread i = true → s.ring.startFlag = true
  have h0 : Marked init := fun i hi => absurd hi (by simp [init])
  have hstep : ∀ s op, Marked s → Marked (RingState.step s op) := by
    intro s op h i hi
    cases op with
    | pushBack pkt => exact PacketsBuffer.pushBack_startFlag _ _
    | consumer => exact (consumerStep_startFlag s).trans (h i (unread_of_consumerStep hi))
  exact Run.inv (P := Marked) ops h0 hstep i hi

/-- A full ring is started. -/
theorem Full.startFlag [Inhabited α] {ops : List (RingOp α)}
    (hfull : Full (RingState.run init ops)) :
    (RingState.run init ops).ring.startFlag = true :=
  startFlag_of_unread ops (hfull 0 (by decide))

/-- The first `k` pushes mark the first `k` cells. -/
theorem unread_pushes [Inhabited α] (pkt : α) {k : Nat} (hk : k ≤ pktArraySize) :
    ∀ i < k, (RingState.run init (List.replicate k (.pushBack pkt))).unread i = true := by
  induction k with
  | zero => exact fun i hi => absurd hi (Nat.not_lt_zero i)
  | succ k ih =>
    have hallowed := allowed_pushes pkt hk
    rw [List.replicate_succ', eachStep_append] at hallowed
    have hret := (Fifo.run hallowed.1).pushBack_ret pkt hallowed.2.1
    -- the push iterator is at cell `k` after push number `k + 1`
    have hcell := ((Fifo.run hallowed.1).counted.step (.pushBack pkt)).iterPush
    have hlen : (RingState.run init (List.replicate k (.pushBack pkt))).issued.length = k := by
      simpa [init] using (run_pushes (init : RingState α) pkt k).1
    intro i hi
    rw [List.replicate_succ', run_append]
    generalize RingState.run init (List.replicate k (.pushBack pkt)) = s at *
    have hcell' : (s.ring.pushBack pkt).2.iterPush = k := by
      simpa [RingState.step, RingState.pushStep, hlen, Nat.mod_eq_of_lt hk] using hcell
    change (s.pushStep pkt).unread i = true
    simp only [RingState.pushStep, hret, ↓reduceIte, hcell', Bool.or_eq_true, beq_iff_eq]
    rcases Nat.lt_succ_iff_lt_or_eq.mp hi with h | h
    · exact .inr (ih (by omega) i h)
    · exact .inl h

/-- `36000` pushes fill the ring. -/
theorem full_pushes [Inhabited α] (pkt : α) :
    Full (RingState.run init (List.replicate pktArraySize (.pushBack pkt))) :=
  unread_pushes pkt (Nat.le_refl pktArraySize)

/-- In no reachable full state does `push_back` leave the ring as it was: whichever
    value it returns, the push iterator has moved. -/
theorem pushBack_full_not_harmless [Inhabited α] (ops : List (RingOp α)) (pkt : α)
    (hfull : Full (RingState.run init ops)) :
    ¬ OverflowHarmless (RingState.run init ops) pkt := by
  rintro ⟨-, hpush, -, -⟩
  rw [PacketsBuffer.pushBack_iterPush pkt hfull.startFlag] at hpush
  have hlt := (RingState.run init ops).ring.push_lt
  -- an iterator that moves by one cell of `36000` is not where it was
  rcases Nat.lt_or_ge ((RingState.run init ops).ring.iterPush + 1) pktArraySize with h | h
  · rw [Nat.mod_eq_of_lt h] at hpush
    omega
  · rw [show (RingState.run init ops).ring.iterPush + 1 = pktArraySize by omega,
      Nat.mod_self] at hpush
    exact absurd h (by rw [← hpush]; decide)

/-- The ring after `36000` pushes. -/
theorem pushBack_full_not_harmless_after_pushes :
    Full (RingState.run init (List.replicate pktArraySize (.pushBack (0 : Nat)))) ∧
      ¬ OverflowHarmless
        (RingState.run init (List.replicate pktArraySize (.pushBack (0 : Nat)))) 0 :=
  ⟨full_pushes 0, pushBack_full_not_harmless _ 0 (full_pushes 0)⟩

/-- An overflow loses a packet. An accepted push into a full ring overwrites a cell
    that is still to be read. A refused one leaves the iterators equal, so that the
    ring looks empty, and the push after it overwrites a cell that is still to be
    read. -/
theorem pushBack_full_overwrites [Inhabited α] (ops : List (RingOp α)) (pkt pkt' : α)
    (hfull : Full (RingState.run init ops)) :
    let s := RingState.run init ops
    let r := s.ring.pushBack pkt
    (r.1 = 1 ∧ s.unread r.2.iterPush = true ∧ r.2.cells r.2.iterPush = some pkt) ∨
      (r.1 = 0 ∧ r.2.hasEnoughPackets = false ∧ (r.2.pushBack pkt').1 = 1 ∧
        s.unread (r.2.pushBack pkt').2.iterPush = true ∧
        (r.2.pushBack pkt').2.cells (r.2.pushBack pkt').2.iterPush = some pkt') := by
  intro s r
  rcases s.ring.pushBack_ret pkt with hret | hret
  · right
    -- refused: the iterators meet, and the next call goes one cell further
    have hmeet := (PacketsBuffer.pushBack_eq_zero_iff pkt hfull.startFlag).mp hret
    have hpush := PacketsBuffer.pushBack_iterPush pkt hfull.startFlag
    rw [hmeet, Nat.mod_eq_of_lt (PacketsBuffer.calc_lt _)] at hpush
    have heq : r.2.iterPush = r.2.iterCalc :=
      hpush.trans (PacketsBuffer.pushBack_iterCalc _ _).symm
    have hret' : (r.2.pushBack pkt').1 = 1 := by
      apply (r.2.pushBack_ret pkt').resolve_left
      intro h
      rw [PacketsBuffer.pushBack_eq_zero_iff pkt' (PacketsBuffer.pushBack_startFlag _ _), heq] at h
      exact Nat.succ_ne_self _ h
    exact ⟨hret, PacketsBuffer.hasEnoughPackets_of_eq heq, hret',
      hfull _ (PacketsBuffer.push_lt _), PacketsBuffer.pushBack_cells_self hret'⟩
  · exact .inl ⟨hret, hfull _ (PacketsBuffer.push_lt _), PacketsBuffer.pushBack_cells_self hret⟩

/-- The push after `36000` pushes is not refused at all: the advanced iterator is
    `m_buffers.end()`, the read iterator is still at the first cell. -/
private theorem pushBack_after_pushes {n : Nat} (hn : n = pktArraySize) :
    ((RingState.run init (List.replicate n (.pushBack (0 : Nat)))).ring.pushBack 0).1 = 1 := by
  have hcounted := (Fifo.run (allowed_pushes (0 : Nat) (Nat.le_of_eq hn))).counted
  obtain ⟨hissued, hmoved, -⟩ := run_pushes (init : RingState Nat) 0 n
  generalize RingState.run init (List.replicate n (.pushBack (0 : Nat))) = s at *
  have hcalc : s.ring.iterCalc = 0 := by simp [hcounted.iterCalc, hmoved, init]
  apply (s.ring.pushBack_ret 0).resolve_left
  intro hzero
  cases hs : s.ring.startFlag with
  | false => simp [PacketsBuffer.pushBack_first 0 hs] at hzero
  | true =>
    rw [PacketsBuffer.pushBack_eq_zero_iff 0 hs] at hzero
    omega

/-- An overflow with the read iterator at the first cell is accepted. -/
theorem overflow_accepted :
    ¬ ∀ (ops : List (RingOp Nat)) (pkt : Nat),
      Full (RingState.run init ops) → OverflowHarmless (RingState.run init ops) pkt := by
  intro hclaim
  have hharmless := hclaim (List.replicate pktArraySize (.pushBack 0)) 0 (full_pushes 0)
  have hzero := hharmless.1
  -- a harmless overflow returns `0`
  rw [pushBack_after_pushes rfl] at hzero
  exact absurd hzero (by decide)

end RingState

end Hesai
