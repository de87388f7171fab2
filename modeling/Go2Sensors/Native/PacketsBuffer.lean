import Go2Sensors.ForStd.Ring

/-!
# The packet ring

`PacketsBuffer` is the ring through which the receiving thread hands packets to
`processLiarPacket`. The push iterator points at the cell written last (not at
the next free one), the first push is special, the comparison with the read
iterator comes before the wrap, and the emptiness test compares raw iterators.
Iterators are cell numbers; `36000` stands for `m_buffers.end()`, which an
iterator equals only inside a call. The two range fields of the structure record
that, so every dereference is of a cell of the array.
-/

namespace Hesai

/-- Number of cells of `PktArray`. -/
abbrev pktArraySize : Nat := 36000

/-- The packet ring, for packets of any type. -/
structure PacketsBuffer (α : Type) where
  buffers : Vector α pktArraySize
  iterPush : Nat
  iterCalc : Nat
  startFlag : Bool
  push_lt : iterPush < pktArraySize
  calc_lt : iterCalc < pktArraySize

namespace PacketsBuffer

variable {α : Type}

/-- The constructor: value-initialised cells, both iterators at the first cell. -/
def init [Inhabited α] : PacketsBuffer α where
  buffers := Vector.replicate pktArraySize default
  iterPush := 0
  iterCalc := 0
  startFlag := false
  push_lt := by decide
  calc_lt := by decide

/-- `push_back`: the return value and the ring afterwards. -/
def pushBack (b : PacketsBuffer α) (pkt : α) : Int × PacketsBuffer α :=
  if !b.startFlag then
    (1, { b with buffers := b.buffers.set b.iterPush pkt b.push_lt, startFlag := true })
  else if hfull : b.iterPush + 1 = b.iterCalc then
    -- "buffer don't have space!": the iterator has already been advanced
    (0, { b with iterPush := b.iterPush + 1, push_lt := hfull ▸ b.calc_lt })
  -- the wrap comes after the comparison with the read iterator
  else if hend : b.iterPush + 1 = pktArraySize then
    (1, { b with
      buffers := b.buffers.set 0 pkt (by decide)
      iterPush := 0
      push_lt := by decide })
  else
    have hlt : b.iterPush + 1 < pktArraySize :=
      Nat.lt_of_le_of_ne (Nat.succ_le_of_lt b.push_lt) hend
    (1, { b with
      buffers := b.buffers.set (b.iterPush + 1) pkt hlt
      iterPush := b.iterPush + 1
      push_lt := hlt })

/-- `hasEnoughPackets`, with its differences of raw iterators. -/
def hasEnoughPackets (b : PacketsBuffer α) : Bool :=
  let diff : Int := b.iterPush - b.iterCalc
  diff > 0 ||
    (diff + 36000 > 0 && pktArraySize - b.iterCalc < 1000 && b.iterPush < 1000)

/-- `*getIterCalc()`: the packet under the read iterator. -/
def getIterCalc (b : PacketsBuffer α) : α :=
  b.buffers.get ⟨b.iterCalc, b.calc_lt⟩

/-- `moveIterCalc`. -/
def moveIterCalc (b : PacketsBuffer α) : PacketsBuffer α :=
  if hend : b.iterCalc + 1 = pktArraySize then
    { b with iterCalc := 0, calc_lt := by decide }
  else
    { b with
      iterCalc := b.iterCalc + 1
      calc_lt := Nat.lt_of_le_of_ne (Nat.succ_le_of_lt b.calc_lt) hend }

/-- The cells by number, `none` outside the array. -/
def cells (b : PacketsBuffer α) (i : Nat) : Option α := b.buffers[i]?

end PacketsBuffer

/-! ## The two threads at the ring

`pushLiDARData` is the only producer and the head of the loop of
`processLiarPacket` the only consumer. Every call on the ring is one atomic
step, and any push may come between two steps of the consumer. -/

/-- Where the consumer stands: about to call `hasEnoughPackets`, about to read
    `*getIterCalc()`, or about to call `moveIterCalc`. -/
inductive ConsumerPc where
  | poll
  | read
  | move
deriving Repr, DecidableEq

/-- One step of one of the threads. -/
inductive RingOp (α : Type) where
  | pushBack (pkt : α)
  | consumer
deriving Repr

/-- The ring with the history of its two threads. Only `ring` and `pc` are the
    program's own; the other fields record what happened. -/
structure RingState (α : Type) where
  ring : PacketsBuffer α
  pc : ConsumerPc
  /-- the arguments of all `push_back` calls -/
  issued : List α
  /-- their return values -/
  returned : List Int
  /-- the arguments of the calls that returned `1` -/
  accepted : List α
  /-- the packets the consumer has read -/
  taken : List α
  /-- number of `moveIterCalc` calls: a packet is consumed once its cell is passed -/
  moved : Nat
  /-- the cells that hold an accepted packet which is not consumed -/
  unread : Nat → Bool

namespace RingState

variable {α : Type}

/-- Both threads before their first step. -/
def init [Inhabited α] : RingState α where
  ring := PacketsBuffer.init
  pc := .poll
  issued := []
  returned := []
  accepted := []
  taken := []
  moved := 0
  unread := fun _ => false

/-- Number of accepted packets that are not consumed. -/
def unconsumed (s : RingState α) : Nat := s.accepted.length - s.moved

/-- `pushLiDARData`. -/
def pushStep (s : RingState α) (pkt : α) : RingState α :=
  let r := s.ring.pushBack pkt
  { s with
    ring := r.2
    issued := s.issued ++ [pkt]
    returned := s.returned ++ [r.1]
    accepted := if r.1 = 1 then s.accepted ++ [pkt] else s.accepted
    unread := if r.1 = 1 then fun i => i == r.2.iterPush || s.unread i else s.unread }

/-- The next step of the consumer. -/
def consumerStep (s : RingState α) : RingState α :=
  match s.pc with
  -- without enough packets the thread sleeps and asks again
  | .poll => if s.ring.hasEnoughPackets then { s with pc := .read } else s
  | .read => { s with pc := .move, taken := s.taken ++ [s.ring.getIterCalc] }
  | .move =>
    { s with
      pc := .poll
      ring := s.ring.moveIterCalc
      moved := s.moved + 1
      unread := fun i => i != s.ring.iterCalc && s.unread i }

/-- One step of either thread. -/
def step (s : RingState α) : RingOp α → RingState α
  | .pushBack pkt => s.pushStep pkt
  | .consumer => s.consumerStep

/-- A finite interleaving. -/
def run (s : RingState α) (ops : List (RingOp α)) : RingState α := ops.foldl step s

end RingState

end Hesai
