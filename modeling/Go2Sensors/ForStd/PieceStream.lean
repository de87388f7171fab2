/-!
# A stream that arrives in pieces

A stream of items up to its end, and a schedule that says what each call of `read`
meets: an interruption, an error, or at least one item but not more than some number.
When the schedule is used up, a call gets all it asks for that is left. A call that
gets no item has reached the end.

## Key results

- `read_items`: what a call gets, and what it leaves
-/

/-- What a call of `read` meets. -/
inductive Arrival where
  | interrupted
  | failed
  /-- at most `k + 1` items have arrived -/
  | upTo (k : Nat)
deriving DecidableEq

/-- The items up to the end of the stream, and how they arrive. -/
structure PieceStream (α : Type) where
  items : List α
  schedule : List Arrival

/-- The result of a call of `read`. -/
inductive Piece (α : Type) where
  | interrupted
  | failed
  | items (xs : List α)

namespace PieceStream

variable {α : Type}

/-- Take at most `n` items from the front. -/
def takeItems (c : PieceStream α) (n : Nat) (schedule : List Arrival) :
    Piece α × PieceStream α :=
  (.items (c.items.take n), ⟨c.items.drop n, schedule⟩)

/-- A call that asks for `n` items. -/
def read (c : PieceStream α) (n : Nat) : Piece α × PieceStream α :=
  match c.schedule with
  | [] => c.takeItems n []
  | .interrupted :: schedule => (.interrupted, ⟨c.items, schedule⟩)
  | .failed :: schedule => (.failed, ⟨c.items, schedule⟩)
  | .upTo k :: schedule => c.takeItems (min n (k + 1)) schedule

/-- No call of the schedule meets an error. -/
def NeverFails (c : PieceStream α) : Prop := .failed ∉ c.schedule

variable {c c' : PieceStream α} {n : Nat}

/-- An interruption uses up an entry of the schedule and no item. -/
theorem read_interrupted (h : c.read n = (.interrupted, c')) :
    c'.items = c.items ∧ c'.schedule.length < c.schedule.length ∧
      (c.NeverFails → c'.NeverFails) := by
  obtain ⟨items, schedule⟩ := c
  cases schedule with
  | nil => simp [read, takeItems] at h
  | cons arrival schedule =>
    cases arrival with
    | interrupted =>
      -- the only kind of entry that makes an interruption
      obtain rfl := (Prod.mk.inj h).2
      exact ⟨rfl, Nat.lt_succ_self _, fun hc hmem => hc (List.mem_cons_of_mem _ hmem)⟩
    | failed => simp [read] at h
    | upTo k => simp [read, takeItems] at h

/-- A call fails only where the schedule has an error. -/
theorem read_failed (h : c.read n = (.failed, c')) : ¬c.NeverFails := by
  obtain ⟨items, schedule⟩ := c
  cases schedule with
  | nil => simp [read, takeItems] at h
  | cons arrival schedule =>
    cases arrival with
    | interrupted => simp [read] at h
    | failed => exact fun hc => hc List.mem_cons_self
    | upTo k => simp [read, takeItems] at h

/-- Taking at most `k` items from the front, at least one if there is one. -/
theorem takeItems_spec (c : PieceStream α) (k : Nat) (schedule : List Arrival) :
    c.items = c.items.take k ++ (c.takeItems k schedule).2.items ∧
      (c.items.take k).length ≤ k ∧ (0 < k → c.items.take k = [] → c.items = []) := by
  refine ⟨(List.take_append_drop k c.items).symm, List.length_take_le _ _, fun hk hnone => ?_⟩
  rcases List.take_eq_nil_iff.mp hnone with hzero | hend
  · omega
  · exact hend

/-- The items that a call gets are the first ones, and the others are left. A call that
    asks for items gets none only at the end. -/
theorem read_items {xs : List α} (h : c.read n = (.items xs, c')) :
    c.items = xs ++ c'.items ∧ xs.length ≤ n ∧ (0 < n → xs = [] → c.items = []) ∧
      c'.schedule.length ≤ c.schedule.length ∧ (c.NeverFails → c'.NeverFails) := by
  obtain ⟨items, schedule⟩ := c
  cases schedule with
  | nil =>
    -- after the schedule a call gets what it asks for
    obtain ⟨hxs, rfl⟩ := Prod.mk.inj h
    obtain rfl := Piece.items.inj hxs
    obtain ⟨hsplit, hlength, hend⟩ := takeItems_spec ⟨items, []⟩ n []
    exact ⟨hsplit, hlength, hend, Nat.le_refl _, id⟩
  | cons arrival schedule =>
    cases arrival with
    | interrupted => simp [read] at h
    | failed => simp [read] at h
    | upTo k =>
      -- at most k + 1 items have arrived, and at least one
      obtain ⟨hxs, rfl⟩ := Prod.mk.inj h
      obtain rfl := Piece.items.inj hxs
      obtain ⟨hsplit, hlength, hend⟩ :=
        takeItems_spec ⟨items, .upTo k :: schedule⟩ (min n (k + 1)) schedule
      refine ⟨hsplit, Nat.le_trans hlength (Nat.min_le_left _ _), fun hn => hend (by omega),
        Nat.le_succ _, fun hc hmem => hc (List.mem_cons_of_mem _ hmem)⟩

end PieceStream
