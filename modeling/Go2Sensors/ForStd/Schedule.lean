import Mathlib.Algebra.Order.Group.Defs
import Mathlib.Tactic.Abel

/-!
# Schedules

Events that carry the time of one clock are repeated on another clock. The first event fixes
the shift between the two clocks, and with it the time at which every other event is due.
Whoever repeats the events need not keep the shift: the due time of the last event and the
difference to the next one do (`due_eq_add_sub`). An event is not released before it is due,
and on time unless it is already late.
-/

/-- The first event: when it was repeated, and its own time. -/
structure Schedule (T : Type) where
  origin : T
  first : T

namespace Schedule

variable {T : Type} [AddCommGroup T]

/-- When an event of time `t` is due. -/
def due (c : Schedule T) (t : T) : T := c.origin + (t - c.first)

variable {c : Schedule T} {t t' now : T}

theorem due_first : c.due c.first = c.origin := by
  rw [due, sub_self, add_zero]

/-- Due times differ as the times of the events do. -/
theorem due_eq_add_sub (t t' : T) : c.due t' = c.due t + (t' - t) := by
  unfold due
  abel

/-- What is left of a difference when some of it has already passed. -/
theorem due_sub_eq (t t' now : T) : c.due t' - now = (t' - t) - (now - c.due t) := by
  rw [due_eq_add_sub t t']
  abel

variable [LinearOrder T]

/-- When an event of time `t` is released by someone who comes to it at `now`. -/
def release (c : Schedule T) (now t : T) : T := max now (c.due t)

theorem due_le_release : c.due t ≤ c.release now t := le_max_right now (c.due t)

/-- On time, unless it is late. -/
theorem release_of_le (h : now ≤ c.due t) : c.release now t = c.due t := max_eq_right h

variable [IsOrderedAddMonoid T]

/-- Released after what is left, if anything is left. -/
theorem release_eq_ite :
    c.release now t = if 0 < c.due t - now then now + (c.due t - now) else now := by
  split
  · next hleft =>
    rw [add_sub_cancel, release_of_le (sub_pos.mp hleft).le]
  · next hlate =>
    rw [sub_pos, not_lt] at hlate
    exact max_eq_left hlate

end Schedule
