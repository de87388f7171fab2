/-!
# A stream cut into chunks

Items arrive in order and are collected; from time to time the collection is closed
as a chunk, unless it is empty. Whatever the moments of closing, no item is lost,
duplicated or moved (`flatten_close`, `flatten_push`), and no chunk is empty.
-/

/-- The closed chunks, oldest first, and the items collected since. -/
structure Chunks (α : Type) where
  closed : List (List α)
  pending : List α

namespace Chunks

variable {α : Type}

/-- Nothing has arrived. -/
def empty : Chunks α := ⟨[], []⟩

/-- Close the collection as a chunk, unless it is empty. -/
def close (c : Chunks α) : Chunks α :=
  if c.pending.isEmpty then c else ⟨c.closed ++ [c.pending], []⟩

/-- Items arrive. -/
def push (c : Chunks α) (xs : List α) : Chunks α :=
  ⟨c.closed, c.pending ++ xs⟩

/-- All items, in the order of arrival. -/
def flatten (c : Chunks α) : List α := c.closed.flatten ++ c.pending

@[simp] theorem flatten_empty : (empty : Chunks α).flatten = [] := rfl

theorem close_of_pending_nil {c : Chunks α} (h : c.pending = []) : c.close = c := by
  rw [close, h, List.isEmpty_nil, if_pos rfl]

theorem close_of_pending_ne_nil {c : Chunks α} (h : c.pending ≠ []) :
    c.close = ⟨c.closed ++ [c.pending], []⟩ := by
  rw [close, if_neg (by simpa using h)]

/-- Nothing is left after closing. -/
@[simp] theorem pending_close (c : Chunks α) : c.close.pending = [] := by
  by_cases h : c.pending = []
  · rw [close_of_pending_nil h, h]
  · rw [close_of_pending_ne_nil h]

/-- Closing a chunk moves no item. -/
@[simp] theorem flatten_close (c : Chunks α) : c.close.flatten = c.flatten := by
  by_cases h : c.pending = []
  · rw [close_of_pending_nil h]
  · rw [close_of_pending_ne_nil h]
    simp [flatten]

/-- Items arrive at the end. -/
@[simp] theorem flatten_push (c : Chunks α) (xs : List α) :
    (c.push xs).flatten = c.flatten ++ xs := by
  simp [flatten, push]

end Chunks
