import Mathlib.Data.List.GetD

/-!
# Copies into a fixed buffer

A buffer is a function from indices; what it holds past the part that was written is
whatever it held before. `memcpy` copies the first `n` elements of a source and is
undefined (`none`) where it would leave the source or the buffer.
-/

namespace Buffer

variable {α : Type}

/-- The buffer `dst` after `src` is written to its start. -/
def overlay (dst : Nat → α) (src : List α) : Nat → α :=
  fun i => src.getD i (dst i)

/-- The written part reads back. -/
theorem map_overlay (dst : Nat → α) (src : List α) :
    (List.range src.length).map (overlay dst src) = src := by
  apply List.ext_getElem
  · rw [List.length_map, List.length_range]
  · intro i _ hi
    rw [List.getElem_map, List.getElem_range, overlay, List.getD_eq_getElem _ _ hi]

/-- Copy the first `n` elements of `src` to the start of a buffer of `capacity` cells. -/
def memcpy (capacity : Nat) (dst : Nat → α) (src : List α) (n : Nat) : Option (Nat → α) :=
  if n ≤ capacity ∧ n ≤ src.length then some (overlay dst (src.take n)) else none

variable {capacity n : Nat} {dst dst' : Nat → α} {src : List α}

/-- A copy that is defined stays inside both arrays, and its elements read back. -/
theorem map_of_memcpy_eq_some (h : memcpy capacity dst src n = some dst') :
    n ≤ capacity ∧ n ≤ src.length ∧ (List.range n).map dst' = src.take n := by
  unfold memcpy at h
  by_cases hfits : n ≤ capacity ∧ n ≤ src.length
  · rw [if_pos hfits] at h
    obtain rfl := Option.some.inj h
    -- the overlay is as long as what was asked for
    have hread := map_overlay dst (src.take n)
    rw [List.length_take_of_le hfits.2] at hread
    exact ⟨hfits.1, hfits.2, hread⟩
  · rw [if_neg hfits] at h
    exact absurd h (Option.some_ne_none _).symm

theorem memcpy_eq_none_iff :
    memcpy capacity dst src n = none ↔ ¬(n ≤ capacity ∧ n ≤ src.length) := by
  unfold memcpy
  by_cases hfits : n ≤ capacity ∧ n ≤ src.length <;> simp [hfits]

end Buffer
