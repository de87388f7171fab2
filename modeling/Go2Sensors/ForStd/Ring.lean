/-!
# Windows of a circular array

A circular array of `n` cells that is written in log order keeps the entry
number `k` of the log in cell `k % n` until the writer comes round again.
`Window n cells lo log` says that this is still so for every entry from number
`lo` on. The log and the cells are arbitrary: the lemmas below are what a proof
about a bounded queue needs, whatever the queue does to detect that it is full
or empty.
-/

namespace Ring

variable {α : Type}

/-- Every entry of `log` from number `lo` on still sits in its cell. -/
def Window (n : Nat) (cells : Nat → Option α) (lo : Nat) (log : List α) : Prop :=
  ∀ k, lo ≤ k → k < log.length → cells (k % n) = log[k]?

/-- Two entry numbers less than one turn apart are in different cells. -/
theorem mod_ne_of_lt {n k l : Nat} (hkl : k < l) (hl : l < k + n) : k % n ≠ l % n := by
  intro h
  have hd : n ∣ l - k := Nat.dvd_of_mod_eq_zero (Nat.sub_mod_eq_zero_of_mod_eq h.symm)
  have := Nat.le_of_dvd (by omega) hd
  omega

/-- The successor of a cell is the next cell, or cell `0` at the end of the array. -/
theorem succ_mod_eq {n k : Nat} (hn : 0 < n) :
    (k + 1) % n = if k % n + 1 = n then 0 else k % n + 1 := by
  have hlt := Nat.mod_lt k hn
  rw [Nat.add_mod]
  split
  · rename_i h
    obtain rfl | hn1 := Nat.eq_or_lt_of_le hn
    · simp [Nat.mod_one]
    · rw [Nat.mod_eq_of_lt hn1, h, Nat.mod_self]
  · rename_i h
    have hn1 : 1 < n := by omega
    rw [Nat.mod_eq_of_lt hn1, Nat.mod_eq_of_lt (by omega)]

namespace Window

variable {n lo lo' : Nat} {cells cells' : Nat → Option α} {log : List α} {x : α}

/-- Nothing is claimed about an empty log. -/
theorem nil : Window n cells lo ([] : List α) :=
  fun k _ hk => absurd hk (Nat.not_lt_zero k)

/-- The oldest entry of the window is read from its cell. -/
theorem read (h : Window n cells lo log) (hlo : lo < log.length) :
    cells (lo % n) = some log[lo] := by
  rw [h lo (Nat.le_refl lo) hlo, List.getElem?_eq_getElem hlo]

/-- Forgetting old entries keeps the window. -/
theorem advance (h : Window n cells lo log) (hle : lo ≤ lo') : Window n cells lo' log :=
  fun k hk hlt => h k (Nat.le_trans hle hk) hlt

/-- Writing the next entry keeps the window while it is shorter than the array:
    the cell written to is then not one of the cells in use. -/
theorem push (h : Window n cells lo log) (hlen : log.length < lo + n)
    (hnew : cells' (log.length % n) = some x)
    (hold : ∀ j, j ≠ log.length % n → cells' j = cells j) :
    Window n cells' lo (log ++ [x]) := by
  intro k hk hlt
  rw [List.length_append, List.length_singleton] at hlt
  rcases Nat.lt_succ_iff_lt_or_eq.mp hlt with hk' | rfl
  · rw [hold _ (mod_ne_of_lt hk' (by omega)), h k hk hk', List.getElem?_append_left hk']
  · rw [hnew, List.getElem?_concat_length]

end Window

end Ring
