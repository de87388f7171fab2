import Mathlib.Data.List.Basic
import Mathlib.Data.List.Flatten

/-!
# Stable grouping by a key

`byKey key n xs` lists the items of key `0`, then those of key `1`, and so on below
`n`. If all keys are below `n` this is a stable grouping of the items: sorted by key,
and the items of each key in the order in which they stood (`isStableGrouping_byKey`).
-/

namespace Grouping

variable {α : Type} {key : α → Nat}

/-- `ys` lists the items of `xs` key by key, those of one key in their old order. -/
structure IsStableGrouping (key : α → Nat) (xs ys : List α) : Prop where
  sorted : ys.Pairwise fun a b => key a ≤ key b
  order : ∀ k, ys.filter (key · = k) = xs.filter (key · = k)

/-- The items of the keys below `n`, key by key. -/
def byKey (key : α → Nat) (n : Nat) (xs : List α) : List α :=
  (List.range n).flatMap fun k => xs.filter (key · = k)

theorem byKey_succ (n : Nat) (xs : List α) :
    byKey key (n + 1) xs = byKey key n xs ++ xs.filter (key · = n) := by
  rw [byKey, List.range_succ, List.flatMap_append, List.flatMap_singleton]
  rfl

/-- Only items of keys below `n` are listed. -/
theorem key_lt_of_mem_byKey {n : Nat} {xs : List α} {x : α} (h : x ∈ byKey key n xs) :
    key x < n := by
  obtain ⟨k, hk, hx⟩ := List.mem_flatMap.mp h
  have hkey : key x = k := by simpa using (List.mem_filter.mp hx).2
  rw [hkey]
  exact List.mem_range.mp hk

/-- Sorted by key. -/
theorem pairwise_byKey (n : Nat) (xs : List α) :
    (byKey key n xs).Pairwise fun a b => key a ≤ key b := by
  induction n with
  | zero => exact List.Pairwise.nil
  | succ n ih =>
    rw [byKey_succ, List.pairwise_append]
    refine ⟨ih, ?_, ?_⟩
    · -- all items of the last group have key `n`
      apply List.pairwise_of_forall_mem_list
      intro a ha b hb
      have hkeya : key a = n := by simpa using (List.mem_filter.mp ha).2
      have hkeyb : key b = n := by simpa using (List.mem_filter.mp hb).2
      omega
    · intro a ha b hb
      have hlt := key_lt_of_mem_byKey ha
      have hkeyb : key b = n := by simpa using (List.mem_filter.mp hb).2
      omega

/-- The items of a key below `n` keep their order. -/
theorem filter_byKey (n k : Nat) (xs : List α) :
    (byKey key n xs).filter (key · = k) = if k < n then xs.filter (key · = k) else [] := by
  induction n with
  | zero => rfl
  | succ n ih =>
    rw [byKey_succ, List.filter_append, ih, List.filter_filter]
    by_cases hk : k = n
    · subst hk
      simp
    · have hnone : xs.filter (fun x => decide (key x = k) && decide (key x = n)) = [] := by
        rw [List.filter_eq_nil_iff]
        intro x _
        simp only [Bool.and_eq_true, decide_eq_true_eq]
        omega
      rw [hnone, List.append_nil]
      by_cases hlt : k < n
      · rw [if_pos hlt, if_pos (by omega)]
      · rw [if_neg hlt, if_neg (by omega)]

/-- The first item of groups listed one after the other is the first item of the first
    group that has one. -/
theorem head?_flatMap_range {f : Nat → List α} {n : Nat} {x : α} :
    ((List.range n).flatMap f).head? = some x ↔
      ∃ i < n, (∀ j < i, f j = []) ∧ (f i).head? = some x := by
  induction n with
  | zero => simp
  | succ n ih =>
    rw [List.range_succ, List.flatMap_append, List.flatMap_singleton, List.head?_append]
    cases hhead : ((List.range n).flatMap f).head? with
    | some y =>
      rw [Option.some_or, ← hhead, ih]
      constructor
      · rintro ⟨i, hi, hbefore, hx⟩
        exact ⟨i, by omega, hbefore, hx⟩
      · rintro ⟨i, hi, hbefore, hx⟩
        refine ⟨i, Nat.lt_of_le_of_ne (by omega) ?_, hbefore, hx⟩
        -- not all groups below `n` are empty
        rintro rfl
        have hnone : (List.range i).flatMap f = [] := by
          simpa [List.flatMap_eq_nil_iff] using hbefore
        rw [hnone] at hhead
        exact absurd hhead (by simp)
    | none =>
      have hnone : ∀ j < n, f j = [] := by
        simpa [List.head?_eq_none_iff, List.flatMap_eq_nil_iff] using hhead
      rw [Option.none_or]
      constructor
      · intro hx
        exact ⟨n, by omega, hnone, hx⟩
      · rintro ⟨i, hi, -, hx⟩
        by_cases hin : i < n
        · rw [hnone i hin] at hx
          exact absurd hx (by simp)
        · rwa [show n = i by omega]

/-- If all keys are below `n`, nothing is left out. -/
theorem isStableGrouping_byKey {n : Nat} {xs : List α} (h : ∀ x ∈ xs, key x < n) :
    IsStableGrouping key xs (byKey key n xs) where
  sorted := pairwise_byKey n xs
  order k := by
    rw [filter_byKey]
    split
    · rfl
    · rename_i hk
      symm
      rw [List.filter_eq_nil_iff]
      intro x hx
      have := h x hx
      simp only [decide_eq_true_eq]
      omega

end Grouping
