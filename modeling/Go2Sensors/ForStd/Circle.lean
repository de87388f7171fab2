import Mathlib.Data.Int.ModEq
import Mathlib.Tactic.Linarith
import Mathlib.Tactic.Ring

/-!
# Positions on a circle

`n` positions on a circle, numbered in the forward direction. `forward n a b` is the
rotation from `a` to `b`, and `Crosses n p c s` says that the rotation from `p` to `c`
steps over `s`: `s` lies in the arc from `p`, excluded, to `c`, included. A path that
makes one full turn steps over every position exactly once (`crossings_of_full_turn`).
-/

namespace Circle

/-- The forward rotation from `a` to `b`. -/
def forward (n a b : Nat) : Int := ((b : Int) - a) % n

variable {n a b p c s : Nat}

theorem forward_of_le (h : a ≤ b) (hb : b < n) : forward n a b = b - a :=
  Int.emod_eq_of_lt (by omega) (by omega)

theorem forward_of_lt (h : b < a) (ha : a < n) : forward n a b = b - a + n := by
  rw [forward, ← Int.add_emod_right]
  exact Int.emod_eq_of_lt (by omega) (by omega)

/-- The rotation from `p` to `c` steps over `s`. -/
def Crosses (n p c s : Nat) : Prop :=
  0 < forward n p s ∧ forward n p s ≤ forward n p c

instance : Decidable (Crosses n p c s) :=
  inferInstanceAs (Decidable (_ ∧ _))

/-- A rotation that does not pass position `0`. -/
theorem crosses_iff_of_le (h : p ≤ c) (hc : c < n) (hs : s < n) :
    Crosses n p c s ↔ p < s ∧ s ≤ c := by
  rw [Crosses, forward_of_le h hc]
  rcases Nat.lt_or_ge s p with hlt | hge
  · rw [forward_of_lt hlt (by omega)]
    omega
  · rw [forward_of_le hge hs]
    omega

/-- A rotation that passes position `0`. -/
theorem crosses_iff_of_lt (h : c < p) (hp : p < n) (hs : s < n) :
    Crosses n p c s ↔ p < s ∨ s ≤ c := by
  rw [Crosses, forward_of_lt h hp]
  rcases Nat.lt_or_ge s p with hlt | hge
  · rw [forward_of_lt hlt hp]
    omega
  · rw [forward_of_le hge hs]
    omega

/-! ## Full turns -/

/-- The rotation from `a` until `s` is stepped over: a full turn if `a` is at `s`. -/
def toNext (n s a : Nat) : Int := if a = s then n else forward n a s

/-- The total rotation of a path. -/
def rotation (n : Nat) : List Nat → Int
  | a :: b :: path => forward n a b + rotation n (b :: path)
  | _ => 0

/-- How often a path steps over `s`. -/
def crossings (n s : Nat) : List Nat → Nat
  | a :: b :: path => (if Crosses n a b s then 1 else 0) + crossings n s (b :: path)
  | _ => 0

/-- A rotation brings the next crossing nearer, by a full turn if it steps over `s`. -/
theorem toNext_add (hp : p < n) (hc : c < n) (hs : s < n) :
    forward n p c + toNext n s c =
      toNext n s p + if Crosses n p c s then (n : Int) else 0 := by
  unfold toNext
  rcases Nat.lt_or_ge c p with hlt | hge
  · simp only [crosses_iff_of_lt hlt hp hs, forward_of_lt hlt hp]
    rcases Nat.lt_or_ge s c with hsc | hsc
    · rw [forward_of_lt hsc hc, forward_of_lt (by omega) hp]
      split_ifs <;> omega
    · rw [forward_of_le hsc hs]
      rcases Nat.lt_or_ge s p with hsp | hsp
      · rw [forward_of_lt hsp hp]
        split_ifs <;> omega
      · rw [forward_of_le hsp hs]
        split_ifs <;> omega
  · simp only [crosses_iff_of_le hge hc hs, forward_of_le hge hc]
    rcases Nat.lt_or_ge s p with hsp | hsp
    · rw [forward_of_lt hsp hp, forward_of_lt (by omega) hc]
      split_ifs <;> omega
    · rw [forward_of_le hsp hs]
      rcases Nat.lt_or_ge s c with hsc | hsc
      · rw [forward_of_lt hsc hc]
        split_ifs <;> omega
      · rw [forward_of_le hsc hs]
        split_ifs <;> omega

/-- The rotation of a path in terms of its crossings. -/
theorem rotation_add (hs : s < n) (path : List Nat) (hpath : ∀ b ∈ a :: path, b < n) :
    rotation n (a :: path) + toNext n s ((a :: path).getLast (List.cons_ne_nil _ _)) =
      toNext n s a + n * crossings n s (a :: path) := by
  induction path generalizing a with
  | nil => simp [rotation, crossings]
  | cons b path ih =>
    have ha := hpath a List.mem_cons_self
    have hb := hpath b (List.mem_cons_of_mem _ List.mem_cons_self)
    have hrest := ih fun x hx => hpath x (List.mem_cons_of_mem _ hx)
    -- each rotation adds its own crossing
    have hfirst := toNext_add ha hb hs
    rw [rotation, crossings, List.getLast_cons (List.cons_ne_nil _ _)]
    push_cast
    rw [mul_add]
    split_ifs at hfirst ⊢ <;> linarith

/-- A path that makes one full turn steps over every position exactly once. -/
theorem crossings_of_full_turn (hs : s < n) (path : List Nat) (hpath : ∀ b ∈ a :: path, b < n)
    (hclosed : (a :: path).getLast (List.cons_ne_nil _ _) = a)
    (hturn : rotation n (a :: path) = n) : crossings n s (a :: path) = 1 := by
  have hsum := rotation_add hs path hpath
  rw [hclosed, hturn] at hsum
  have hn : (n : Int) ≠ 0 := by omega
  -- the distance to `s` is the same at both ends of a closed path
  have hone : (n : Int) * crossings n s (a :: path) = n * 1 := by linarith
  exact_mod_cast mul_left_cancel₀ hn hone

end Circle
