import Mathlib.Algebra.Group.Nat.Defs

/-!
# Four bytes, high byte first

The number in four bytes (`ofBytesBE`), and that the four bytes of a number below
`2 ^ 32`, cut out by shifts, give it back (`ofBytesBE_shiftRight`).
-/

namespace BigEndian

/-- The number in four bytes, high byte first. -/
def ofBytesBE (b0 b1 b2 b3 : UInt8) : Nat :=
  b0.toNat <<< 24 ||| b1.toNat <<< 16 ||| b2.toNat <<< 8 ||| b3.toNat

/-- The four bytes do not overlap. -/
theorem ofBytesBE_eq_sum (b0 b1 b2 b3 : UInt8) :
    ofBytesBE b0 b1 b2 b3 =
      b0.toNat * 2 ^ 24 + b1.toNat * 2 ^ 16 + b2.toNat * 2 ^ 8 + b3.toNat := by
  have h1 : b1.toNat < 2 ^ 8 := b1.toNat_lt
  have h2 : b2.toNat < 2 ^ 8 := b2.toNat_lt
  have h3 : b3.toNat < 2 ^ 8 := b3.toNat_lt
  -- from the low byte up, each part is below the next shift
  have hlow : b2.toNat <<< 8 + b3.toNat < 2 ^ 16 := by
    rw [Nat.shiftLeft_eq]
    omega
  have hmiddle : b1.toNat <<< 16 + (b2.toNat <<< 8 + b3.toNat) < 2 ^ 24 := by
    rw [Nat.shiftLeft_eq b1.toNat]
    omega
  rw [ofBytesBE, Nat.or_assoc, Nat.or_assoc, ← Nat.shiftLeft_add_eq_or_of_lt h3,
    ← Nat.shiftLeft_add_eq_or_of_lt hlow, ← Nat.shiftLeft_add_eq_or_of_lt hmiddle]
  simp only [Nat.shiftLeft_eq]
  omega

/-- The bytes of a number of 32 bits give it back. -/
theorem ofBytesBE_shiftRight {n : Nat} (h : n < 2 ^ 32) :
    ofBytesBE (UInt8.ofNat (n >>> 24)) (UInt8.ofNat (n >>> 16)) (UInt8.ofNat (n >>> 8))
      (UInt8.ofNat n) = n := by
  rw [ofBytesBE_eq_sum]
  simp only [UInt8.toNat_ofNat', Nat.shiftRight_eq_div_pow]
  omega

end BigEndian
