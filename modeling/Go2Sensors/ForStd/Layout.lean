import Mathlib.Algebra.Group.Nat.Defs
import Mathlib.Data.List.GetD
import Go2Sensors.ForStd.Buffer

/-!
# Bytes at a place

The layout of a message says which bytes stand where, and leaves some places open (`none`).
`At` is the relation between a memory and a layout; it takes a concatenation apart into its
parts at their places. A number is laid out low byte first by `bytesLE`, and `ofBytesLE` reads
it back.

## Key results

- `at_append`, `at_records`: the parts of a layout at their places
- `ofBytesLE_bytesLE`, `bytesLE_ofBytesLE`: a number and its bytes
-/

namespace Layout

variable {α : Type}

/-! ## Places -/

/-- The layout stands in the memory from `index` on. -/
def At (data : Nat → α) (index : Nat) (xs : List (Option α)) : Prop :=
  ∀ k x, xs[k]? = some (some x) → data (index + k) = x

variable {data : Nat → α} {index : Nat} {x : α} {xs ys : List (Option α)}

@[simp] theorem at_nil : At data index [] :=
  fun _ _ hk => absurd hk (Option.some_ne_none _).symm

/-- The first place and the rest. -/
theorem at_cons {place : Option α} :
    At data index (place :: xs) ↔
      (∀ x, place = some x → data index = x) ∧ At data (index + 1) xs := by
  constructor
  · intro h
    refine ⟨fun x hx => h 0 x (by rw [hx]; rfl), fun k x hk => ?_⟩
    have hnext := h (k + 1) x hk
    rwa [show index + (k + 1) = index + 1 + k by omega] at hnext
  · rintro ⟨hfirst, hrest⟩ k x hk
    cases k with
    | zero => exact hfirst x (Option.some.inj hk)
    | succ k =>
      have hnext := hrest k x hk
      rwa [show index + 1 + k = index + (k + 1) by omega] at hnext

/-- A place with an element. -/
@[simp] theorem at_cons_some :
    At data index (some x :: xs) ↔ data index = x ∧ At data (index + 1) xs := by
  simp [at_cons]

/-- An open place. -/
@[simp] theorem at_cons_none : At data index (none :: xs) ↔ At data (index + 1) xs := by
  simp [at_cons]

/-- The two parts of a concatenation. -/
theorem at_append :
    At data index (xs ++ ys) ↔ At data index xs ∧ At data (index + xs.length) ys := by
  induction xs generalizing index with
  | nil => simp
  | cons place xs ih =>
    simp only [List.cons_append, at_cons, ih, List.length_cons, and_assoc]
    rw [show index + 1 + xs.length = index + (xs.length + 1) by omega]

/-- A part of a layout. -/
theorem At.part {offset : Nat} (h : At data index xs)
    (hpart : ∀ k x, ys[k]? = some (some x) → xs[offset + k]? = some (some x)) :
    At data (index + offset) ys := by
  intro k x hk
  rw [Nat.add_assoc]
  exact h (offset + k) x (hpart k x hk)

/-! ## Messages -/

/-- The message has the layout. -/
def Fits (message : List α) (xs : List (Option α)) : Prop :=
  ∀ (k : Nat) (x : α), xs[k]? = some (some x) → message[k]? = some x

/-- A message that is written to the start of a buffer stands there. -/
theorem Fits.at_overlay {message : List α} (h : Fits message xs) (dst : Nat → α) :
    At (Buffer.overlay dst message) 0 xs := by
  intro k x hk
  rw [Nat.zero_add, Buffer.overlay, List.getD_eq_getElem?_getD, h k x hk, Option.getD_some]

/-! ## Filling up -/

/-- Leave places open up to the length `n`. -/
def pad (n : Nat) (xs : List (Option α)) : List (Option α) :=
  xs ++ List.replicate (n - xs.length) none

theorem length_pad {n : Nat} (h : xs.length ≤ n) : (pad n xs).length = n := by
  simp only [pad, List.length_append, List.length_replicate]
  omega

/-- Open places ask for nothing. -/
theorem at_replicate_none (n : Nat) : At data index (List.replicate n none) := by
  induction n generalizing index with
  | zero => exact at_nil
  | succ n ih => exact at_cons_none.mpr ih

/-- What is filled up keeps its place. -/
theorem at_pad {n : Nat} : At data index (pad n xs) ↔ At data index xs := by
  rw [pad, at_append]
  exact and_iff_left (at_replicate_none _)

/-- A message with the open places filled. -/
theorem fits_pad (n : Nat) (xs : List (Option α)) (x : α) :
    Fits ((pad n xs).map (·.getD x)) xs := by
  intro k y hk
  have hlt := (List.getElem?_eq_some_iff.mp hk).1
  rw [List.getElem?_map, pad, List.getElem?_append_left hlt, hk]
  rfl

/-! ## Records -/

/-- Records of one length take that many places each. -/
theorem length_records {β : Type} {record : β → List α} {n : Nat} {bs : List β}
    (h : ∀ b ∈ bs, (record b).length = n) : (bs.flatMap record).length = bs.length * n := by
  induction bs with
  | nil => simp
  | cons b bs ih =>
    rw [List.flatMap_cons, List.length_append, h b List.mem_cons_self,
      ih fun b hb => h b (List.mem_cons_of_mem _ hb), List.length_cons, Nat.succ_mul, Nat.add_comm]

/-- Each record stands at its place. -/
theorem at_records {β : Type} {record : β → List (Option α)} {n : Nat} {read : Nat → β}
    (count : Nat) (hlength : ∀ i < count, (record (read i)).length = n)
    (h : ∀ i < count, At data (index + i * n) (record (read i))) :
    At data index (((List.range count).map read).flatMap record) := by
  induction count with
  | zero => exact at_nil
  | succ count ih =>
    have hbefore : (((List.range count).map read).flatMap record).length = count * n := by
      rw [length_records (n := n), List.length_map, List.length_range]
      intro b hb
      obtain ⟨i, hi, rfl⟩ := List.mem_map.mp hb
      exact hlength i (Nat.lt_succ_of_lt (List.mem_range.mp hi))
    rw [List.range_succ, List.map_append, List.flatMap_append, at_append, hbefore,
      List.map_singleton, List.flatMap_singleton]
    exact ⟨ih (fun i hi => hlength i (Nat.lt_succ_of_lt hi))
      fun i hi => h i (Nat.lt_succ_of_lt hi), h count (Nat.lt_succ_self count)⟩

/-- The elements of a part of the memory. -/
def slice (data : Nat → α) (index n : Nat) : List α :=
  (List.range n).map fun k => data (index + k)

@[simp] theorem length_slice (data : Nat → α) (index n : Nat) :
    (slice data index n).length = n := by
  simp [slice]

theorem getElem?_slice {n k : Nat} (hk : k < n) :
    (slice data index n)[k]? = some (data (index + k)) := by
  rw [slice, List.getElem?_map, List.getElem?_range hk, Option.map_some]

/-- They stand where they were read. -/
theorem at_slice (n : Nat) : At data index ((slice data index n).map some) := by
  intro k x hk
  have hlt := (List.getElem?_eq_some_iff.mp hk).1
  rw [List.length_map, length_slice] at hlt
  rw [List.getElem?_map, getElem?_slice hlt] at hk
  exact Option.some.inj (Option.some.inj hk)

/-! ## Numbers -/

/-- The lowest `k` bytes of a number, low byte first. -/
def bytesLE : (k n : Nat) → List UInt8
  | 0, _ => []
  | k + 1, n => UInt8.ofNat n :: bytesLE k (n >>> 8)

/-- The number in some bytes, low byte first. -/
def ofBytesLE : List UInt8 → Nat
  | [] => 0
  | b :: bytes => b.toNat ||| ofBytesLE bytes <<< 8

@[simp] theorem length_bytesLE (k n : Nat) : (bytesLE k n).length = k := by
  induction k generalizing n with
  | zero => rfl
  | succ k ih => simp [bytesLE, ih]

/-- The lowest bytes of a number give it back, modulo what they can hold. -/
theorem ofBytesLE_bytesLE (k n : Nat) : ofBytesLE (bytesLE k n) = n % 2 ^ (8 * k) := by
  induction k generalizing n with
  | zero => simp [bytesLE, ofBytesLE, Nat.mod_one]
  | succ k ih =>
    have hbyte : n % 256 < 2 ^ 8 := Nat.mod_lt n (by decide)
    have hpow : 2 ^ (8 * (k + 1)) = 256 * 2 ^ (8 * k) := by
      rw [Nat.mul_succ, Nat.pow_add, Nat.mul_comm]
    -- the low byte does not overlap with the others
    rw [bytesLE, ofBytesLE, ih, UInt8.toNat_ofNat', Nat.or_comm,
      ← Nat.shiftLeft_add_eq_or_of_lt hbyte, Nat.shiftLeft_eq, Nat.shiftRight_eq_div_pow, hpow,
      Nat.mod_mul, show 2 ^ 8 = 256 from rfl]
    omega

/-- A number of `8 k` bits is read back. -/
theorem ofBytesLE_bytesLE_of_lt {k n : Nat} (h : n < 2 ^ (8 * k)) :
    ofBytesLE (bytesLE k n) = n := by
  rw [ofBytesLE_bytesLE, Nat.mod_eq_of_lt h]

/-- The low byte and the others. -/
theorem ofBytesLE_cons (b : UInt8) (bytes : List UInt8) :
    ofBytesLE (b :: bytes) = b.toNat + 256 * ofBytesLE bytes := by
  have hbyte : b.toNat < 2 ^ 8 := b.toNat_lt
  rw [ofBytesLE, Nat.or_comm, ← Nat.shiftLeft_add_eq_or_of_lt hbyte, Nat.shiftLeft_eq]
  omega

theorem ofBytesLE_lt (bytes : List UInt8) : ofBytesLE bytes < 2 ^ (8 * bytes.length) := by
  induction bytes with
  | nil => decide
  | cons b bytes ih =>
    have hbyte : b.toNat < 2 ^ 8 := b.toNat_lt
    rw [ofBytesLE_cons, List.length_cons, Nat.mul_succ, Nat.pow_add]
    omega

/-- The bytes of a number that was read are those that were read. -/
theorem bytesLE_ofBytesLE (bytes : List UInt8) :
    bytesLE bytes.length (ofBytesLE bytes) = bytes := by
  induction bytes with
  | nil => rfl
  | cons b bytes ih =>
    have hlow : UInt8.ofNat (b.toNat + 256 * ofBytesLE bytes) = b := by
      apply UInt8.toNat_inj.mp
      have hbyte : b.toNat < 256 := b.toNat_lt
      rw [UInt8.toNat_ofNat']
      omega
    have hhigh : (b.toNat + 256 * ofBytesLE bytes) >>> 8 = ofBytesLE bytes := by
      have hbyte : b.toNat < 256 := b.toNat_lt
      rw [Nat.shiftRight_eq_div_pow]
      omega
    rw [List.length_cons, bytesLE, ofBytesLE_cons, hlow, hhigh, ih]

end Layout
