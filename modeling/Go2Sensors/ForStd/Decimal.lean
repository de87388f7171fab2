import Mathlib.Algebra.Group.Nat.Defs
import Mathlib.Data.Int.Log
import Mathlib.Data.List.Induction
import Mathlib.Data.List.TakeWhile
import Mathlib.Data.Nat.Log
import Mathlib.Data.Rat.Floor
import Mathlib.Tactic.NormNum

/-!
# Decimal numbers as text

The two directions between numbers and text that C and C++ programs use: the
conversion `%g` with six significant digits, which is also what a stream prints by
default (`Decimal.format`), and the numbers at the start of a text that a stream reads
(`scanDouble`, `scanInt`).

## Key results

- `scanDouble_format`: a printed decimal in the range of `double` is read back
-/

/-- `mantissa * 10 ^ exponent`, with a sign. -/
structure Decimal where
  negative : Bool
  mantissa : Nat
  exponent : Int
deriving DecidableEq

namespace Decimal

/-! ## Digits -/

/-- The digit `d < 10`. -/
def digitChar (d : Nat) : Char := Char.ofNat (48 + d)

/-- The number in a sequence of digits. -/
def ofDigits (ds : List Char) : Nat := ds.foldl (fun n c => 10 * n + (c.toNat - 48)) 0

/-- The last `width` digits of `n`. -/
def digits : (width n : Nat) → List Char
  | 0, _ => []
  | width + 1, n => digits width (n / 10) ++ [digitChar (n % 10)]

/-- The number of digits of `n`. -/
def numDigits (n : Nat) : Nat := Nat.log 10 n + 1

theorem digitChar_isDigit : ∀ d < 10, (digitChar d).isDigit = true := by decide

theorem digitChar_value : ∀ d < 10, (digitChar d).toNat - 48 = d := by decide

@[simp] theorem length_digits (width n : Nat) : (digits width n).length = width := by
  induction width generalizing n with
  | zero => rfl
  | succ width ih => rw [digits, List.length_append, ih, List.length_singleton]

theorem isDigit_of_mem_digits {width n : Nat} {c : Char} (h : c ∈ digits width n) :
    c.isDigit = true := by
  induction width generalizing n with
  | zero => exact absurd h List.not_mem_nil
  | succ width ih =>
    rcases List.mem_append.mp h with hinit | hlast
    · exact ih hinit
    · rw [List.mem_singleton.mp hlast]
      exact digitChar_isDigit _ (Nat.mod_lt _ (by decide))

theorem ofDigits_append_singleton (ds : List Char) (c : Char) :
    ofDigits (ds ++ [c]) = 10 * ofDigits ds + (c.toNat - 48) := by
  rw [ofDigits, List.foldl_append]
  rfl

/-- The digits of a number with at most `width` digits give it back. -/
theorem ofDigits_digits {width n : Nat} (h : n < 10 ^ width) : ofDigits (digits width n) = n := by
  induction width generalizing n with
  | zero =>
    rw [Nat.pow_zero] at h
    obtain rfl : n = 0 := by omega
    rfl
  | succ width ih =>
    rw [Nat.pow_succ] at h
    rw [digits, ofDigits_append_singleton, ih (by omega),
      digitChar_value _ (Nat.mod_lt _ (by decide))]
    omega

/-- Digits after a number move it to the left. -/
theorem ofDigits_append (ds es : List Char) :
    ofDigits (ds ++ es) = ofDigits ds * 10 ^ es.length + ofDigits es := by
  induction es using List.reverseRecOn with
  | nil => simp [ofDigits]
  | append_singleton es c ih =>
    rw [← List.append_assoc, ofDigits_append_singleton, ih, ofDigits_append_singleton,
      List.length_append, List.length_singleton, Nat.pow_succ]
    grind

theorem ofDigits_replicate_zero (k : Nat) : ofDigits (List.replicate k '0') = 0 := by
  induction k with
  | zero => rfl
  | succ k ih =>
    rw [List.replicate_succ', ofDigits_append_singleton, ih]
    rfl

theorem lt_pow_numDigits (n : Nat) : n < 10 ^ numDigits n :=
  Nat.lt_pow_succ_log_self (by decide) n

/-! ## Values -/

/-- `m * 10 ^ e`. -/
def scale (m : Nat) (e : Int) : Rat :=
  if 0 ≤ e then m * 10 ^ e.toNat else m / 10 ^ (-e).toNat

/-- The sign of a number. -/
def signed (negative : Bool) (q : Rat) : Rat := if negative then -q else q

/-- The number. -/
def value (d : Decimal) : Rat := signed d.negative (scale d.mantissa d.exponent)

theorem scale_zero (e : Int) : scale 0 e = 0 := by
  unfold scale
  split <;> simp

/-- A shift to the left is a power of ten. -/
theorem scale_mul_pow (m k : Nat) : scale (m * 10 ^ k) 0 = scale m k := by
  simp [scale]

/-! ## Reading -/

/-- What reading a number from a text does to the variable: nothing if there is no text,
    and where reading fails a value is stored all the same. -/
inductive Scan (α : Type) where
  | untouched
  | failed (stored : α)
  | read (value : α)
deriving DecidableEq

/-- The variable afterwards. -/
def Scan.store {α : Type} (old : α) : Scan α → α
  | untouched => old
  | failed stored => stored
  | read value => value

/-- What is stored after a conversion. -/
def Scan.map {α β : Type} (f : α → β) : Scan α → Scan β
  | untouched => .untouched
  | failed stored => .failed (f stored)
  | read value => .read (f value)

/-- `isspace`. -/
def isSpace (c : Char) : Bool := c = ' ' || ('\t' ≤ c && c ≤ '\r')

/-- An optional sign, and the text after it. -/
def scanSign : List Char → Bool × List Char
  | '-' :: rest => (true, rest)
  | '+' :: rest => (false, rest)
  | text => (false, text)

/-- The digits after a decimal point, and the text after them. -/
def scanFraction : List Char → List Char × List Char
  | '.' :: rest => (rest.takeWhile Char.isDigit, rest.dropWhile Char.isDigit)
  | text => ([], text)

/-- The exponent, `none` if there is an `e` without one. -/
def scanExponent : List Char → Option Int
  | c :: rest =>
    if c = 'e' ∨ c = 'E' then
      let (negative, rest) := scanSign rest
      let ds := rest.takeWhile Char.isDigit
      if ds = [] then none else some (if negative then -ofDigits ds else ofDigits ds)
    else some 0
  | [] => some 0

/-- A number after its sign: digits, a fraction and an exponent. What follows is ignored. -/
def scanUnsigned (text : List Char) : Option Rat :=
  let int := text.takeWhile Char.isDigit
  let (frac, rest) := scanFraction (text.dropWhile Char.isDigit)
  if int = [] ∧ frac = [] then none
  else (scanExponent rest).map fun e => scale (ofDigits (int ++ frac)) (e - frac.length)

/-- The largest `double`. -/
def doubleMax : Nat := (2 ^ 53 - 1) * 2 ^ 971

/-- The first number that is rounded to infinity and not to `doubleMax`. -/
def doubleOverflow : Nat := (2 ^ 54 - 1) * 2 ^ 970

/-- `stream >> x` for a `double`: the number at the start of the text, exactly. A number beyond
    the range of `double` is not read, and the largest `double` is stored for it. -/
def scanDouble (text : List Char) : Scan Rat :=
  let text := text.dropWhile isSpace
  if text = [] then .untouched
  else
    let (negative, text) := scanSign text
    match scanUnsigned text with
    | none => .failed 0
    | some q =>
      if q < doubleOverflow then .read (signed negative q)
      else .failed (signed negative doubleMax)

/-- `stream >> n` for an `int`. -/
def scanInt (text : List Char) : Scan Int :=
  let text := text.dropWhile isSpace
  if text = [] then .untouched
  else
    let (negative, text) := scanSign text
    let ds := text.takeWhile Char.isDigit
    let n : Int := if negative then -ofDigits ds else ofDigits ds
    if ds = [] then .failed 0
    else if n < -2 ^ 31 then .failed (-2 ^ 31)
    else if n ≥ 2 ^ 31 then .failed (2 ^ 31 - 1)
    else .read n

/-! ## Printing -/

/-- The text of a sign, without a plus. -/
def signText (negative : Bool) : List Char := if negative then ['-'] else []

/-- A fraction, if there is one. -/
def fracText (frac : List Char) : List Char := if frac = [] then [] else '.' :: frac

/-- An exponent: its sign and at least two digits. -/
def expText (e : Int) : List Char :=
  'e' :: (if e < 0 then '-' else '+') :: digits (max 2 (numDigits e.natAbs)) e.natAbs

/-- `%g` for the number `m * 10 ^ e` of at most six digits, the last of which is not `0`. -/
def formatUnsigned (m : Nat) (e : Int) : List Char :=
  let k := numDigits m
  -- the power of ten of the first digit decides between the two notations
  let x : Int := e + k - 1
  if m = 0 then ['0']
  else if x < -4 ∨ 6 ≤ x then
    (digits k m).take 1 ++ fracText ((digits k m).drop 1) ++ expText x
  else if 0 ≤ e then digits k m ++ List.replicate e.toNat '0'
  else
    let f := (-e).toNat
    digits (max 1 (k - f)) (m / 10 ^ f) ++ fracText (digits f (m % 10 ^ f))

/-- What `stream << x` prints by default. -/
def format (d : Decimal) : List Char :=
  signText d.negative ++ formatUnsigned d.mantissa d.exponent

/-- A whole number next to a rational, the even one of two that are equally near. -/
def roundHalfEven (q : Rat) : Int :=
  if q - ⌊q⌋ < 1 / 2 ∨ (q - ⌊q⌋ = 1 / 2 ∧ ⌊q⌋ % 2 = 0) then ⌊q⌋ else ⌊q⌋ + 1

/-- The zeros at the end of a mantissa, at most `fuel` of them, go into the exponent. -/
def stripZeros : (fuel m : Nat) → Int → Nat × Int
  | 0, m, e => (m, e)
  | fuel + 1, m, e => if m % 10 = 0 then stripZeros fuel (m / 10) (e + 1) else (m, e)

/-- A rational, rounded to six digits. -/
def ofRat (q : Rat) : Decimal :=
  if q = 0 then ⟨false, 0, 0⟩
  else
    -- the power of ten of the sixth digit
    let e := Int.log 10 |q| - 5
    let (mantissa, exponent) := stripZeros 6 (roundHalfEven (|q| / scale 1 e)).toNat e
    ⟨q < 0, mantissa, exponent⟩

/-- At most six digits, and none too many at the end: what `%g` prints exactly. -/
def SixDigits (d : Decimal) : Prop :=
  d.mantissa < 10 ^ 6 ∧ (d.mantissa = 0 ∨ d.mantissa % 10 ≠ 0)

/-! ## What is printed is read back -/

/-- A text that does not go on with a digit. -/
def NoDigitFirst (text : List Char) : Prop := ∀ c, text.head? = some c → c.isDigit = false

/-- The digits at the start of a text. -/
theorem span_digits {ds text : List Char} (hds : ∀ c ∈ ds, c.isDigit = true)
    (htext : NoDigitFirst text) :
    (ds ++ text).takeWhile Char.isDigit = ds ∧ (ds ++ text).dropWhile Char.isDigit = text := by
  rw [List.takeWhile_append_of_pos hds, List.dropWhile_append_of_pos hds]
  cases text with
  | nil => exact ⟨List.append_nil ds, rfl⟩
  | cons c rest =>
    have hc : c.isDigit = false := htext c rfl
    rw [List.takeWhile_cons_of_neg (by simp [hc]), List.dropWhile_cons_of_neg (by simp [hc])]
    exact ⟨List.append_nil ds, rfl⟩

/-- The value of a printed exponent. -/
theorem scanExponent_expText (e : Int) : scanExponent (expText e) = some e := by
  unfold expText scanExponent
  generalize hwidth : max 2 (numDigits e.natAbs) = width
  have hsign : scanSign ((if e < 0 then '-' else '+') :: digits width e.natAbs) =
      (decide (e < 0), digits width e.natAbs) := by
    by_cases hneg : e < 0
    · simp [hneg, scanSign]
    · simp [hneg, scanSign]
  have hspan : (digits width e.natAbs).takeWhile Char.isDigit = digits width e.natAbs :=
    List.takeWhile_eq_self_iff.mpr fun _ hc => isDigit_of_mem_digits hc
  have hne : digits width e.natAbs ≠ [] := by
    rw [← List.length_pos_iff, length_digits]
    omega
  have hvalue : ofDigits (digits width e.natAbs) = e.natAbs := by
    apply ofDigits_digits
    -- the exponent has room in two digits or in its own
    exact Nat.lt_of_lt_of_le (lt_pow_numDigits _) (Nat.pow_le_pow_right (by decide) (by omega))
  simp only [true_or, ↓reduceIte, hsign, hspan, hne, hvalue, Option.some.injEq, decide_eq_true_eq]
  split <;> omega

/-- The text of an unsigned number: digits, a fraction and perhaps an exponent. -/
structure IsUnsigned (int frac rest : List Char) : Prop where
  int_digits : ∀ c ∈ int, c.isDigit = true
  int_ne_nil : int ≠ []
  frac_digits : ∀ c ∈ frac, c.isDigit = true
  rest_exp : rest = [] ∨ ∃ e, rest = expText e

/-- Such a text is read in its three parts. -/
theorem IsUnsigned.scanUnsigned_eq {int frac rest : List Char} (h : IsUnsigned int frac rest) :
    scanUnsigned (int ++ (fracText frac ++ rest)) =
      (scanExponent rest).map fun e => scale (ofDigits (int ++ frac)) (e - frac.length) := by
  have hrest : NoDigitFirst rest ∧ rest.head? ≠ some '.' := by
    rcases h.rest_exp with rfl | ⟨e, rfl⟩
    · simp [NoDigitFirst]
    · simp [NoDigitFirst, expText]
  have hfraction : scanFraction (fracText frac ++ rest) = (frac, rest) := by
    by_cases hnone : frac = []
    · cases rest with
      | nil => simp [hnone, fracText, scanFraction]
      | cons c rest =>
        have hc : c ≠ '.' := fun hc => hrest.2 (by rw [hc]; rfl)
        simp [hnone, fracText, scanFraction, hc]
    · obtain ⟨htake, hdrop⟩ := span_digits h.frac_digits hrest.1
      simp [hnone, fracText, scanFraction, htake, hdrop]
  have hstop : NoDigitFirst (fracText frac ++ rest) := by
    by_cases hnone : frac = []
    · simpa [hnone, fracText] using hrest.1
    · simp [hnone, fracText, NoDigitFirst]
  obtain ⟨htake, hdrop⟩ := span_digits h.int_digits hstop
  unfold scanUnsigned
  simp only [htake, hdrop, hfraction, h.int_ne_nil, false_and, ↓reduceIte]

theorem digits_ne_nil {width n : Nat} (h : 0 < width) : digits width n ≠ [] := by
  rw [← List.length_pos_iff, length_digits]
  exact h

theorem numDigits_pos (n : Nat) : 0 < numDigits n := Nat.succ_pos _

/-- The scientific notation. -/
theorem scientific_spec (m : Nat) (e : Int) :
    let ds := digits (numDigits m) m
    IsUnsigned (ds.take 1) (ds.drop 1) (expText (e + numDigits m - 1)) ∧
      scanUnsigned (ds.take 1 ++ (fracText (ds.drop 1) ++ expText (e + numDigits m - 1))) =
        some (scale m e) := by
  intro ds
  have hlength : ds.length = numDigits m := length_digits _ _
  have hpos := numDigits_pos m
  have h : IsUnsigned (ds.take 1) (ds.drop 1) (expText (e + numDigits m - 1)) := by
    refine ⟨fun c hc => isDigit_of_mem_digits (List.mem_of_mem_take hc), ?_,
      fun c hc => isDigit_of_mem_digits (List.mem_of_mem_drop hc), Or.inr ⟨_, rfl⟩⟩
    rw [← List.length_pos_iff, List.length_take]
    omega
  refine ⟨h, ?_⟩
  rw [h.scanUnsigned_eq, scanExponent_expText, Option.map_some, List.take_append_drop,
    ofDigits_digits (lt_pow_numDigits m), List.length_drop, hlength]
  -- the exponent is that of the first digit
  congr 2
  omega

/-- The notation without exponent for a whole number. -/
theorem whole_spec (m k : Nat) :
    let ds := digits (numDigits m) m ++ List.replicate k '0'
    IsUnsigned ds [] [] ∧ scanUnsigned (ds ++ (fracText [] ++ [])) = some (scale m k) := by
  intro ds
  have h : IsUnsigned ds [] [] := by
    refine ⟨fun c hc => ?_, ?_, fun c hc => absurd hc List.not_mem_nil, Or.inl rfl⟩
    · rcases List.mem_append.mp hc with hdigit | hzero
      · exact isDigit_of_mem_digits hdigit
      · rw [List.eq_of_mem_replicate hzero]
        rfl
    · exact List.append_ne_nil_of_left_ne_nil (digits_ne_nil (numDigits_pos m)) _
  refine ⟨h, ?_⟩
  rw [h.scanUnsigned_eq, List.append_nil, ofDigits_append, ofDigits_digits (lt_pow_numDigits m),
    ofDigits_replicate_zero, List.length_replicate, Nat.add_zero]
  exact congrArg some (scale_mul_pow m k)

/-- The notation without exponent for a number with a fraction. -/
theorem fraction_spec (m f : Nat) :
    let int := digits (max 1 (numDigits m - f)) (m / 10 ^ f)
    let frac := digits f (m % 10 ^ f)
    IsUnsigned int frac [] ∧ scanUnsigned (int ++ (fracText frac ++ [])) =
      some (scale m (-f)) := by
  intro int frac
  have h : IsUnsigned int frac [] :=
    ⟨fun c hc => isDigit_of_mem_digits hc, digits_ne_nil (by omega),
      fun c hc => isDigit_of_mem_digits hc, Or.inl rfl⟩
  -- the digits before the point are enough for the whole part
  have hwhole : m / 10 ^ f < 10 ^ max 1 (numDigits m - f) := by
    rw [Nat.div_lt_iff_lt_mul (Nat.pow_pos (by decide)), ← Nat.pow_add]
    exact Nat.lt_of_lt_of_le (lt_pow_numDigits m) (Nat.pow_le_pow_right (by decide) (by omega))
  refine ⟨h, ?_⟩
  rw [h.scanUnsigned_eq, scanExponent, Option.map_some, ofDigits_append, ofDigits_digits hwhole,
    ofDigits_digits (Nat.mod_lt _ (Nat.pow_pos (by decide))), length_digits, Nat.mul_comm,
    Nat.div_add_mod, Int.zero_sub]

/-- Whatever the notation, an unsigned number is printed in three parts and read back. -/
theorem formatUnsigned_spec (m : Nat) (e : Int) :
    ∃ int frac rest, formatUnsigned m e = int ++ (fracText frac ++ rest) ∧
      IsUnsigned int frac rest ∧ scanUnsigned (formatUnsigned m e) = some (scale m e) := by
  unfold formatUnsigned
  by_cases hzero : m = 0
  · subst hzero
    have h : IsUnsigned ['0'] [] [] :=
      ⟨List.forall_mem_singleton.mpr rfl, List.cons_ne_nil _ _,
        fun c hc => absurd hc List.not_mem_nil, Or.inl rfl⟩
    refine ⟨['0'], [], [], by simp [fracText], h, ?_⟩
    simp only [↓reduceIte, scale_zero]
    decide +kernel
  · simp only [hzero, ↓reduceIte]
    split
    · obtain ⟨h, hscan⟩ := scientific_spec m e
      exact ⟨_, _, _, List.append_assoc _ _ _, h, by rw [List.append_assoc]; exact hscan⟩
    · split
      · rename_i he
        obtain ⟨h, hscan⟩ := whole_spec m e.toNat
        rw [Int.toNat_of_nonneg he] at hscan
        refine ⟨_, [], [], by simp [fracText], h, ?_⟩
        simpa [fracText] using hscan
      · rename_i he
        obtain ⟨h, hscan⟩ := fraction_spec m (-e).toNat
        have hexp : -((-e).toNat : Int) = e := by omega
        rw [hexp, List.append_nil] at hscan
        exact ⟨_, _, [], by rw [List.append_nil], h, hscan⟩

/-- The characters of a printed number. -/
def isNumberChar (c : Char) : Bool := c.isDigit || c = '.' || c = 'e' || c = '+' || c = '-'

theorem isNumberChar_of_isDigit {c : Char} (h : c.isDigit = true) : isNumberChar c = true := by
  rw [isNumberChar, h]
  rfl

theorem isNumberChar_of_mem_expText {e : Int} {c : Char} (h : c ∈ expText e) :
    isNumberChar c = true := by
  rcases List.mem_cons.mp h with rfl | h
  · rfl
  · rcases List.mem_cons.mp h with rfl | h
    · split <;> rfl
    · exact isNumberChar_of_isDigit (isDigit_of_mem_digits h)

theorem isNumberChar_of_mem_format {d : Decimal} {c : Char} (h : c ∈ d.format) :
    isNumberChar c = true := by
  rcases List.mem_append.mp h with hsign | h
  · unfold signText at hsign
    split at hsign
    · rw [List.mem_singleton.mp hsign]
      rfl
    · exact absurd hsign List.not_mem_nil
  · obtain ⟨int, frac, rest, hparts, hunsigned, -⟩ := formatUnsigned_spec d.mantissa d.exponent
    rw [hparts] at h
    rcases List.mem_append.mp h with hint | h
    · exact isNumberChar_of_isDigit (hunsigned.int_digits c hint)
    rcases List.mem_append.mp h with hfrac | hrest
    · unfold fracText at hfrac
      split at hfrac
      · exact absurd hfrac List.not_mem_nil
      · rcases List.mem_cons.mp hfrac with rfl | hfrac
        · rfl
        · exact isNumberChar_of_isDigit (hunsigned.frac_digits c hfrac)
    · rcases hunsigned.rest_exp with rfl | ⟨e, rfl⟩
      · exact absurd hrest List.not_mem_nil
      · exact isNumberChar_of_mem_expText hrest

theorem numDigits_le_of_lt {m k : Nat} (hk : k ≠ 0) (h : m < 10 ^ k) : numDigits m ≤ k :=
  Nat.log_lt_of_lt_pow' hk h

theorem length_fracText (frac : List Char) : (fracText frac).length ≤ frac.length + 1 := by
  unfold fracText
  split
  · exact Nat.zero_le _
  · exact Nat.le_refl _

/-- The text of a number of six digits in the range of `float` is short. -/
theorem length_format_le {d : Decimal} (hm : d.mantissa < 10 ^ 6)
    (he : d.exponent.natAbs ≤ 50) : d.format.length ≤ 64 := by
  have hk : numDigits d.mantissa ≤ 6 := numDigits_le_of_lt (by decide) hm
  have hsign : (signText d.negative).length ≤ 1 := by cases d.negative <;> decide
  rw [format, List.length_append]
  suffices (formatUnsigned d.mantissa d.exponent).length ≤ 63 by omega
  unfold formatUnsigned
  generalize numDigits d.mantissa = k at hk ⊢
  generalize d.exponent = e at he
  dsimp only
  split
  · decide
  split
  · have hx : numDigits (e + k - 1).natAbs ≤ 2 :=
      numDigits_le_of_lt (by decide) (by omega)
    have hfrac := length_fracText ((digits k d.mantissa).drop 1)
    simp only [List.length_append, List.length_take, List.length_drop, length_digits, expText,
      List.length_cons] at hfrac ⊢
    omega
  split
  · rw [List.length_append, length_digits, List.length_replicate]
    omega
  · have hfrac := length_fracText (digits (-e).toNat (d.mantissa % 10 ^ (-e).toNat))
    rw [List.length_append, length_digits]
    rw [length_digits] at hfrac
    omega

/-- A digit is neither a space nor a sign. -/
theorem ne_of_isDigit {c : Char} (h : c.isDigit = true) :
    isSpace c = false ∧ c ≠ '-' ∧ c ≠ '+' := by
  refine ⟨?_, ?_, ?_⟩
  · have hle : '0' ≤ c := by simpa [Char.isDigit, Char.le_def] using (Bool.and_eq_true_iff.mp h).1
    have hne : c ≠ ' ' := by
      rintro rfl
      exact absurd h (by decide)
    have hgt : ¬ c ≤ '\r' := fun hlow =>
      absurd (Char.le_trans hle hlow) (by decide)
    simp [isSpace, hne, hgt]
  · rintro rfl
    exact absurd h (by decide)
  · rintro rfl
    exact absurd h (by decide)

/-- A number of six digits in the range of `float` is in the range of `double`. -/
theorem scale_lt_doubleOverflow {m : Nat} {e : Int} (hm : m < 10 ^ 6) (he : e.natAbs ≤ 50) :
    scale m e < doubleOverflow := by
  have hlimit : 10 ^ 6 * 10 ^ 50 < doubleOverflow := by decide +kernel
  have hpow : 10 ^ e.toNat ≤ 10 ^ 50 := Nat.pow_le_pow_right (by decide) (by omega)
  have hwhole : m * 10 ^ e.toNat < doubleOverflow := by
    calc m * 10 ^ e.toNat ≤ m * 10 ^ 50 := Nat.mul_le_mul_left m hpow
      _ ≤ 10 ^ 6 * 10 ^ 50 := Nat.mul_le_mul_right _ (Nat.le_of_lt hm)
      _ < doubleOverflow := hlimit
  unfold scale
  split
  · exact_mod_cast hwhole
  · -- a negative exponent makes the number smaller
    have hdiv : (m : Rat) / 10 ^ (-e).toNat ≤ m :=
      div_le_self (Nat.cast_nonneg m) (one_le_pow₀ (by norm_num))
    have hsmall : m < doubleOverflow := by
      calc m < 10 ^ 6 := hm
        _ ≤ 10 ^ 6 * 10 ^ 50 := Nat.le_mul_of_pos_right _ (by decide)
        _ < doubleOverflow := hlimit
    exact lt_of_le_of_lt hdiv (by exact_mod_cast hsmall)

/-- A printed number in the range of `double` is read back. -/
theorem scanDouble_format {d : Decimal}
    (hrange : scale d.mantissa d.exponent < doubleOverflow) :
    scanDouble d.format = .read d.value := by
  obtain ⟨int, frac, rest, hparts, hunsigned, hscan⟩ := formatUnsigned_spec d.mantissa d.exponent
  -- the first character after the sign is a digit
  obtain ⟨c, cs, hcons⟩ := List.exists_cons_of_ne_nil hunsigned.int_ne_nil
  have hc : c.isDigit = true := hunsigned.int_digits c (by rw [hcons]; exact List.mem_cons_self)
  obtain ⟨hspace, hminus, hplus⟩ := ne_of_isDigit hc
  rw [hcons, List.cons_append] at hparts
  rw [scanDouble, format, value]
  cases d.negative with
  | true =>
    have hdrop : (signText true ++ formatUnsigned d.mantissa d.exponent).dropWhile isSpace =
        '-' :: formatUnsigned d.mantissa d.exponent := by
      rw [signText, if_pos rfl, List.singleton_append, List.dropWhile_cons_of_neg (by decide)]
    simp only [hdrop, reduceCtorEq, ↓reduceIte, scanSign, hscan, hrange]
  | false =>
    have hdrop : (signText false ++ formatUnsigned d.mantissa d.exponent).dropWhile isSpace =
        formatUnsigned d.mantissa d.exponent := by
      rw [signText, if_neg Bool.false_ne_true, List.nil_append, hparts,
        List.dropWhile_cons_of_neg (by simp [hspace])]
    have hsign : scanSign (formatUnsigned d.mantissa d.exponent) =
        (false, formatUnsigned d.mantissa d.exponent) := by
      rw [hparts]
      simp [scanSign, hminus, hplus]
    have hne : formatUnsigned d.mantissa d.exponent ≠ [] := by
      rw [hparts]
      exact List.cons_ne_nil _ _
    simp only [hdrop, hne, ↓reduceIte, hsign, hscan, hrange]

example : (format (ofRat (-10417 / 10000)), format (ofRat 8), format (ofRat (1 / 40000))) =
    ("-1.0417".toList, "8".toList, "2.5e-05".toList) := by decide +kernel

example : format (ofRat (2 / 3)) = "0.666667".toList := by decide +kernel

example : (scanDouble "1e308".toList, scanDouble "-1e400".toList) =
    (.read (10 ^ 308), .failed (-doubleMax)) := by decide +kernel

end Decimal
