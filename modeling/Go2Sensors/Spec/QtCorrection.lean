import Mathlib.Algebra.Order.Archimedean.Real.Basic
import Mathlib.Analysis.Real.Sqrt
import Mathlib.Analysis.SpecialFunctions.Trigonometric.Basic
import Mathlib.Data.Int.Log
import Mathlib.LinearAlgebra.Matrix.Notation
import Go2Sensors.ForStd.Beam
import Go2Sensors.ForStd.Decimal
import Go2Sensors.Native.Init
import Go2Sensors.Spec.ThreadSteps

/-!
# The QT correction in exact arithmetic

A PandarQT measures from an optical centre beside the origin of its coordinates. The three
branches of the correction solve three quadratic equations, for `z`, for `y` and for `x`. In
exact arithmetic they all find the crossings of the same line with the sphere of the measured
distance, and choose the one in front of the optical centre.

## Key results

- `QtAngles.crosses_qtRoots`: the two candidates are the two crossings
- `qt_correction_exact`: the chosen one is on the beam, at the measured distance
- `qt_points_onBeam`: so are the points of a block
-/

namespace Hesai

open CFloat (ofRat)

/-! ## Exact arithmetic -/

/-- A real number, rounded to six digits. -/
noncomputable def toSixDigits (x : ℝ) : Rat :=
  -- the power of ten of the sixth digit
  let e := Int.log 10 |x| - 5
  let y := |x| / 10 ^ e
  let mantissa := if y - ⌊y⌋ < 1 / 2 ∨ (y - ⌊y⌋ = 1 / 2 ∧ ⌊y⌋ % 2 = 0) then ⌊y⌋ else ⌊y⌋ + 1
  (if x < 0 then -mantissa else mantissa) * 10 ^ e

/-- Exact arithmetic, with the square root. -/
noncomputable instance : CFloat ℝ where
  ofRat q := q
  toFloat := id
  toInt x := if 0 ≤ x then ⌊x⌋ else -⌊-x⌋
  floor x := ⌊x⌋
  sqrt := Real.sqrt
  nonpos x := decide (x ≤ 0)
  nonzero x := decide (x ≠ 0)
  print x := String.ofList (Decimal.ofRat (toSixDigits x)).format

/-- The coordinates as a vector. -/
def Xyz.toVec (p : Xyz ℝ) : Fin 3 → ℝ := ![p.x, p.y, p.z]

/-! ## The candidates -/

/-- The two candidates of a branch, and what is under their square root. -/
structure QtRoots where
  discriminant : ℝ
  plus : Xyz ℝ
  minus : Xyz ℝ

section Roots

variable (sinE cosE sinA cosA d : ℝ)

/-- The candidates in `qtElevated`. -/
noncomputable def qtElevatedRoots : QtRoots :=
  let c := (qtCorrectionOdog * qtCorrectionOdog + qtCorrectionOdot * qtCorrectionOdot - d * d) *
    sinE * sinE
  let b := 2 * sinE * cosE * (qtCorrectionOdog * cosA - qtCorrectionOdot * sinA)
  let onBeam := fun z : ℝ =>
    { x := z * sinA * cosE / sinE - qtCorrectionOdot
      y := z * cosA * cosE / sinE + qtCorrectionOdog
      z : Xyz ℝ }
  let discriminant := b * b - 4 * c
  { discriminant
    plus := onBeam ((-b + √discriminant) / 2)
    minus := onBeam ((-b - √discriminant) / 2) }

/-- The candidates in `qtHorizontal`. -/
noncomputable def qtHorizontalRoots : QtRoots :=
  let tanAzimuth := sinA / cosA
  let c := (qtCorrectionOdog * tanAzimuth + qtCorrectionOdot) *
    (qtCorrectionOdog * tanAzimuth + qtCorrectionOdot) - d * d
  let a := 1 + tanAzimuth * tanAzimuth
  let b := -2 * tanAzimuth * (qtCorrectionOdog * tanAzimuth + qtCorrectionOdot)
  let onBeam := fun y : ℝ =>
    { x := (y - qtCorrectionOdog) * tanAzimuth - qtCorrectionOdot
      y
      z := 0 : Xyz ℝ }
  let discriminant := b * b - 4 * a * c
  { discriminant
    plus := onBeam ((-b + √discriminant) / (2 * a))
    minus := onBeam ((-b - √discriminant) / (2 * a)) }

/-- The candidates in `qtSideways`. -/
noncomputable def qtSidewaysRoots : QtRoots :=
  let discriminant := d * d - qtCorrectionOdog * qtCorrectionOdog
  { discriminant
    plus := { x := √discriminant, y := qtCorrectionOdog, z := 0 }
    minus := { x := -√discriminant, y := qtCorrectionOdog, z := 0 } }

/-- The candidates of the branch that is taken, for any distance. -/
noncomputable def qtRoots : QtRoots :=
  -- the tests of the driver, in its order
  if sinE ≠ 0 then qtElevatedRoots sinE cosE sinA cosA d
  else if cosA ≠ 0 then qtHorizontalRoots sinA cosA d
  else qtSidewaysRoots d

end Roots

/-! ## What the driver computes -/

section Driver

variable (tables : Tables ℝ) (calib : Calibration ℝ) (i : Nat) (azimuth : Int)

/-- The candidate that is chosen: the second one if the first lies behind the lidar. -/
noncomputable def QtRoots.choose (roots : QtRoots) : Xyz ℝ :=
  if isBackward tables calib i azimuth roots.plus then roots.minus else roots.plus

theorem qtElevated_eq (distance : Rat) :
    qtElevated tables calib i azimuth distance =
      (qtElevatedRoots (calib.sinElevationMap i) (calib.cosElevationMap i)
        (tables.sinAzimuthMap azimuth) (tables.cosAzimuthMap azimuth) distance).choose
          tables calib i azimuth := by
  have htwo : (ofRat 2 : ℝ) = 2 := Rat.cast_ofNat 2
  have hfour : (ofRat 4 : ℝ) = 4 := Rat.cast_ofNat 4
  unfold qtElevated
  rw [htwo, hfour]
  rfl

theorem qtHorizontal_eq (distance : Rat) :
    qtHorizontal tables calib i azimuth distance =
      (qtHorizontalRoots (tables.sinAzimuthMap azimuth) (tables.cosAzimuthMap azimuth)
        distance).choose tables calib i azimuth := by
  have hzero : (ofRat 0 : ℝ) = 0 := Rat.cast_zero
  have hone : (ofRat 1 : ℝ) = 1 := Rat.cast_one
  have htwo : (ofRat 2 : ℝ) = 2 := Rat.cast_ofNat 2
  have hminus : (ofRat (-2) : ℝ) = -2 := by
    rw [← htwo]
    exact Rat.cast_neg 2
  have hfour : (ofRat 4 : ℝ) = 4 := Rat.cast_ofNat 4
  unfold qtHorizontal
  rw [hzero, hone, htwo, hminus, hfour]
  rfl

theorem qtSideways_eq (distance : Rat) :
    qtSideways tables calib i azimuth distance =
      (qtSidewaysRoots distance).choose tables calib i azimuth := by
  have hzero : (ofRat 0 : ℝ) = 0 := Rat.cast_zero
  unfold qtSideways
  rw [hzero]
  rfl

theorem nonzero_real_iff (x : ℝ) : CFloat.nonzero x = true ↔ x ≠ 0 := decide_eq_true_iff

/-- The corrected point is the candidate that is chosen. -/
theorem calcQTXYZ_eq (cfg : Config ℝ) (hflag : cfg.coordinateCorrectionFlag = true)
    (distance : Rat) :
    calcQTXYZ cfg calib i azimuth distance =
      (qtRoots (calib.sinElevationMap i) (calib.cosElevationMap i)
        (cfg.tables.sinAzimuthMap azimuth) (cfg.tables.cosAzimuthMap azimuth) distance).choose
          cfg.tables calib i azimuth := by
  rw [calcQTXYZ, if_pos hflag, qtElevated_eq, qtHorizontal_eq, qtSideways_eq, qtRoots]
  -- the driver branches as the candidates do
  simp only [nonzero_real_iff]
  split
  · rfl
  · split
    · rfl
    · rfl

end Driver

/-! ## The beam -/

/-- The sines and cosines of an elevation below a right angle and of an azimuth. -/
structure QtAngles where
  sinE : ℝ
  cosE : ℝ
  sinA : ℝ
  cosA : ℝ
  elevation : sinE ^ 2 + cosE ^ 2 = 1
  azimuth : sinA ^ 2 + cosA ^ 2 = 1
  cosE_pos : 0 < cosE

namespace QtAngles

/-- The beam in these directions, from the optical centre. -/
noncomputable def beam (angles : QtAngles) : Beam (Fin 3) ℝ where
  centre := ![-qtCorrectionOdot, qtCorrectionOdog, 0]
  direction := ![angles.cosE * angles.sinA, angles.cosE * angles.cosA, angles.sinE]
  unit := by
    simp only [dotProduct, Fin.sum_univ_three, Matrix.cons_val]
    linear_combination angles.cosE ^ 2 * angles.azimuth + angles.elevation

variable {angles : QtAngles} {d : ℝ}

/-- The optical centre is less than a tenth of a millimetre from the origin. -/
theorem centre_inside (hd : 1 / 10 < d) :
    angles.beam.centre ⬝ᵥ angles.beam.centre < d ^ 2 := by
  have hodog : (qtCorrectionOdog : ℝ) = 298 / 10000000 := by
    norm_num [qtCorrectionOdog, CFloat.ofRat]
  have hodot : (qtCorrectionOdot : ℝ) = 72 / 10000000 := by
    norm_num [qtCorrectionOdot, CFloat.ofRat]
  simp only [beam, dotProduct, Fin.sum_univ_three, Matrix.cons_val, hodog, hodot]
  -- both offsets are below a tenth of a millimetre
  nlinarith

/-- A point of the line, coordinate by coordinate. -/
theorem point_eq (t : ℝ) :
    angles.beam.point t = ![-qtCorrectionOdot + t * (angles.cosE * angles.sinA),
      qtCorrectionOdog + t * (angles.cosE * angles.cosA), t * angles.sinE] := by
  ext j
  fin_cases j <;> simp [Beam.point, beam]

theorem point_dotProduct_self (t : ℝ) :
    angles.beam.point t ⬝ᵥ angles.beam.point t =
      (-qtCorrectionOdot + t * (angles.cosE * angles.sinA)) ^ 2 +
        (qtCorrectionOdog + t * (angles.cosE * angles.cosA)) ^ 2 + (t * angles.sinE) ^ 2 := by
  rw [point_eq]
  simp only [dotProduct, Fin.sum_univ_three, Matrix.cons_val]
  ring

/-! ## The three equations -/

/-- The equation for `z`. -/
noncomputable def elevatedEquation (angles : QtAngles) (d : ℝ) (hsinE : angles.sinE ≠ 0) :
    angles.beam.Equation d where
  a := 1
  b := 2 * angles.sinE * angles.cosE *
    (qtCorrectionOdog * angles.cosA - qtCorrectionOdot * angles.sinA)
  c := (qtCorrectionOdog * qtCorrectionOdog + qtCorrectionOdot * qtCorrectionOdot - d * d) *
    angles.sinE * angles.sinE
  origin := 0
  scale := angles.sinE
  factor := angles.sinE ^ 2
  a_pos := one_pos
  scale_ne := hsinE
  factor_pos := sq_pos_of_ne_zero hsinE
  spec t := by
    rw [point_dotProduct_self]
    linear_combination -(t ^ 2 * angles.sinE ^ 2) * angles.elevation -
      t ^ 2 * angles.sinE ^ 2 * angles.cosE ^ 2 * angles.azimuth

theorem cosE_eq_one (hsinE : angles.sinE = 0) : angles.cosE = 1 := by
  have helevation := angles.elevation
  rw [hsinE] at helevation
  -- the square is one, and the cosine is positive
  nlinarith [angles.cosE_pos]

theorem sinA_ne_zero (hcosA : angles.cosA = 0) : angles.sinA ≠ 0 := by
  intro hsinA
  have hazimuth := angles.azimuth
  rw [hsinA, hcosA] at hazimuth
  norm_num at hazimuth

/-- The equation for `y`. -/
noncomputable def horizontalEquation (angles : QtAngles) (d : ℝ) (hsinE : angles.sinE = 0)
    (hcosA : angles.cosA ≠ 0) : angles.beam.Equation d where
  a := 1 + angles.sinA / angles.cosA * (angles.sinA / angles.cosA)
  b := -2 * (angles.sinA / angles.cosA) *
    (qtCorrectionOdog * (angles.sinA / angles.cosA) + qtCorrectionOdot)
  c := (qtCorrectionOdog * (angles.sinA / angles.cosA) + qtCorrectionOdot) *
    (qtCorrectionOdog * (angles.sinA / angles.cosA) + qtCorrectionOdot) - d * d
  origin := qtCorrectionOdog
  scale := angles.cosA
  factor := 1
  a_pos := add_pos_of_pos_of_nonneg one_pos (mul_self_nonneg _)
  scale_ne := hcosA
  factor_pos := one_pos
  spec t := by
    rw [point_dotProduct_self, hsinE, cosE_eq_one hsinE]
    field_simp
    ring

/-- The equation for `x`. -/
noncomputable def sidewaysEquation (angles : QtAngles) (d : ℝ) (hsinE : angles.sinE = 0)
    (hcosA : angles.cosA = 0) : angles.beam.Equation d where
  a := 1
  b := 0
  c := qtCorrectionOdog * qtCorrectionOdog - d * d
  origin := -qtCorrectionOdot
  scale := angles.sinA
  factor := 1
  a_pos := one_pos
  scale_ne := sinA_ne_zero hcosA
  factor_pos := one_pos
  spec t := by
    rw [point_dotProduct_self, hsinE, hcosA, cosE_eq_one hsinE]
    ring

theorem elevatedEquation_pointAt (hsinE : angles.sinE ≠ 0) (z : ℝ) :
    (angles.elevatedEquation d hsinE).pointAt z =
      ![z * angles.sinA * angles.cosE / angles.sinE - qtCorrectionOdot,
        z * angles.cosA * angles.cosE / angles.sinE + qtCorrectionOdog, z] := by
  -- a point of the beam from its height
  have hx : -qtCorrectionOdot + (z - 0) / angles.sinE * (angles.cosE * angles.sinA) =
      z * angles.sinA * angles.cosE / angles.sinE - qtCorrectionOdot := by ring
  have hy : qtCorrectionOdog + (z - 0) / angles.sinE * (angles.cosE * angles.cosA) =
      z * angles.cosA * angles.cosE / angles.sinE + qtCorrectionOdog := by ring
  have hz : (z - 0) / angles.sinE * angles.sinE = z := by
    rw [sub_zero, div_mul_cancel₀ z hsinE]
  simp only [Beam.Equation.pointAt, point_eq, elevatedEquation, hx, hy, hz]

theorem horizontalEquation_pointAt (hsinE : angles.sinE = 0) (hcosA : angles.cosA ≠ 0) (y : ℝ) :
    (angles.horizontalEquation d hsinE hcosA).pointAt y =
      ![(y - qtCorrectionOdog) * (angles.sinA / angles.cosA) - qtCorrectionOdot, y, 0] := by
  -- a point of the beam from how far ahead it is
  have hx : -qtCorrectionOdot + (y - qtCorrectionOdog) / angles.cosA * (1 * angles.sinA) =
      (y - qtCorrectionOdog) * (angles.sinA / angles.cosA) - qtCorrectionOdot := by ring
  have hy : qtCorrectionOdog + (y - qtCorrectionOdog) / angles.cosA * (1 * angles.cosA) = y := by
    rw [one_mul, div_mul_cancel₀ _ hcosA, add_sub_cancel]
  simp only [Beam.Equation.pointAt, point_eq, horizontalEquation, hsinE, cosE_eq_one hsinE,
    mul_zero, hx, hy]

theorem sidewaysEquation_pointAt (hsinE : angles.sinE = 0) (hcosA : angles.cosA = 0) (x : ℝ) :
    (angles.sidewaysEquation d hsinE hcosA).pointAt x = ![x, qtCorrectionOdog, 0] := by
  -- a point of the beam from how far to the side it is
  have hx : -qtCorrectionOdot + (x - -qtCorrectionOdot) / angles.sinA * (1 * angles.sinA) = x := by
    rw [one_mul, div_mul_cancel₀ _ (sinA_ne_zero hcosA), add_sub_cancel]
  simp only [Beam.Equation.pointAt, point_eq, sidewaysEquation, hsinE, hcosA, cosE_eq_one hsinE,
    mul_zero, add_zero, hx]

/-! ## The candidates are the crossings -/

/-- The square root of the candidates exists, and they are the crossings. -/
structure Crosses (angles : QtAngles) (d : ℝ) (roots : QtRoots) : Prop where
  discriminant_pos : 0 < roots.discriminant
  crossing : angles.beam.Crossing d roots.plus.toVec roots.minus.toVec

/-- The quadratic formula finds the crossings. -/
theorem crossing_sqrt (eqn : angles.beam.Equation d) (hd : 1 / 10 < d) :
    0 < discrim eqn.a eqn.b eqn.c ∧
      angles.beam.Crossing d
        (eqn.pointAt ((-eqn.b + √(discrim eqn.a eqn.b eqn.c)) / (2 * eqn.a)))
        (eqn.pointAt ((-eqn.b - √(discrim eqn.a eqn.b eqn.c)) / (2 * eqn.a))) := by
  have hpos := eqn.discrim_pos (centre_inside hd)
  exact ⟨hpos, eqn.crossing (Real.mul_self_sqrt hpos.le).symm (centre_inside hd)⟩

theorem crosses_elevated (hsinE : angles.sinE ≠ 0) (hd : 1 / 10 < d) :
    angles.Crosses d (qtElevatedRoots angles.sinE angles.cosE angles.sinA angles.cosA d) := by
  obtain ⟨hpos, hcrossing⟩ := crossing_sqrt (angles.elevatedEquation d hsinE) hd
  rw [elevatedEquation_pointAt, elevatedEquation_pointAt] at hcrossing
  simp only [elevatedEquation, discrim, sq, mul_one] at hpos hcrossing
  exact ⟨hpos, hcrossing⟩

theorem crosses_horizontal (hsinE : angles.sinE = 0) (hcosA : angles.cosA ≠ 0)
    (hd : 1 / 10 < d) : angles.Crosses d (qtHorizontalRoots angles.sinA angles.cosA d) := by
  obtain ⟨hpos, hcrossing⟩ := crossing_sqrt (angles.horizontalEquation d hsinE hcosA) hd
  rw [horizontalEquation_pointAt, horizontalEquation_pointAt] at hcrossing
  simp only [horizontalEquation, discrim, sq] at hpos hcrossing
  exact ⟨hpos, hcrossing⟩

theorem crosses_sideways (hsinE : angles.sinE = 0) (hcosA : angles.cosA = 0)
    (hd : 1 / 10 < d) : angles.Crosses d (qtSidewaysRoots d) := by
  -- here the driver takes the root of a quarter of the discriminant
  have hpos := (angles.sidewaysEquation d hsinE hcosA).discrim_pos (centre_inside hd)
  simp only [sidewaysEquation, discrim] at hpos
  have hquarter : 0 < d * d - qtCorrectionOdog * qtCorrectionOdog := by linarith
  have hsquare := Real.mul_self_sqrt hquarter.le
  have hroot : discrim 1 0 (qtCorrectionOdog * qtCorrectionOdog - d * d) =
      2 * √(d * d - qtCorrectionOdog * qtCorrectionOdog) *
        (2 * √(d * d - qtCorrectionOdog * qtCorrectionOdog)) := by
    rw [discrim]
    linear_combination -4 * hsquare
  -- twice the root of the driver is a root of the discriminant
  have hcrossing := (angles.sidewaysEquation d hsinE hcosA).crossing hroot (centre_inside hd)
  rw [sidewaysEquation_pointAt, sidewaysEquation_pointAt] at hcrossing
  have hplus (r : ℝ) : (-0 + 2 * r) / (2 * 1) = r := by ring
  have hminus (r : ℝ) : (-0 - 2 * r) / (2 * 1) = -r := by ring
  simp only [sidewaysEquation, hplus, hminus] at hcrossing
  exact ⟨hquarter, hcrossing⟩

/-- In each of the three branches. -/
theorem crosses_qtRoots (hd : 1 / 10 < d) :
    angles.Crosses d (qtRoots angles.sinE angles.cosE angles.sinA angles.cosA d) := by
  unfold qtRoots
  split
  · next hsinE => exact crosses_elevated hsinE hd
  · next hsinE =>
    -- a beam in the plane of the lidar
    rw [not_not] at hsinE
    split
    · next hcosA => exact crosses_horizontal hsinE hcosA hd
    · next hcosA => exact crosses_sideways hsinE (not_not.mp hcosA) hd

end QtAngles

/-! ## The candidate that is chosen -/

/-- The tables hold the sines and cosines of an elevation below a right angle and of an
    azimuth. -/
structure ExactAngles (tables : Tables ℝ) (calib : Calibration ℝ) (i : Nat) (azimuth : Int) :
    Prop where
  elevation : calib.sinElevationMap i ^ 2 + calib.cosElevationMap i ^ 2 = 1
  azimuth : tables.sinAzimuthMap azimuth ^ 2 + tables.cosAzimuthMap azimuth ^ 2 = 1
  cosE_pos : 0 < calib.cosElevationMap i

section Choice

variable {tables : Tables ℝ} {calib : Calibration ℝ} {i : Nat} {azimuth : Int} {d : ℝ}

/-- The angles of laser `i`. -/
def ExactAngles.angles (h : ExactAngles tables calib i azimuth) : QtAngles where
  sinE := calib.sinElevationMap i
  cosE := calib.cosElevationMap i
  sinA := tables.sinAzimuthMap azimuth
  cosA := tables.cosAzimuthMap azimuth
  elevation := h.elevation
  azimuth := h.azimuth
  cosE_pos := h.cosE_pos

/-- The test of the driver looks how far along the beam a candidate is. -/
theorem isBackward_iff (h : ExactAngles tables calib i azimuth) (p : Xyz ℝ) :
    isBackward tables calib i azimuth p = true ↔ h.angles.beam.along p.toVec ≤ 0 := by
  -- the sum that the driver computes is the scalar product
  have halong : h.angles.beam.along p.toVec =
      (p.x + qtCorrectionOdot) * calib.cosElevationMap i * tables.sinAzimuthMap azimuth +
        (p.y - qtCorrectionOdog) * calib.cosElevationMap i * tables.cosAzimuthMap azimuth +
          p.z * calib.sinElevationMap i := by
    simp only [Beam.along, QtAngles.beam, ExactAngles.angles, Xyz.toVec, dotProduct,
      Fin.sum_univ_three, Pi.sub_apply, Matrix.cons_val]
    ring
  rw [halong]
  exact decide_eq_true_iff

theorem choose_eq_or_eq (roots : QtRoots) :
    roots.choose tables calib i azimuth = roots.plus ∨
      roots.choose tables calib i azimuth = roots.minus := by
  unfold QtRoots.choose
  split
  · exact Or.inr rfl
  · exact Or.inl rfl

theorem choose_toVec (h : ExactAngles tables calib i azimuth) (roots : QtRoots) :
    (roots.choose tables calib i azimuth).toVec =
      if h.angles.beam.along roots.plus.toVec ≤ 0 then roots.minus.toVec
      else roots.plus.toVec := by
  simp only [QtRoots.choose, isBackward_iff h]
  exact apply_ite Xyz.toVec _ _ _

theorem choose_forward (h : ExactAngles tables calib i azimuth) (hd : 1 / 10 < d)
    {roots : QtRoots} (hroots : h.angles.Crosses d roots) :
    h.angles.beam.Forward (roots.choose tables calib i azimuth).toVec := by
  rw [choose_toVec h]
  exact hroots.crossing.forward_ite (QtAngles.centre_inside hd)

theorem toVec_dotProduct_self (p : Xyz ℝ) :
    p.toVec ⬝ᵥ p.toVec = p.x ^ 2 + p.y ^ 2 + p.z ^ 2 := by
  simp only [Xyz.toVec, dotProduct, Fin.sum_univ_three, Matrix.cons_val]
  ring

/-- Both candidates are at the measured distance. -/
theorem choose_distance (h : ExactAngles tables calib i azimuth) (hd : 1 / 10 < d)
    {roots : QtRoots} (hroots : h.angles.Crosses d roots) {p : Xyz ℝ}
    (hp : p = roots.plus ∨ p = roots.minus) : √(p.x ^ 2 + p.y ^ 2 + p.z ^ 2) = d := by
  have hsquare : p.toVec ⬝ᵥ p.toVec = d ^ 2 := by
    rcases hp with rfl | rfl
    · exact hroots.crossing.left
    · exact hroots.crossing.right
  rw [← toVec_dotProduct_self, hsquare]
  exact Real.sqrt_sq (by linarith)

/-- What is chosen is on the beam, at the measured distance. -/
theorem calcQTXYZ_onBeam {cfg : Config ℝ} (hflag : cfg.coordinateCorrectionFlag = true)
    (h : ExactAngles cfg.tables calib i azimuth) {distance : Rat} (hd : 1 / 10 < distance)
    {p : Xyz ℝ} (hp : calcQTXYZ cfg calib i azimuth distance = p) :
    √(p.x ^ 2 + p.y ^ 2 + p.z ^ 2) = distance ∧ h.angles.beam.Forward p.toVec := by
  have hd' : ((1 / 10 : Rat) : ℝ) < distance := Rat.cast_lt.mpr hd
  rw [Rat.cast_div, Rat.cast_one, Rat.cast_ofNat] at hd'
  -- both candidates are crossings, so either choice has the distance
  have hroots := @QtAngles.crosses_qtRoots h.angles distance hd'
  rw [calcQTXYZ_eq calib i azimuth cfg hflag] at hp
  subst hp
  exact ⟨choose_distance h hd' hroots (choose_eq_or_eq _), choose_forward h hd' hroots⟩

end Choice

/-! ## The tables of the driver -/

/-- Sines and cosines in exact arithmetic. -/
noncomputable def LoadEnv.exact : LoadEnv ℝ where
  elevAngle _ := 0
  azimuthOffset _ := 0
  elev _ := 0
  azimuth _ := 0
  sinDegree x := Real.sin (x * Real.pi / 180)
  cosDegree x := Real.cos (x * Real.pi / 180)

/-- The tables that are indexed by an azimuth, in exact arithmetic, and zeros. -/
noncomputable def Tables.exact : Tables ℝ :=
  ⟨fun k => Real.sin (k * Real.pi / 18000), fun k => Real.cos (k * Real.pi / 18000),
    fun _ => 0, fun _ => 0, fun _ => 0, fun _ => 0, fun _ => 0, fun _ => 0, fun _ => 0,
    fun _ => 0, fun _ => 0, fun _ => 0, fun _ => 0, fun _ => 0, fun _ => 0, fun _ => 0,
    fun _ => 0, fun _ => 0, fun _ => 0, fun _ => 0, fun _ => 0, fun _ => 0, fun _ => 0⟩

/-- All elevations of the constructor are below a right angle. -/
theorem initAngles_elevation (lidarType : String) :
    ∀ row ∈ initAngles lidarType, |row.1| < 90 := by
  unfold initAngles
  repeat' split
  all_goals decide +kernel

theorem cosDegree_pos {q : Rat} (hq : |q| < 90) : 0 < LoadEnv.exact.cosDegree (ofRat q) := by
  obtain ⟨hlow, hhigh⟩ := abs_lt.mp hq
  have hlow' : (-90 : ℝ) < q := by exact_mod_cast hlow
  have hhigh' : (q : ℝ) < 90 := by exact_mod_cast hhigh
  have hpi := Real.pi_pos
  refine Real.cos_pos_of_mem_Ioo ⟨?_, ?_⟩
  · show -(Real.pi / 2) < q * Real.pi / 180
    nlinarith
  · show q * Real.pi / 180 < Real.pi / 2
    nlinarith

/-- The constructor leaves exact angles, for every laser and every azimuth. -/
theorem exactAngles_init (stale : CalibrationTables ℝ) {lidarType : String} {i : Nat}
    (hi : i < initLasers lidarType) (azimuth : Int) :
    ExactAngles Tables.exact (initCalibration LoadEnv.exact stale lidarType).toCalibration i
      azimuth := by
  have hrow : (initAngles lidarType)[i]? = some (initAngles lidarType)[i] :=
    List.getElem?_eq_getElem hi
  have hpos := cosDegree_pos (initAngles_elevation lidarType _ (List.getElem_mem hi))
  refine ⟨?_, Real.sin_sq_add_cos_sq _, ?_⟩
  · -- the elevation is the one of the row, and below a right angle
    simp only [initCalibration, hrow]
    exact Real.sin_sq_add_cos_sq _
  · simp only [initCalibration, hrow]
    exact hpos

/-- A PandarQT with the correction. -/
noncomputable def qtConfig : Config ℝ where
  charSigned := true
  pclCallback := true
  startAngle := 0
  pclType := 0
  lidarType := "PandarQT"
  frameId := "rslidar"
  timestampType := "realtime"
  coordinateCorrectionFlag := true
  tzSecond := 0
  mktime := fun _ => 0
  tables := Tables.exact

noncomputable def qtCalibration : Calibration ℝ :=
  (initCalibration LoadEnv.exact ⟨⟨fun _ => 0, fun _ => 0, fun _ => 0, fun _ => 0⟩, 0⟩
    qtConfig.lidarType).toCalibration

/-! ## Main results -/

variable {cfg : Config ℝ} {calib : Calibration ℝ} {i : Nat} {azimuth : Int} {d : ℝ}

/-- Every point of a corrected block is on the beam of its laser, at the measured distance. -/
theorem qt_points_onBeam (hflag : cfg.coordinateCorrectionFlag = true) {stamp : ℝ}
    {pkt : LidarPacket} {blockid : Nat} {p : PPoint ℝ}
    (hp : p ∈ blockPoints cfg calib stamp blockid (.qt pkt))
    (hexact : ExactAngles cfg.tables calib p.ring
      (laserAzimuth calib p.ring (pkt.blocks.getD blockid default).azimuth)) :
    √(p.x ^ 2 + p.y ^ 2 + p.z ^ 2) =
        ((pkt.blocks.getD blockid default).units.getD p.ring default).distance ∧
      hexact.angles.beam.Forward ![p.x, p.y, p.z] := by
  obtain ⟨i, -, hright, rfl⟩ := mem_unitPoints.mp hp
  have hd : 1 / 10 < ((pkt.blocks.getD blockid default).units.getD i default).distance := by
    simp only [LidarUnit.isWrong, Bool.or_eq_false_iff, decide_eq_false_iff_not, not_le] at hright
    exact hright.1
  exact calcQTXYZ_onBeam hflag hexact hd rfl

/-- The first laser, which looks down, turned to the rear. -/
theorem exactAngles_rear : ExactAngles qtConfig.tables qtCalibration 0 18000 :=
  exactAngles_init _ (by decide) 18000

/-- The correction finds the point of the beam at the measured distance. -/
theorem qt_correction_exact (hflag : cfg.coordinateCorrectionFlag = true)
    (hexact : ExactAngles cfg.tables calib i azimuth) (hd : 1 / 10 < d) :
    let beam := hexact.angles.beam
    let roots := qtRoots (calib.sinElevationMap i) (calib.cosElevationMap i)
      (cfg.tables.sinAzimuthMap azimuth) (cfg.tables.cosAzimuthMap azimuth) d
    let p := roots.choose cfg.tables calib i azimuth
    (∀ distance : Rat, distance = d → calcQTXYZ cfg calib i azimuth distance = p) ∧
      √(p.x ^ 2 + p.y ^ 2 + p.z ^ 2) = d ∧ beam.Forward p.toVec ∧
      0 ≤ roots.discriminant ∧
      Xor (beam.Forward roots.plus.toVec) (beam.Forward roots.minus.toVec) ∧
      (p = roots.plus ∨ p = roots.minus) := by
  intro beam roots p
  have hroots : hexact.angles.Crosses d roots := QtAngles.crosses_qtRoots hd
  have hchosen : p = roots.plus ∨ p = roots.minus := choose_eq_or_eq roots
  refine ⟨?_, choose_distance hexact hd hroots hchosen, choose_forward hexact hd hroots,
    hroots.discriminant_pos.le,
    hroots.crossing.xor_forward (QtAngles.centre_inside hd), hchosen⟩
  rintro distance rfl
  exact calcQTXYZ_eq calib i azimuth cfg hflag distance

theorem qt_correction_exact_rear :
    let p := calcQTXYZ qtConfig qtCalibration 0 18000 1
    √(p.x ^ 2 + p.y ^ 2 + p.z ^ 2) = 1 ∧ exactAngles_rear.angles.beam.Forward p.toVec := by
  intro p
  have hd : (1 : ℝ) / 10 < 1 := by norm_num
  obtain ⟨hp, hdistance, hforward, -⟩ := qt_correction_exact rfl exactAngles_rear hd
  have hone : p = _ := hp 1 Rat.cast_one
  rw [hone]
  exact ⟨hdistance, hforward⟩

end Hesai
