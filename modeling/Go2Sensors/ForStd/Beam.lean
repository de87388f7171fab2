import Mathlib.Algebra.QuadraticDiscriminant
import Mathlib.Data.Matrix.Mul
import Mathlib.Tactic.FieldSimp
import Mathlib.Tactic.LinearCombination
import Mathlib.Tactic.Linarith

/-!
# Beams

A beam is a half-line from a centre. The points at distance `d` from the origin form a
sphere. When the centre lies inside this sphere, the line of the beam crosses it in two
points, one on either side of the centre, so that exactly one of them is on the beam
(`Crossing.xor_forward`). A program finds the two by solving a quadratic equation for one of
the coordinates (`Equation`), and tells them apart by the sign of a scalar product
(`Crossing.forward_ite`).
-/

/-- A centre, and a direction of length one. -/
structure Beam (n K : Type) [Fintype n] [Field K] where
  centre : n → K
  direction : n → K
  unit : direction ⬝ᵥ direction = 1

namespace Beam

variable {n K : Type} [Fintype n] [Field K] (beam : Beam n K)

/-- The points of the line. -/
def point (t : K) : n → K := beam.centre + t • beam.direction

/-- How far along the line a point lies. -/
def along (p : n → K) : K := (p - beam.centre) ⬝ᵥ beam.direction

variable {beam}

@[simp] theorem along_point (t : K) : beam.along (beam.point t) = t := by
  rw [along, point, add_sub_cancel_left, smul_dotProduct, beam.unit, smul_eq_mul, mul_one]

theorem point_dotProduct_self (t : K) :
    beam.point t ⬝ᵥ beam.point t =
      t ^ 2 + 2 * (beam.centre ⬝ᵥ beam.direction) * t + beam.centre ⬝ᵥ beam.centre := by
  have hcomm := dotProduct_comm beam.direction beam.centre
  simp only [point, add_dotProduct, dotProduct_add, smul_dotProduct, dotProduct_smul,
    smul_eq_mul, beam.unit, hcomm]
  ring

variable [LinearOrder K]

/-- The points of the beam. The centre is not one of them. -/
def Forward (beam : Beam n K) (p : n → K) : Prop := ∃ t, 0 < t ∧ p = beam.point t

theorem forward_point_iff {t : K} : beam.Forward (beam.point t) ↔ 0 < t := by
  constructor
  · rintro ⟨t', ht', heq⟩
    have ht := congrArg beam.along heq
    rw [along_point, along_point] at ht
    exact ht ▸ ht'
  · exact fun ht => ⟨t, ht, rfl⟩

/-! ## Solving for a coordinate -/

variable {d : K}

/-- A quadratic equation for the crossings, in a variable `origin + t * scale` that changes
    along the line. -/
structure Equation (beam : Beam n K) (d : K) where
  a : K
  b : K
  c : K
  origin : K
  scale : K
  factor : K
  a_pos : 0 < a
  scale_ne : scale ≠ 0
  factor_pos : 0 < factor
  spec (t : K) : a * ((origin + t * scale) * (origin + t * scale)) + b * (origin + t * scale) + c =
    factor * (beam.point t ⬝ᵥ beam.point t - d ^ 2)

namespace Equation

variable (eqn : beam.Equation d)

/-- The point of the line at which the variable has the value `w`. -/
def pointAt (w : K) : n → K := beam.point ((w - eqn.origin) / eqn.scale)

variable {eqn}

theorem pointAt_dotProduct_self {w : K} (hw : eqn.a * (w * w) + eqn.b * w + eqn.c = 0) :
    eqn.pointAt w ⬝ᵥ eqn.pointAt w = d ^ 2 := by
  have hspec := eqn.spec ((w - eqn.origin) / eqn.scale)
  rw [div_mul_cancel₀ _ eqn.scale_ne, add_sub_cancel, hw] at hspec
  exact sub_eq_zero.mp ((mul_eq_zero.mp hspec.symm).resolve_left eqn.factor_pos.ne')

end Equation

/-! ## The two crossings -/

/-- Two different points of the line at distance `d`. -/
structure Crossing (beam : Beam n K) (d : K) (p q : n → K) : Prop where
  parameters : ∃ t t', t ≠ t' ∧ p = beam.point t ∧ q = beam.point t'
  left : p ⬝ᵥ p = d ^ 2
  right : q ⬝ᵥ q = d ^ 2

variable [IsStrictOrderedRing K] {p q : n → K}

/-- The two crossings lie on either side of a centre inside the sphere. -/
theorem mul_neg_of_crossing {t t' : K} (hinside : beam.centre ⬝ᵥ beam.centre < d ^ 2)
    (hne : t ≠ t') (ht : beam.point t ⬝ᵥ beam.point t = d ^ 2)
    (ht' : beam.point t' ⬝ᵥ beam.point t' = d ^ 2) : t * t' < 0 := by
  rw [point_dotProduct_self] at ht ht'
  -- the two are the roots of one quadratic equation: their product is its constant term
  have hfactor : (t - t') * (t + t' + 2 * (beam.centre ⬝ᵥ beam.direction)) = 0 := by
    linear_combination ht - ht'
  have hsum : t + t' + 2 * (beam.centre ⬝ᵥ beam.direction) = 0 :=
    (mul_eq_zero.mp hfactor).resolve_left (sub_ne_zero.mpr hne)
  have hproduct : t * t' = beam.centre ⬝ᵥ beam.centre - d ^ 2 := by
    linear_combination t * hsum - ht
  rw [hproduct]
  exact sub_neg.mpr hinside

/-- Exactly one of the crossings is on the beam. -/
theorem Crossing.xor_forward (h : beam.Crossing d p q)
    (hinside : beam.centre ⬝ᵥ beam.centre < d ^ 2) :
    Xor (beam.Forward p) (beam.Forward q) := by
  obtain ⟨⟨t, t', hne, rfl, rfl⟩, hp, hq⟩ := h
  rw [forward_point_iff, forward_point_iff]
  rcases mul_neg_iff.mp (mul_neg_of_crossing hinside hne hp hq) with ⟨ht, ht'⟩ | ⟨ht, ht'⟩
  · exact Or.inl ⟨ht, ht'.le.not_gt⟩
  · exact Or.inr ⟨ht', ht.le.not_gt⟩

/-- It is the first one, unless that lies behind the centre. -/
theorem Crossing.forward_ite (h : beam.Crossing d p q)
    (hinside : beam.centre ⬝ᵥ beam.centre < d ^ 2) :
    beam.Forward (if beam.along p ≤ 0 then q else p) := by
  have hxor := h.xor_forward hinside
  obtain ⟨⟨t, t', -, rfl, rfl⟩, -, -⟩ := h
  rw [along_point]
  rw [forward_point_iff, forward_point_iff] at hxor
  split
  · next hbehind =>
    rcases hxor with ⟨hfirst, -⟩ | ⟨hsecond, -⟩
    · exact absurd hfirst hbehind.not_gt
    · exact forward_point_iff.mpr hsecond
  · next hahead => exact forward_point_iff.mpr (not_le.mp hahead)

namespace Equation

variable {eqn : beam.Equation d}

/-- At a centre inside the sphere the quadratic is negative, so that it has two roots. -/
theorem discrim_pos (hinside : beam.centre ⬝ᵥ beam.centre < d ^ 2) :
    0 < discrim eqn.a eqn.b eqn.c := by
  have hcentre := eqn.spec 0
  rw [zero_mul, add_zero, point, zero_smul, add_zero] at hcentre
  have hneg : eqn.a * (eqn.origin * eqn.origin) + eqn.b * eqn.origin + eqn.c < 0 := by
    rw [hcentre]
    exact mul_neg_of_pos_of_neg eqn.factor_pos (sub_neg.mpr hinside)
  have hsquare := sq_nonneg (2 * eqn.a * eqn.origin + eqn.b)
  have hproduct := mul_neg_of_pos_of_neg eqn.a_pos hneg
  rw [discrim]
  linarith

/-- The two roots are the two crossings. -/
theorem crossing {root : K} (hroot : discrim eqn.a eqn.b eqn.c = root * root)
    (hinside : beam.centre ⬝ᵥ beam.centre < d ^ 2) :
    beam.Crossing d (eqn.pointAt ((-eqn.b + root) / (2 * eqn.a)))
      (eqn.pointAt ((-eqn.b - root) / (2 * eqn.a))) := by
  have hsolve := quadratic_eq_zero_iff eqn.a_pos.ne' hroot
  have hroot_ne : root ≠ 0 := by
    rintro rfl
    exact (discrim_pos hinside).ne' (hroot.trans (mul_zero 0))
  refine ⟨⟨_, _, ?_, rfl, rfl⟩, pointAt_dotProduct_self ((hsolve _).mpr (Or.inl rfl)),
    pointAt_dotProduct_self ((hsolve _).mpr (Or.inr rfl))⟩
  intro heq
  have ha := eqn.a_pos.ne'
  have hscale := eqn.scale_ne
  field_simp at heq
  exact hroot_ne (by linarith)

end Equation

end Beam
