import Mathlib
import PlateSolver.Proofs.Angle.Sphere

/-!
# The distance as an angle

A position is a unit vector of space, and the distance of two positions is the angle between the
vectors.  All that is expected of a distance on the sphere is then known of it: it does not depend
on the names of the two positions, nor on their order, and only a position and itself are at no
distance.  The haversine is never greater than one, so that the cap on its root, which is there for
sums that are rounded, changes nothing.

* `Angle.unitVector` — the unit vector of a position; `inner_unitVector` — inner products.
* `Angle.haversine` — what is under the root of the formula, and `haversine_real`.
* `Angle.separation_eq_angle` — the distance is the angle between the unit vectors.
* `Angle.IsMetric` — what a distance on the sphere is; `Angle.isMetric` — this one is.
-/

namespace PlateSolver.Angle

open Exact

/-! ## Unit vectors -/

/-- **The unit vector of a position**, given by its angles in radians. -/
noncomputable def unitVector (ra dec : ℝ) : EuclideanSpace ℝ (Fin 3) :=
  .toLp _ ![(direction ra dec).1, (direction ra dec).2.1, (direction ra dec).2.2]

theorem inner_unitVector (ra₁ dec₁ ra₂ dec₂ : ℝ) :
    inner ℝ (unitVector ra₁ dec₁) (unitVector ra₂ dec₂) = dot ra₁ dec₁ ra₂ dec₂ := by
  rw [PiLp.inner_apply, Fin.sum_univ_three, dot, Real.cos_sub]
  simp only [unitVector, direction, PiLp.toLp_apply, Matrix.cons_val, RCLike.inner_apply,
    conj_trivial]
  ring

theorem norm_unitVector (ra dec : ℝ) : ‖unitVector ra dec‖ = 1 := by
  have hsq : ‖unitVector ra dec‖ ^ 2 = 1 := by
    rw [← real_inner_self_eq_norm_sq, inner_unitVector, dot, sub_self, Real.cos_zero, mul_one]
    linarith [Real.sin_sq_add_cos_sq dec]
  exact (pow_eq_one_iff_of_nonneg (norm_nonneg _) two_ne_zero).mp hsq

theorem angle_unitVector (ra₁ dec₁ ra₂ dec₂ : ℝ) :
    InnerProductGeometry.angle (unitVector ra₁ dec₁) (unitVector ra₂ dec₂) =
      Real.arccos (dot ra₁ dec₁ ra₂ dec₂) := by
  rw [InnerProductGeometry.angle, norm_unitVector, norm_unitVector, mul_one, div_one,
    inner_unitVector]

/-- Only equal unit vectors have no angle between them. -/
theorem angle_unitVector_eq_zero_iff (ra₁ dec₁ ra₂ dec₂ : ℝ) :
    InnerProductGeometry.angle (unitVector ra₁ dec₁) (unitVector ra₂ dec₂) = 0 ↔
      unitVector ra₁ dec₁ = unitVector ra₂ dec₂ := by
  rw [angle_unitVector, Real.arccos_eq_zero, ← inner_unitVector,
    ← inner_eq_one_iff_of_norm_eq_one (𝕜 := ℝ) (norm_unitVector _ _) (norm_unitVector _ _)]
  exact ⟨fun h => le_antisymm ((inner_unitVector _ _ _ _).trans_le (dot_le_one _ _ _ _)) h, Eq.ge⟩

/-- Whole turns make no difference to a position. -/
theorem unitVector_add_turns (ra dec : ℝ) (turns : ℤ) :
    unitVector (ra + turns * (2 * Real.pi)) dec = unitVector ra dec := by
  rw [unitVector, unitVector, direction, direction, Real.cos_add_int_mul_two_pi,
    Real.sin_add_int_mul_two_pi]

/-! ## The haversine -/

/-- What is under the root of the haversine formula. -/
def haversine {α : Type} [Analytic α] (ra₁ dec₁ ra₂ dec₂ : α) : α :=
  let sinDec := Analytic.sin ((dec₂ - dec₁) / 2)
  let sinRa := Analytic.sin ((ra₂ - ra₁) / 2)
  sinDec * sinDec + Analytic.cos dec₁ * Analytic.cos dec₂ * sinRa * sinRa

theorem separation_eq_haversine {α : Type} [Analytic α] (ra₁ dec₁ ra₂ dec₂ : α) :
    separation ra₁ dec₁ ra₂ dec₂ =
      2 * Analytic.asin (Scalar.smaller (Analytic.sqrt (haversine ra₁ dec₁ ra₂ dec₂)) 1) := rfl

/-- **The haversine lies between zero and one**, so it has a root, and the root needs no cap. -/
theorem haversine_real (ra₁ dec₁ ra₂ dec₂ : ℝ) :
    ∃ h : ℝ, haversine (real ra₁) (real dec₁) (real ra₂) (real dec₂) = real h ∧ 0 ≤ h ∧ h ≤ 1 := by
  refine ⟨(1 - dot ra₁ dec₁ ra₂ dec₂) / 2, ?_, by linarith [dot_le_one ra₁ dec₁ ra₂ dec₂],
    by linarith [neg_one_le_dot ra₁ dec₁ ra₂ dec₂]⟩
  rw [← haversine_eq]
  simp only [haversine, numeral_eq, real_sub, real_div _ (two_ne_zero' ℝ), sin_real, cos_real,
    real_mul, real_add]

theorem smaller_sqrt_haversine (ra₁ dec₁ ra₂ dec₂ : ℝ) :
    Scalar.smaller (Analytic.sqrt (haversine (real ra₁) (real dec₁) (real ra₂) (real dec₂))) 1 =
      Analytic.sqrt (haversine (real ra₁) (real dec₁) (real ra₂) (real dec₂)) := by
  obtain ⟨h, hhaversine, hlow, hhigh⟩ := haversine_real ra₁ dec₁ ra₂ dec₂
  rw [hhaversine, sqrt_real hlow, one_eq, smaller_real, min_eq_left (Real.sqrt_le_one.mpr hhigh)]

/-! ## The distance -/

/-- **The distance is the angle between the unit vectors.** -/
theorem separation_eq_angle (ra₁ dec₁ ra₂ dec₂ : ℝ) :
    separation (real ra₁) (real dec₁) (real ra₂) (real dec₂) =
      real (InnerProductGeometry.angle (unitVector ra₁ dec₁) (unitVector ra₂ dec₂)) := by
  rw [separation_real, angle_unitVector]

/-- **A distance on the sphere**, of positions that are given by their angles, where `turn` is a
whole turn. -/
structure IsMetric (turn : ℝ) (distance : ℝ → ℝ → ℝ → ℝ → Exact) : Prop where
  /-- It is the angle between the unit vectors. -/
  eq_angle (ra₁ dec₁ ra₂ dec₂ : ℝ) : distance ra₁ dec₁ ra₂ dec₂ =
    real (InnerProductGeometry.angle (unitVector ra₁ dec₁) (unitVector ra₂ dec₂))
  /-- Which is the arccosine of their inner product. -/
  eq_arccos (ra₁ dec₁ ra₂ dec₂ : ℝ) : distance ra₁ dec₁ ra₂ dec₂ =
    real (Real.arccos (inner ℝ (unitVector ra₁ dec₁) (unitVector ra₂ dec₂)))
  /-- The order of the positions does not matter. -/
  symm (ra₁ dec₁ ra₂ dec₂ : ℝ) : distance ra₁ dec₁ ra₂ dec₂ = distance ra₂ dec₂ ra₁ dec₁
  /-- Distances are not negative. -/
  nonneg (ra₁ dec₁ ra₂ dec₂ : ℝ) : real 0 ≤ distance ra₁ dec₁ ra₂ dec₂
  /-- Nothing is farther than the antipode. -/
  le_pi (ra₁ dec₁ ra₂ dec₂ : ℝ) : distance ra₁ dec₁ ra₂ dec₂ ≤ real Real.pi
  /-- Only equal positions are at no distance. -/
  eq_zero_iff (ra₁ dec₁ ra₂ dec₂ : ℝ) :
    distance ra₁ dec₁ ra₂ dec₂ = real 0 ↔ unitVector ra₁ dec₁ = unitVector ra₂ dec₂
  /-- Whole turns do not matter. -/
  add_turns (ra₁ dec₁ ra₂ dec₂ : ℝ) (m n : ℤ) :
    distance (ra₁ + m * turn) dec₁ (ra₂ + n * turn) dec₂ = distance ra₁ dec₁ ra₂ dec₂

/-- The haversine formula is one. -/
theorem isMetric :
    IsMetric (2 * Real.pi) fun ra₁ dec₁ ra₂ dec₂ =>
      separation (real ra₁) (real dec₁) (real ra₂) (real dec₂) where
  eq_angle := separation_eq_angle
  eq_arccos ra₁ dec₁ ra₂ dec₂ := by rw [separation_real, inner_unitVector]
  symm ra₁ dec₁ ra₂ dec₂ := by
    rw [separation_eq_angle, separation_eq_angle, InnerProductGeometry.angle_comm]
  nonneg ra₁ dec₁ ra₂ dec₂ := by
    rw [separation_eq_angle]
    exact InnerProductGeometry.angle_nonneg _ _
  le_pi ra₁ dec₁ ra₂ dec₂ := by
    rw [separation_eq_angle]
    exact InnerProductGeometry.angle_le_pi _ _
  eq_zero_iff ra₁ dec₁ ra₂ dec₂ := by
    rw [separation_eq_angle, real.injEq, angle_unitVector_eq_zero_iff]
  add_turns ra₁ dec₁ ra₂ dec₂ m n := by
    rw [separation_eq_angle, separation_eq_angle, unitVector_add_turns, unitVector_add_turns]

end PlateSolver.Angle
