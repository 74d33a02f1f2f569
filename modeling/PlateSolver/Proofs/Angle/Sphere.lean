import PlateSolver.Angle
import PlateSolver.Proofs.Arithmetic.Exact

/-!
# Angles and distances in exact arithmetic

The haversine formula is the choice of those who round: it keeps its digits where
two positions are close.  For reasoning, the spherical law of cosines is the better
form — the cosine of a distance is the inner product of two unit vectors — and the
two are equal.

* `Angle.radians`, `Angle.degrees` — units, over the real numbers.
* `Angle.wrap_real` — wrapping leaves out whole turns.
* `Angle.direction` — the point of the unit sphere that two angles denote, with its other names.
* `Angle.dot` — the inner product of two directions.
* `Angle.separation_real` — the haversine formula is the angle with that cosine.
* `Angle.separation_le_iff` — to be within a distance, in terms of cosines.
* `Angle.abs_sub_le_of_cos_le_dot` — declinations differ by at most the distance.
-/

namespace PlateSolver.Angle

open Exact

/-! ## Units -/

/-- Radians in an angle given in degrees, over the real numbers. -/
noncomputable def radians (degrees : ℝ) : ℝ := degrees * (Real.pi / 180)

/-- Degrees in an angle given in radians, over the real numbers. -/
noncomputable def degrees (angle : ℝ) : ℝ := angle * (180 / Real.pi)

@[simp] theorem ofDegrees_real (x : ℝ) : ofDegrees (real x) = real (radians x) := by
  simp [ofDegrees, radians]

@[simp] theorem toDegrees_real (x : ℝ) : toDegrees (real x) = real (degrees x) := by
  simp [toDegrees, degrees]

@[simp] theorem ofHours_real (x : ℝ) : ofHours (real x) = real (radians (x * 15)) := by
  simp [ofHours]

@[simp] theorem radians_degrees (x : ℝ) : radians (degrees x) = x := by
  rw [radians, degrees]
  field_simp

@[simp] theorem degrees_radians (x : ℝ) : degrees (radians x) = x := by
  rw [radians, degrees]
  field_simp

/-- Degrees, to radians and back. -/
theorem toDegrees_ofDegrees (angle : Exact) : toDegrees (ofDegrees angle) = angle := by
  cases angle with
  | real x => rw [ofDegrees_real, toDegrees_real, degrees_radians]
  | undefined => rfl

/-- Hours, to radians and back. -/
theorem toHours_ofHours (angle : Exact) : toHours (ofHours angle) = angle := by
  rw [toHours, ofHours, toDegrees_ofDegrees]
  cases angle with
  | real x =>
      rw [numeral_eq, real_mul, real_div _ (by norm_num), mul_div_cancel_right₀ x (by norm_num)]
  | undefined => rfl

theorem radians_le_radians {x y : ℝ} : radians x ≤ radians y ↔ x ≤ y :=
  mul_le_mul_iff_left₀ (by positivity)

theorem radians_lt_radians {x y : ℝ} : radians x < radians y ↔ x < y :=
  mul_lt_mul_iff_left₀ (by positivity)

theorem radians_le_iff {x y : ℝ} : radians x ≤ y ↔ x ≤ degrees y := by
  rw [← radians_le_radians (y := degrees y), radians_degrees]

theorem le_radians_iff {x y : ℝ} : x ≤ radians y ↔ degrees x ≤ y := by
  rw [← radians_le_radians (x := degrees x), radians_degrees]

theorem degrees_le_degrees {x y : ℝ} : degrees x ≤ degrees y ↔ x ≤ y :=
  mul_le_mul_iff_left₀ (by positivity)

theorem degrees_add (x y : ℝ) : degrees (x + y) = degrees x + degrees y := add_mul _ _ _

theorem degrees_sub (x y : ℝ) : degrees (x - y) = degrees x - degrees y := sub_mul _ _ _

theorem degrees_div (x y : ℝ) : degrees (x / y) = degrees x / y := div_mul_eq_mul_div _ _ _

theorem abs_degrees (x : ℝ) : |degrees x| = degrees |x| := by
  rw [degrees, degrees, abs_mul, abs_of_pos (a := 180 / Real.pi) (by positivity)]

theorem degrees_mul (x y : ℝ) : degrees (x * y) = degrees x * y := by
  rw [degrees, degrees]
  ring

theorem degrees_pi : degrees Real.pi = 180 := by
  rw [degrees]
  field_simp

theorem degrees_nonneg {x : ℝ} : 0 ≤ degrees x ↔ 0 ≤ x :=
  mul_nonneg_iff_of_pos_right (by positivity)

theorem degrees_turn : degrees (2 * Real.pi) = 360 := by
  rw [mul_comm, degrees_mul, degrees_pi]
  norm_num

theorem degrees_lt_turn {x : ℝ} : degrees x < 360 ↔ x < 2 * Real.pi := by
  rw [← degrees_turn]
  exact mul_lt_mul_iff_left₀ (by positivity)

/-! ## Whole turns -/

/-- A remainder is what is left when some whole periods are taken away, and less than one. -/
theorem exists_remainder_real {period : ℝ} (hperiod : 0 < period) (x : ℝ) :
    ∃ left : ℝ, Scalar.remainder (real x) (real period) = real left ∧ |left| < period ∧
      ∃ periods : ℤ, x = left + periods • period := by
  refine ⟨x - period * truncated (x / period), if_neg hperiod.ne', ?_,
    truncated (x / period), ?_⟩
  · have hscale : x - period * truncated (x / period) =
        period * (x / period - truncated (x / period)) := by
      rw [mul_sub, mul_div_cancel₀ _ hperiod.ne']
    rw [hscale, abs_mul, abs_of_pos hperiod]
    exact mul_lt_of_lt_one_right hperiod (abs_sub_truncated_lt _)
  · rw [zsmul_eq_mul]
    ring

/-- **Wrapping leaves out whole periods**, and what it comes to is neither negative nor as much as
a period. -/
theorem wrap_real {period : ℝ} (hperiod : 0 < period) (x : ℝ) :
    wrap (real x) (real period) = real (toIcoMod hperiod 0 x) := by
  obtain ⟨left, hremainder, habs, periods, hx⟩ := exists_remainder_real hperiod x
  obtain ⟨hlow, hhigh⟩ := abs_lt.mp habs
  -- A remainder has the sign of the dividend, and a negative one is brought up by a period.
  have hshifted : (if real left < 0 then real left + Scalar.abs (real period) else real left) =
      real (toIcoMod hperiod 0 x) := by
    rcases lt_or_ge left 0 with hneg | hpos
    · have hmod : toIcoMod hperiod 0 x = left + period := by
        rw [toIcoMod_eq_iff hperiod]
        refine ⟨⟨by linarith, by linarith⟩, periods - 1, ?_⟩
        rw [hx, sub_smul, one_smul]
        ring
      rw [if_pos (by rwa [zero_eq, real_lt]), hmod]
      exact congrArg (fun shift => real (left + shift)) (abs_of_pos hperiod)
    · have hmod : toIcoMod hperiod 0 x = left := by
        rw [toIcoMod_eq_iff hperiod]
        exact ⟨⟨hpos, by linarith⟩, periods, hx⟩
      rw [if_neg (by rwa [zero_eq, real_lt, not_lt]), hmod]
  have hlt : ¬ real period ≤ real (toIcoMod hperiod 0 x) := by
    rw [real_le, not_le]
    simpa using toIcoMod_lt_right hperiod 0 x
  unfold wrap
  rw [hremainder]
  dsimp only
  rw [hshifted, if_neg hlt]

theorem turn_real : (turn : Exact) = real (2 * Real.pi) := rfl

theorem quarter_real : (Analytic.pi : Exact) / 2 = real (Real.pi / 2) :=
  real_div Real.pi two_ne_zero

/-! ## Names of a point -/

/-- **The point of the unit sphere** with a right ascension and a declination, whatever the angles
are. -/
noncomputable def direction (ra dec : ℝ) : ℝ × ℝ × ℝ :=
  (Real.cos dec * Real.cos ra, Real.cos dec * Real.sin ra, Real.sin dec)

section Names

variable (ra dec : ℝ)

/-- Whole turns make no difference. -/
theorem direction_toIcoMod :
    direction (toIcoMod Real.two_pi_pos 0 ra) dec = direction ra dec := by
  rw [toIcoMod, direction, direction, Real.cos_periodic.sub_zsmul_eq,
    Real.sin_periodic.sub_zsmul_eq]

theorem direction_beyond_north : direction (ra + Real.pi) (Real.pi - dec) = direction ra dec := by
  rw [direction, direction, Real.cos_pi_sub, Real.sin_pi_sub, Real.cos_add_pi, Real.sin_add_pi,
    neg_mul_neg, neg_mul_neg]

theorem direction_beyond_south : direction (ra + Real.pi) (-Real.pi - dec) = direction ra dec := by
  have hturn : -Real.pi - dec = Real.pi - dec - (1 : ℤ) • (2 * Real.pi) := by
    rw [one_smul]
    ring
  rw [← direction_beyond_north ra dec, direction, direction, hturn,
    Real.cos_periodic.sub_zsmul_eq, Real.sin_periodic.sub_zsmul_eq]

end Names

/-! ## Distances -/

/-- The inner product of two directions, as unit vectors; angles in radians. -/
noncomputable def dot (ra₁ dec₁ ra₂ dec₂ : ℝ) : ℝ :=
  Real.sin dec₁ * Real.sin dec₂ + Real.cos dec₁ * Real.cos dec₂ * Real.cos (ra₂ - ra₁)

/-- As the difference of right ascensions varies, the inner product moves in a straight
line between its values on the meridian and on the opposite one. -/
theorem dot_eq_mix (ra₁ dec₁ ra₂ dec₂ : ℝ) :
    dot ra₁ dec₁ ra₂ dec₂ =
      (1 + Real.cos (ra₂ - ra₁)) / 2 * Real.cos (dec₂ - dec₁) -
        (1 - Real.cos (ra₂ - ra₁)) / 2 * Real.cos (dec₂ + dec₁) := by
  rw [dot, Real.cos_sub dec₂, Real.cos_add dec₂]
  ring

theorem dot_le_one (ra₁ dec₁ ra₂ dec₂ : ℝ) : dot ra₁ dec₁ ra₂ dec₂ ≤ 1 := by
  rw [dot_eq_mix]
  nlinarith [Real.cos_le_one (ra₂ - ra₁), Real.neg_one_le_cos (ra₂ - ra₁),
    Real.cos_le_one (dec₂ - dec₁), Real.neg_one_le_cos (dec₂ + dec₁)]

theorem neg_one_le_dot (ra₁ dec₁ ra₂ dec₂ : ℝ) : -1 ≤ dot ra₁ dec₁ ra₂ dec₂ := by
  rw [dot_eq_mix]
  nlinarith [Real.cos_le_one (ra₂ - ra₁), Real.neg_one_le_cos (ra₂ - ra₁),
    Real.neg_one_le_cos (dec₂ - dec₁), Real.cos_le_one (dec₂ + dec₁)]

/-- On any pair of meridians, positions are at most as close as on a common one. -/
theorem dot_le_cos_sub {dec₁ dec₂ : ℝ} (h₁ : 0 ≤ Real.cos dec₁) (h₂ : 0 ≤ Real.cos dec₂)
    (ra₁ ra₂ : ℝ) : dot ra₁ dec₁ ra₂ dec₂ ≤ Real.cos (dec₂ - dec₁) := by
  have hcos : Real.cos dec₁ * Real.cos dec₂ * Real.cos (ra₂ - ra₁) ≤
      Real.cos dec₁ * Real.cos dec₂ :=
    mul_le_of_le_one_right (mul_nonneg h₁ h₂) (Real.cos_le_one _)
  rw [dot, Real.cos_sub dec₂]
  linarith

/-- The haversine is the inner product, measured from the other side. -/
theorem haversine_eq (ra₁ dec₁ ra₂ dec₂ : ℝ) :
    Real.sin ((dec₂ - dec₁) / 2) * Real.sin ((dec₂ - dec₁) / 2) +
        Real.cos dec₁ * Real.cos dec₂ * Real.sin ((ra₂ - ra₁) / 2) * Real.sin ((ra₂ - ra₁) / 2) =
      (1 - dot ra₁ dec₁ ra₂ dec₂) / 2 := by
  have hhalf (x : ℝ) : Real.sin (x / 2) * Real.sin (x / 2) = (1 - Real.cos x) / 2 := by
    have hsq := Real.sin_sq_eq_half_sub (x / 2)
    rw [mul_div_cancel₀ x two_ne_zero] at hsq
    linarith [sq (Real.sin (x / 2))]
  rw [mul_assoc, hhalf, hhalf, dot, Real.cos_sub dec₂]
  ring

/-- Twice the angle whose sine is the root of a haversine. -/
theorem two_mul_arcsin_sqrt {x : ℝ} (hlow : -1 ≤ x) (hhigh : x ≤ 1) :
    2 * Real.arcsin √((1 - x) / 2) = Real.arccos x := by
  have hroot : √((1 - x) / 2) ≤ 1 := Real.sqrt_le_one.mpr (by linarith)
  have hcos : Real.cos (2 * Real.arcsin √((1 - x) / 2)) = x := by
    rw [Real.cos_two_mul, Real.cos_sq',
      Real.sin_arcsin (by linarith [Real.sqrt_nonneg ((1 - x) / 2)]) hroot,
      Real.sq_sqrt (by linarith)]
    ring
  rw [← Real.arccos_cos (x := 2 * Real.arcsin √((1 - x) / 2)), hcos]
  · linarith [Real.arcsin_nonneg.mpr (Real.sqrt_nonneg ((1 - x) / 2))]
  · linarith [Real.arcsin_le_pi_div_two √((1 - x) / 2)]

/-- **The distance is the angle between the two unit vectors.** -/
theorem separation_real (ra₁ dec₁ ra₂ dec₂ : ℝ) :
    separation (real ra₁) (real dec₁) (real ra₂) (real dec₂) =
      real (Real.arccos (dot ra₁ dec₁ ra₂ dec₂)) := by
  have hlow := neg_one_le_dot ra₁ dec₁ ra₂ dec₂
  have hhigh := dot_le_one ra₁ dec₁ ra₂ dec₂
  have hroot : √((1 - dot ra₁ dec₁ ra₂ dec₂) / 2) ≤ 1 := Real.sqrt_le_one.mpr (by linarith)
  have hsqrt : Analytic.sqrt (real ((1 - dot ra₁ dec₁ ra₂ dec₂) / 2)) =
      real √((1 - dot ra₁ dec₁ ra₂ dec₂) / 2) := sqrt_real (by linarith)
  have hasin := asin_real (by linarith [Real.sqrt_nonneg ((1 - dot ra₁ dec₁ ra₂ dec₂) / 2)]) hroot
  simp only [separation, numeral_eq, one_eq, real_sub, real_div _ (two_ne_zero' ℝ), sin_real,
    cos_real, real_mul, real_add, haversine_eq, hsqrt, smaller_real, min_eq_left hroot, hasin,
    two_mul_arcsin_sqrt hlow hhigh]

/-- To be within a distance is to have a large enough inner product. -/
theorem separation_le_iff (ra₁ dec₁ ra₂ dec₂ : ℝ) {radius : ℝ} (hlow : 0 ≤ radius)
    (hhigh : radius ≤ Real.pi) :
    separation (real ra₁) (real dec₁) (real ra₂) (real dec₂) ≤ real radius ↔
      Real.cos radius ≤ dot ra₁ dec₁ ra₂ dec₂ := by
  rw [separation_real, real_le,
    ← Real.strictAntiOn_cos.le_iff_ge ⟨hlow, hhigh⟩
      ⟨Real.arccos_nonneg _, Real.arccos_le_pi _⟩,
    Real.cos_arccos (neg_one_le_dot ra₁ dec₁ ra₂ dec₂) (dot_le_one ra₁ dec₁ ra₂ dec₂)]

/-- Angles up to half a turn compare as their cosines do. -/
theorem abs_le_iff_cos_le {x radius : ℝ} (hx : |x| ≤ Real.pi) (hlow : 0 ≤ radius)
    (hhigh : radius ≤ Real.pi) : |x| ≤ radius ↔ Real.cos radius ≤ Real.cos x := by
  rw [← Real.cos_abs x, Real.strictAntiOn_cos.le_iff_ge ⟨hlow, hhigh⟩ ⟨abs_nonneg x, hx⟩]

/-- Between two positions, declinations differ by at most the distance. -/
theorem abs_sub_le_of_cos_le_dot {ra₁ dec₁ ra₂ dec₂ radius : ℝ} (h₁ : |dec₁| ≤ Real.pi / 2)
    (h₂ : |dec₂| ≤ Real.pi / 2) (hlow : 0 ≤ radius) (hhigh : radius ≤ Real.pi)
    (h : Real.cos radius ≤ dot ra₁ dec₁ ra₂ dec₂) : |dec₂ - dec₁| ≤ radius := by
  have hcos₁ := Real.cos_nonneg_of_mem_Icc (abs_le.mp h₁)
  have hcos₂ := Real.cos_nonneg_of_mem_Icc (abs_le.mp h₂)
  rw [abs_le_iff_cos_le (by linarith [abs_sub dec₂ dec₁]) hlow hhigh]
  exact h.trans (dot_le_cos_sub hcos₁ hcos₂ ra₁ ra₂)

end PlateSolver.Angle
