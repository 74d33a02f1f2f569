import PlateSolver.Proofs.Angle.Sphere

/-!
# How wide a cap is

A cone cuts a cap out of the sphere.  Along its parallel the cap of radius `r` around
declination `δ` is about `r / cos δ` wide to either side, which is how far the scan of
a zone looks.  The cap bulges, though: away from the equator it is widest not on the
parallel of its centre but nearer the pole, where the meridians crowd together, and
there it is wider than that.  Only on the equator, or for a cap that is a single point,
does the estimate hold.

* `cos_le_cos_iff` — nearness on a circle, in terms of cosines.
* `cos_le_of_dot_point`, `cos_le_of_dot_equator` — where the estimate holds.
* `sin_div_lt` — a quotient that the concavity of the sine bounds.
* `exists_tangent` — the meridian that touches a cap.
* `exists_beyond` — everywhere else, some point of the cap lies beyond the estimate.
-/

namespace PlateSolver.Angle

/-! ## Nearness on a circle -/

/-- Of two points less than a turn apart, one is near the other, on one way around or the
other, if the cosine says so. -/
theorem cos_le_cos_iff {x width : ℝ} (hx : |x| ≤ 2 * Real.pi) (hlow : 0 ≤ width)
    (hhigh : width ≤ Real.pi) :
    Real.cos width ≤ Real.cos x ↔ |x| ≤ width ∨ 2 * Real.pi - width ≤ |x| := by
  rcases le_or_gt |x| Real.pi with hnear | hfar
  · rw [← abs_le_iff_cos_le hnear hlow hhigh]
    refine ⟨Or.inl, ?_⟩
    rintro (h | h)
    · exact h
    · linarith
  · have hrest : |2 * Real.pi - (|x|)| = 2 * Real.pi - |x| := abs_of_nonneg (by linarith)
    have hcos : Real.cos x = Real.cos (2 * Real.pi - |x|) := by
      rw [Real.cos_two_pi_sub, Real.cos_abs]
    rw [hcos, ← abs_le_iff_cos_le (by rw [hrest]; linarith) hlow hhigh, hrest]
    constructor
    · exact fun h => Or.inr (by linarith)
    · rintro (h | h)
      · linarith
      · linarith

/-- There is a right ascension at any distance of up to half a turn. -/
theorem exists_ra_cos {ra distance : ℝ} (hra : 0 ≤ ra ∧ ra < 2 * Real.pi)
    (hdistance : 0 ≤ distance ∧ distance ≤ Real.pi) :
    ∃ x, (0 ≤ x ∧ x < 2 * Real.pi) ∧ Real.cos (x - ra) = Real.cos distance := by
  obtain ⟨hlow, hhigh⟩ := hra
  obtain ⟨hnonneg, hhalf⟩ := hdistance
  rcases lt_or_ge (ra + distance) (2 * Real.pi) with h | h
  · exact ⟨ra + distance, ⟨by linarith, h⟩, by rw [add_sub_cancel_left]⟩
  · refine ⟨ra + distance - 2 * Real.pi, ⟨by linarith, by linarith⟩, ?_⟩
    rw [show ra + distance - 2 * Real.pi - ra = distance - 2 * Real.pi by ring,
      Real.cos_sub_two_pi]

/-- Only the difference of right ascensions matters. -/
theorem dot_congr {ra dec x y distance : ℝ} (h : Real.cos (x - ra) = Real.cos distance) :
    dot ra dec x y = dot 0 dec distance y := by
  rw [dot, dot, h, sub_zero]

/-! ## Where the estimate holds -/

/-- A cap that is a single point is no wider than that. -/
theorem cos_le_of_dot_point {ra dec x y : ℝ} (hpos : 0 < Real.cos dec) (hdec : |dec| ≤ Real.pi / 2)
    (hy : |y| ≤ Real.pi / 2) (h : Real.cos 0 ≤ dot ra dec x y) :
    Real.cos 0 ≤ Real.cos (x - ra) := by
  have hsame : |y - dec| ≤ 0 :=
    abs_sub_le_of_cos_le_dot hdec hy le_rfl Real.pi_pos.le h
  have hequal : y = dec := sub_eq_zero.mp (abs_nonpos_iff.mp hsame)
  rw [Real.cos_zero, dot, hequal] at h
  rw [Real.cos_zero]
  by_contra hless
  nlinarith [Real.sin_sq_add_cos_sq dec, mul_pos hpos hpos]

/-- On the equator the estimate is the radius, and caps are no wider. -/
theorem cos_le_of_dot_equator {ra x y radius : ℝ} (hradius : |radius| < Real.pi / 2)
    (hy : |y| ≤ Real.pi / 2) (h : Real.cos radius ≤ dot ra 0 x y) :
    Real.cos radius ≤ Real.cos (x - ra) := by
  have hcap : 0 < Real.cos radius := Real.cos_pos_of_mem_Ioo (abs_lt.mp hradius)
  have hcos : 0 ≤ Real.cos y := Real.cos_nonneg_of_mem_Icc (abs_le.mp hy)
  rw [dot, Real.sin_zero, Real.cos_zero, zero_mul, one_mul, zero_add] at h
  rcases le_or_gt 0 (Real.cos (x - ra)) with hfront | hback
  · exact h.trans (mul_le_of_le_one_left hfront (Real.cos_le_one y))
  · have := mul_nonpos_of_nonneg_of_nonpos hcos hback.le
    linarith

/-! ## Where it does not -/

/-- The sine of a quotient is less than the quotient of the sine: as the sine is concave,
shrinking an angle shrinks its sine by less. -/
theorem sin_div_lt {radius shrink : ℝ} (hpos : 0 < shrink) (hless : shrink < 1)
    (hradius : 0 < radius) (hwidth : radius / shrink ≤ Real.pi) :
    Real.sin (radius / shrink) < Real.sin radius / shrink := by
  have hquotient : 0 < radius / shrink := div_pos hradius hpos
  have hconcave := strictConcaveOn_sin_Icc.2 ⟨hquotient.le, hwidth⟩ ⟨le_rfl, Real.pi_pos.le⟩
    hquotient.ne' hpos (sub_pos.mpr hless) (add_sub_cancel shrink 1)
  simp only [smul_eq_mul, Real.sin_zero, mul_zero, add_zero, mul_div_cancel₀ radius hpos.ne']
    at hconcave
  rw [lt_div_iff₀ hpos, mul_comm]
  exact hconcave

/-- The touching meridian of a cap without a pole is farther away than the estimate. -/
theorem div_lt_arcsin {radius shrink : ℝ} (hradius : 0 < radius ∧ radius < Real.pi / 2)
    (hless : shrink < 1) (hpole : Real.sin radius < shrink) :
    radius / shrink < Real.arcsin (Real.sin radius / shrink) := by
  obtain ⟨hpositive, hquarter⟩ := hradius
  have hsin : 2 / Real.pi * radius ≤ Real.sin radius := Real.mul_le_sin hpositive.le hquarter.le
  have hchord : 0 < 2 / Real.pi * radius := by positivity
  have hpos : 0 < shrink := by linarith
  have hwidth : radius / shrink ≤ Real.pi / 2 := by
    rw [div_le_iff₀ hpos]
    calc radius = Real.pi / 2 * (2 / Real.pi * radius) := by field_simp
      _ ≤ Real.pi / 2 * shrink := by gcongr; linarith
  have hquotient : 0 ≤ radius / shrink := div_nonneg hpositive.le hpos.le
  have hsine : 0 ≤ Real.sin radius / shrink := div_nonneg (by linarith) hpos.le
  rw [Real.lt_arcsin_iff_sin_lt ⟨by linarith, hwidth⟩
    ⟨by linarith, (div_le_one hpos).mpr hpole.le⟩]
  exact sin_div_lt hpos hless hpositive (by linarith)

/-- A cap without a pole is touched by a meridian, whose distance from the centre has the
sine `sin r / cos δ`. -/
theorem exists_tangent {dec radius : ℝ} (hradius : 0 ≤ radius ∧ radius < Real.pi / 2)
    (hpole : Real.sin radius < Real.cos dec) :
    ∃ y, |y| ≤ Real.pi / 2 ∧
      dot 0 dec (Real.arcsin (Real.sin radius / Real.cos dec)) y = Real.cos radius := by
  have hsin : 0 ≤ Real.sin radius :=
    Real.sin_nonneg_of_nonneg_of_le_pi hradius.1 (by linarith [Real.pi_pos])
  have hcap : 0 < Real.cos radius :=
    Real.cos_pos_of_mem_Ioo ⟨by linarith [Real.pi_pos], hradius.2⟩
  have hpos : 0 < Real.cos dec := hsin.trans_lt hpole
  have hdec := Real.sin_sq_add_cos_sq dec
  have hunit := Real.sin_sq_add_cos_sq radius
  set y := Real.arcsin (Real.sin dec / Real.cos radius)
  set distance := Real.arcsin (Real.sin radius / Real.cos dec)
  have hsquares : Real.sin dec ^ 2 ≤ Real.cos radius ^ 2 := by nlinarith
  have hbound : |Real.sin dec / Real.cos radius| ≤ 1 := by
    rw [abs_div, abs_of_pos hcap, div_le_one hcap]
    exact abs_le_of_sq_le_sq hsquares hcap.le
  have hy : Real.sin y = Real.sin dec / Real.cos radius :=
    Real.sin_arcsin (abs_le.mp hbound).1 (abs_le.mp hbound).2
  have hdistance : Real.sin distance = Real.sin radius / Real.cos dec :=
    Real.sin_arcsin (by linarith [div_nonneg hsin hpos.le]) ((div_le_one hpos).mpr hpole.le)
  -- Both legs of the triangle have the square `cos² δ - sin² r`.
  have hlegs : Real.cos radius * Real.cos y = Real.cos dec * Real.cos distance := by
    refine (sq_eq_sq₀ (mul_nonneg hcap.le (Real.cos_arcsin_nonneg _))
      (mul_nonneg hpos.le (Real.cos_arcsin_nonneg _))).mp ?_
    have hleft := Real.sin_sq_add_cos_sq y
    have hright := Real.sin_sq_add_cos_sq distance
    rw [hy] at hleft
    rw [hdistance] at hright
    field_simp at hleft hright
    linarith
  refine ⟨y, abs_le.mpr ⟨Real.neg_pi_div_two_le_arcsin _, Real.arcsin_le_pi_div_two _⟩, ?_⟩
  have hleg : (Real.cos radius * Real.cos y) ^ 2 = Real.cos radius ^ 2 - Real.sin dec ^ 2 := by
    have hleft := Real.sin_sq_add_cos_sq y
    rw [hy] at hleft
    field_simp at hleft
    linarith
  have hdot : dot 0 dec distance y * Real.cos radius = Real.cos radius * Real.cos radius := by
    rw [dot, hy, sub_zero]
    field_simp
    linear_combination hleg - Real.cos radius * Real.cos y * hlegs
  exact mul_right_cancel₀ hcap.ne' hdot

/-- A cap with a pole in it, or on its edge, reaches every meridian. -/
theorem cos_le_dot_pole (distance : ℝ) {dec radius : ℝ} (hcap : 0 ≤ Real.cos radius)
    (hcos : 0 ≤ Real.cos dec) (hpole : Real.cos dec ≤ Real.sin radius) :
    ∃ y, |y| ≤ Real.pi / 2 ∧ Real.cos radius ≤ dot 0 dec distance y := by
  have hsquares : Real.cos radius ^ 2 ≤ Real.sin dec ^ 2 := by
    nlinarith [Real.sin_sq_add_cos_sq dec, Real.sin_sq_add_cos_sq radius]
  have hsin : Real.cos radius ≤ |Real.sin dec| := by
    rw [← abs_of_nonneg hcap]
    exact sq_le_sq.mp hsquares
  have hpi : |Real.pi / 2| = Real.pi / 2 := abs_of_pos Real.pi_div_two_pos
  rcases le_abs.mp hsin with hnorth | hsouth
  · exact ⟨Real.pi / 2, hpi.le, by simpa [dot] using hnorth⟩
  · exact ⟨-(Real.pi / 2), by rw [abs_neg, hpi], by simpa [dot] using hsouth⟩

/-- **Away from the equator, some point of a cap lies beyond the estimate**, unless the cap
is a point or the estimate says that it reaches all around. -/
theorem exists_beyond {dec radius : ℝ} (hdec : |dec| ≤ Real.pi / 2) (hne : dec ≠ 0)
    (hradius : 0 < radius ∧ radius < Real.pi / 2) (hwidth : radius < Real.pi * Real.cos dec) :
    ∃ y distance, |y| ≤ Real.pi / 2 ∧ (0 ≤ distance ∧ distance ≤ Real.pi) ∧
      Real.cos radius ≤ dot 0 dec distance y ∧
      Real.cos distance < Real.cos (radius / Real.cos dec) := by
  obtain ⟨hpositive, hquarter⟩ := hradius
  have hpos : 0 < Real.cos dec := by
    by_contra hnot
    have := mul_nonpos_of_nonneg_of_nonpos Real.pi_pos.le (not_lt.mp hnot)
    linarith
  have hestimate : 0 < radius / Real.cos dec := div_pos hpositive hpos
  rcases le_or_gt (Real.cos dec) (Real.sin radius) with hpole | hpole
  · -- The pole is in the cap, and so is its meridian opposite the centre.
    have hcap : 0 ≤ Real.cos radius :=
      Real.cos_nonneg_of_mem_Icc ⟨by linarith, hquarter.le⟩
    obtain ⟨y, hy, hdot⟩ := cos_le_dot_pole Real.pi hcap hpos.le hpole
    refine ⟨y, Real.pi, hy, ⟨Real.pi_pos.le, le_rfl⟩, hdot, ?_⟩
    have hless : radius / Real.cos dec < Real.pi := (div_lt_iff₀ hpos).mpr hwidth
    exact Real.cos_lt_cos_of_nonneg_of_le_pi hestimate.le le_rfl hless
  · obtain ⟨y, hy, hdot⟩ := exists_tangent ⟨hpositive.le, hquarter⟩ hpole
    refine ⟨y, Real.arcsin (Real.sin radius / Real.cos dec), hy, ?_, hdot.ge, ?_⟩
    · have hsin := Real.sin_nonneg_of_nonneg_of_le_pi hpositive.le (by linarith)
      exact ⟨Real.arcsin_nonneg.mpr (div_nonneg hsin hpos.le),
        (Real.arcsin_le_pi_div_two _).trans (by linarith)⟩
    · have hshrink : Real.cos dec < 1 := by
        have hturn := abs_le.mp hdec
        refine lt_of_le_of_ne (Real.cos_le_one dec) fun hone => hne ?_
        exact (Real.cos_eq_one_iff_of_lt_of_lt (by linarith) (by linarith)).mp hone
      exact Real.cos_lt_cos_of_nonneg_of_le_pi hestimate.le
        ((Real.arcsin_le_pi_div_two _).trans (by linarith))
        (div_lt_arcsin ⟨hpositive, hquarter⟩ hshrink hpole)

end PlateSolver.Angle
