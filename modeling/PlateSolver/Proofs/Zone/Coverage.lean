import PlateSolver.Proofs.Angle.Cap
import PlateSolver.Proofs.Zone.Sectors

/-!
# Which cones are covered

The ranges of a cone are rectangles in right ascension and declination, and the cone is
a cap of the sphere.  Whoever asks for a cone relies on the rectangles to cover the cap;
whether they do depends on the half-width of the windows, radius over cosine of
declination, which is too little except where it need not be more.

* `Covers` — the ranges of a cone hold every position of the cone.
* `covers_iff_windows` — declination is no trouble, so it comes down to right ascension.
* `covers_iff` — the cones that are covered: single points, those centred on the equator,
  and those wide enough for the windows to take in everything.

## Design decisions

Cones that meet three bands are left aside: of these the northernmost band is not
scanned at all, which is a known limit of the layout and not a question of windows.
-/

namespace PlateSolver.Zone

open Exact Angle

/-- **Covering.**  Every position on the sky that is within the radius of the centre lies in
a range of the cone, in the zone that holds its declination. -/
def Covers (cone : Cone Exact) : Prop :=
  ∃ ranges, partition cone = .ok ranges ∧
    ∀ ra dec : ℝ, 0 ≤ ra ∧ ra < 2 * Real.pi → |dec| ≤ Real.pi / 2 →
      separation cone.ra cone.dec (real ra) (real dec) ≤ cone.radius →
      ∃ range ∈ ranges, range.zone = bandIndex (toDegrees (real dec)) * zoneStep ∧
        range.radians.Contains (real ra) (real dec)

section Cones

variable {ra dec radius : ℝ}

/-- What the windows of a cone cover, in radians. -/
theorem exists_mem_windowsOf_degrees_iff (hra : 0 ≤ ra ∧ ra < 2 * Real.pi) (hradius : 0 ≤ radius)
    {x : ℝ} (hx : 0 ≤ x ∧ x < 2 * Real.pi) :
    (∃ window ∈ windowsOf (degrees ra) (degrees dec) (degrees radius),
        window.1 ≤ degrees x ∧ degrees x ≤ window.2) ↔
      Real.pi * Real.cos dec ≤ radius ∨ |x - ra| ≤ radius / Real.cos dec ∨
        2 * Real.pi - radius / Real.cos dec ≤ |x - ra| := by
  have hdegrees {x : ℝ} (hx : 0 ≤ x ∧ x < 2 * Real.pi) : 0 ≤ degrees x ∧ degrees x < 360 :=
    ⟨degrees_nonneg.mpr hx.1, degrees_lt_turn.mpr hx.2⟩
  rw [exists_mem_windowsOf_iff (hdegrees hra) (degrees_nonneg.mpr hradius) (hdegrees hx),
    radians_degrees, ← degrees_mul, ← degrees_turn, ← degrees_sub, abs_degrees, ← degrees_div,
    ← degrees_sub, degrees_le_degrees, degrees_le_degrees, degrees_le_degrees]

/-- A declination on the sky is at most ninety degrees either way. -/
theorem degrees_bounds {y : ℝ} (hy : |y| ≤ Real.pi / 2) : -90 ≤ degrees y ∧ degrees y ≤ 90 := by
  have hquarter : degrees (Real.pi / 2) = 90 := by
    rw [degrees_div, degrees_pi]
    norm_num
  rw [← abs_le, abs_degrees, ← hquarter, degrees_le_degrees]
  exact hy

/-- The windows of a cone that is not too wide reach what the cosine says is near. -/
theorem reached_iff_cos_le (hra : 0 ≤ ra ∧ ra < 2 * Real.pi) (hradius : 0 ≤ radius)
    (hnarrow : radius < Real.pi * Real.cos dec) {x : ℝ} (hx : 0 ≤ x ∧ x < 2 * Real.pi) :
    (Real.pi * Real.cos dec ≤ radius ∨ |x - ra| ≤ radius / Real.cos dec ∨
        2 * Real.pi - radius / Real.cos dec ≤ |x - ra|) ↔
      Real.cos (radius / Real.cos dec) ≤ Real.cos (x - ra) := by
  have hpos : 0 < Real.cos dec := pos_of_mul_pos_right (hradius.trans_lt hnarrow) Real.pi_pos.le
  have hdistance : |x - ra| ≤ 2 * Real.pi := abs_le.mpr ⟨by linarith [hx.1, hra.2], by
    linarith [hx.2, hra.1]⟩
  rw [cos_le_cos_iff hdistance (div_nonneg hradius hpos.le) ((div_le_iff₀ hpos).mpr hnarrow.le)]
  exact or_iff_right hnarrow.not_ge

/-- **It comes down to right ascension.**  A cone that meets two bands at most is covered if
the windows reach every right ascension that the cone does. -/
theorem covers_iff_windows (hra : 0 ≤ ra ∧ ra < 2 * Real.pi) (hdec : |dec| ≤ Real.pi / 2)
    (hradius : 0 ≤ radius ∧ radius < Angle.radians (15 / 2))
    (hbands : bandIndex (toDegrees (real (dec + radius))) ≤
      bandIndex (toDegrees (real (dec - radius))) + 1) :
    Covers ⟨real ra, real dec, real radius⟩ ↔
      ∀ x y : ℝ, 0 ≤ x ∧ x < 2 * Real.pi → |y| ≤ Real.pi / 2 → Real.cos radius ≤ dot ra dec x y →
        Real.pi * Real.cos dec ≤ radius ∨ |x - ra| ≤ radius / Real.cos dec ∨
          2 * Real.pi - radius / Real.cos dec ≤ |x - ra| := by
  have hhalf : radius ≤ Real.pi := by
    have : Angle.radians (15 / 2) ≤ Real.pi := by
      rw [Angle.radians]
      linarith [Real.pi_pos]
    linarith
  rw [toDegrees_real, toDegrees_real, degrees_add, degrees_sub] at hbands
  have hrange {x y : ℝ} (hx : 0 ≤ x ∧ x < 2 * Real.pi) (hy : |y| ≤ Real.pi / 2)
      (hnear : Real.cos radius ≤ dot ra dec x y) :
      (∃ range ∈ (sectors (degrees ra) (degrees dec) (degrees radius)).map Range.exact,
          range.zone = bandIndex (toDegrees (real y)) * zoneStep ∧
            range.radians.Contains (real x) (real y)) ↔
        Real.pi * Real.cos dec ≤ radius ∨ |x - ra| ≤ radius / Real.cos dec ∨
          2 * Real.pi - radius / Real.cos dec ≤ |x - ra| := by
    -- Declinations differ by no more than the distance, so the bands are the right ones.
    have hclose : |degrees y - degrees dec| ≤ degrees radius := by
      rw [← degrees_sub, abs_degrees, degrees_le_degrees]
      exact abs_sub_le_of_cos_le_dot hdec hy hradius.1 hhalf hnear
    rw [← exists_mem_windowsOf_degrees_iff hra hradius.1 hx,
      ← exists_mem_sectors_iff hbands (degrees_bounds hy) hclose]
    simp only [List.mem_map, exists_exists_and_eq_and, Range.exact_contains, toDegrees_real]
    rfl
  unfold Covers
  rw [partition_real ra hdec hradius.1 hradius.2]
  constructor
  · rintro ⟨ranges, hranges, hcovers⟩ x y hx hy hnear
    rw [← hrange hx hy hnear, Except.ok.inj hranges]
    exact hcovers x y hx hy ((separation_le_iff ra dec x y hradius.1 hhalf).mpr hnear)
  · refine fun hwindows => ⟨_, rfl, fun x y hx hy hnear => ?_⟩
    have hnear' := (separation_le_iff ra dec x y hradius.1 hhalf).mp hnear
    exact (hrange hx hy hnear').mpr (hwindows x y hx hy hnear')

/-- A cone is not covered if some position of it lies beyond the reach of its windows. -/
theorem not_covers_of_beyond (hra : 0 ≤ ra ∧ ra < 2 * Real.pi) (hdec : |dec| ≤ Real.pi / 2)
    (hradius : 0 ≤ radius ∧ radius < Angle.radians (15 / 2))
    (hbands : bandIndex (toDegrees (real (dec + radius))) ≤
      bandIndex (toDegrees (real (dec - radius))) + 1)
    (hnarrow : radius < Real.pi * Real.cos dec) {y distance : ℝ} (hy : |y| ≤ Real.pi / 2)
    (hdistance : 0 ≤ distance ∧ distance ≤ Real.pi)
    (hdot : Real.cos radius ≤ dot 0 dec distance y)
    (hbeyond : Real.cos distance < Real.cos (radius / Real.cos dec)) :
    ¬Covers ⟨real ra, real dec, real radius⟩ := by
  intro hcovers
  obtain ⟨x, hx, hcos⟩ := exists_ra_cos hra hdistance
  rw [← dot_congr hcos] at hdot
  have hreached := (covers_iff_windows hra hdec hradius hbands).mp hcovers x y hx hy hdot
  rw [reached_iff_cos_le hra hradius.1 hnarrow hx, hcos] at hreached
  exact hbeyond.not_ge hreached

/-- **Which cones are covered.**  Of the cones whose centre is a position on the sky, whose
radius is below the limit and which meet two bands at most, these: single points, those
centred on the equator, and those so wide for their declination that the windows take in
every right ascension. -/
theorem covers_iff (hra : 0 ≤ ra ∧ ra < 2 * Real.pi) (hdec : |dec| ≤ Real.pi / 2)
    (hradius : 0 ≤ radius ∧ radius < Angle.radians (15 / 2))
    (hbands : bandIndex (toDegrees (real (dec + radius))) ≤
      bandIndex (toDegrees (real (dec - radius))) + 1) :
    Covers ⟨real ra, real dec, real radius⟩ ↔
      radius = 0 ∨ dec = 0 ∨ Real.pi * Real.cos dec ≤ radius := by
  have hquarter : radius < Real.pi / 2 := by
    have : Angle.radians (15 / 2) ≤ Real.pi / 2 := by
      rw [Angle.radians]
      linarith [Real.pi_pos]
    linarith [hradius.2]
  constructor
  · intro hcovers
    by_contra hnot
    obtain ⟨hpoint, hequator, hwide⟩ : radius ≠ 0 ∧ dec ≠ 0 ∧ ¬Real.pi * Real.cos dec ≤ radius := by
      simpa only [not_or] using hnot
    have hnarrow := not_le.mp hwide
    obtain ⟨y, distance, hy, hdistance, hdot, hbeyond⟩ :=
      exists_beyond hdec hequator ⟨hradius.1.lt_of_ne' hpoint, hquarter⟩ hnarrow
    exact not_covers_of_beyond hra hdec hradius hbands hnarrow hy hdistance hdot hbeyond hcovers
  · intro hcases
    refine (covers_iff_windows hra hdec hradius hbands).mpr fun x y hx hy hdot => ?_
    rcases le_or_gt (Real.pi * Real.cos dec) radius with hwide | hnarrow
    · exact Or.inl hwide
    rw [reached_iff_cos_le hra hradius.1 hnarrow hx]
    have hpos : 0 < Real.cos dec :=
      pos_of_mul_pos_right (hradius.1.trans_lt hnarrow) Real.pi_pos.le
    rcases hcases with rfl | rfl | hwide
    · rw [zero_div]
      exact cos_le_of_dot_point hpos hdec hy hdot
    · rw [Real.cos_zero, div_one]
      exact cos_le_of_dot_equator (by rwa [abs_of_nonneg hradius.1]) hy hdot
    · exact absurd hnarrow hwide.not_gt

end Cones

/-- A cone on the equator, five degrees wide to either side, is covered. -/
theorem covers_equator :
    ((0 : ℝ) ≤ 0 ∧ 0 < 2 * Real.pi) ∧ |(0 : ℝ)| ≤ Real.pi / 2 ∧
      (0 ≤ Angle.radians 5 ∧ Angle.radians 5 < Angle.radians (15 / 2)) ∧
      bandIndex (toDegrees (real (0 + Angle.radians 5))) ≤
        bandIndex (toDegrees (real (0 - Angle.radians 5))) + 1 ∧
      Covers ⟨real 0, real 0, real (Angle.radians 5)⟩ := by
  have hturn : (0 : ℝ) < 2 * Real.pi := by positivity
  have hpole : |(0 : ℝ)| ≤ Real.pi / 2 := by
    rw [abs_zero]
    positivity
  have hradius : 0 ≤ Angle.radians 5 ∧ Angle.radians 5 < Angle.radians (15 / 2) := by
    rw [radians_lt_radians, Angle.radians]
    exact ⟨by positivity, by norm_num⟩
  have hbands : bandIndex (toDegrees (real (0 + Angle.radians 5))) ≤
      bandIndex (toDegrees (real (0 - Angle.radians 5))) + 1 := by
    have hnorth : bandIndex (real 5) = 12 :=
      bandIndex_eq (by decide) (by norm_num [bandBottom]) (by norm_num [bandBottom])
    have hsouth : bandIndex (real (-5)) = 11 :=
      bandIndex_eq (by decide) (by norm_num [bandBottom]) (by norm_num [bandBottom])
    have hneg : degrees (0 - Angle.radians 5) = -5 := by
      rw [degrees_sub, degrees_radians, degrees]
      norm_num
    rw [toDegrees_real, toDegrees_real, zero_add, degrees_radians, hneg, hnorth, hsouth]
  exact ⟨⟨le_rfl, hturn⟩, hpole, hradius, hbands,
    (covers_iff ⟨le_rfl, hturn⟩ hpole hradius hbands).mpr (Or.inr (Or.inl rfl))⟩

/-- A cone of six degrees around a centre five degrees from the pole is not: its windows end
before the meridian beyond the pole, and the pole itself is on every meridian. -/
theorem not_covers_near_pole :
    ((0 : ℝ) ≤ 0 ∧ 0 < 2 * Real.pi) ∧ |Angle.radians 85| ≤ Real.pi / 2 ∧
      (0 ≤ Angle.radians 6 ∧ Angle.radians 6 < Angle.radians (15 / 2)) ∧
      bandIndex (toDegrees (real (Angle.radians 85 + Angle.radians 6))) ≤
        bandIndex (toDegrees (real (Angle.radians 85 - Angle.radians 6))) + 1 ∧
      separation (real 0) (real (Angle.radians 85)) (real Real.pi) (real (Real.pi / 2)) ≤
        real (Angle.radians 6) ∧
      ¬Covers ⟨real 0, real (Angle.radians 85), real (Angle.radians 6)⟩ := by
  have hpi := Real.pi_pos
  have hturn : (0 : ℝ) < 2 * Real.pi := by positivity
  have hdec : |Angle.radians 85| ≤ Real.pi / 2 := by
    rw [Angle.radians, abs_of_pos (by positivity)]
    linarith
  have hradius : 0 ≤ Angle.radians 6 ∧ Angle.radians 6 < Angle.radians (15 / 2) := by
    rw [radians_lt_radians, Angle.radians]
    exact ⟨by positivity, by norm_num⟩
  have hbands : bandIndex (toDegrees (real (Angle.radians 85 + Angle.radians 6))) ≤
      bandIndex (toDegrees (real (Angle.radians 85 - Angle.radians 6))) + 1 := by
    have hnorth : bandIndex (real (85 + 6)) ≤ 23 := by
      rw [bandIndex_real]
      exact min_le_right _ _
    have hsouth : bandIndex (real (85 - 6)) = 22 :=
      bandIndex_eq (by decide) (by norm_num [bandBottom]) (by norm_num [bandBottom])
    rw [toDegrees_real, toDegrees_real, degrees_add, degrees_sub, degrees_radians, degrees_radians,
      hsouth]
    exact hnorth
  -- Seen from the pole, the centre is five degrees away.
  have hcentre : Angle.radians 85 = Real.pi / 2 - Angle.radians 5 := by
    rw [Angle.radians, Angle.radians]
    ring
  have hhalf : Angle.radians 6 ≤ Real.pi := by
    rw [Angle.radians]
    linarith
  have hdot : Real.cos (Angle.radians 6) ≤ dot 0 (Angle.radians 85) Real.pi (Real.pi / 2) := by
    rw [dot, hcentre, Real.sin_pi_div_two_sub, Real.sin_pi_div_two, Real.cos_pi_div_two]
    simp only [mul_one, mul_zero, zero_mul, add_zero]
    refine Real.cos_le_cos_of_nonneg_of_le_pi ?_ hhalf (radians_le_radians.mpr (by norm_num))
    rw [Angle.radians]
    positivity
  have hchord : (1 : ℝ) / 18 ≤ Real.cos (Angle.radians 85) := by
    have hsin := Real.mul_le_sin (x := Angle.radians 5) (by rw [Angle.radians]; positivity)
      (by rw [Angle.radians]; linarith)
    rw [hcentre, Real.cos_pi_div_two_sub]
    refine le_of_eq_of_le ?_ hsin
    rw [Angle.radians]
    field_simp
    norm_num
  have hnarrow : Angle.radians 6 < Real.pi * Real.cos (Angle.radians 85) := by
    calc Angle.radians 6 < Real.pi * (1 / 18) := by
          rw [Angle.radians]
          linarith
      _ ≤ Real.pi * Real.cos (Angle.radians 85) := by gcongr
  have hpos : 0 < Real.cos (Angle.radians 85) := by linarith
  have hbeyond : Real.cos Real.pi < Real.cos (Angle.radians 6 / Real.cos (Angle.radians 85)) :=
    Real.cos_lt_cos_of_nonneg_of_le_pi (div_nonneg hradius.1 hpos.le) le_rfl
      ((div_lt_iff₀ hpos).mpr hnarrow)
  exact ⟨⟨le_rfl, hturn⟩, hdec, hradius, hbands,
    (separation_le_iff _ _ _ _ hradius.1 hhalf).mpr hdot,
    not_covers_of_beyond ⟨le_rfl, hturn⟩ hdec hradius hbands hnarrow
      (abs_of_pos (half_pos hpi)).le ⟨hpi.le, le_rfl⟩ hdot hbeyond⟩

end PlateSolver.Zone
