import PlateSolver.Proofs.Zone.Sectors

/-!
# The ranges of a cone are an exact cut

A cone asks for a rectangle of the sky: all right ascensions within a half-width of its
centre, around the circle, and all declinations within its radius.  The catalog is cut
differently, into bands of declination and into turns that begin at zero hours.  The
ranges of a cone are the rectangle cut along those lines: what is in the rectangle is in
some range, what is not is in none, and no position is in two ranges of one band.

* `InRectangle` — the positions a cone asks for.
* `ExactCut` — a list of ranges that cuts the rectangle of a cone.
* `partition_exactCut` — the ranges of a cone do, and a radius of 7.5 degrees has none.

## Design decisions

A cone that meets three bands gives up the northernmost one.  Then the rectangle ends at
the top of the second band, and `InRectangle` says so; a declination on that line is
still in, for it is the edge of the band below as well.
-/

namespace PlateSolver.Zone

open Exact Angle

/-- **The rectangle of a cone**, all angles in degrees. -/
structure InRectangle (ra dec radius x y : ℝ) : Prop where
  /-- The right ascension is within the half-width, or the half-width takes in all of them. -/
  near_ra : circularDistance x ra ≤ radius / Real.cos (radians dec) ∨
    180 ≤ radius / Real.cos (radians dec)
  /-- The declination is within the radius. -/
  near_dec : dec - radius ≤ y ∧ y ≤ dec + radius
  /-- Of three bands the third is left out. -/
  below_third : ∀ band, MeetsBand dec radius band → MeetsBand dec radius (band + 1) →
    MeetsBand dec radius (band + 2) → y ≤ bandBottom (band + 2)

/-- **An exact cut** of the rectangle of a cone, all angles in degrees. -/
structure ExactCut (ra dec radius : ℝ) (ranges : List (Range Exact)) : Prop where
  /-- There is a range, and there are at most four. -/
  count : 1 ≤ ranges.length ∧ ranges.length ≤ 4
  /-- They go band by band, through one band or two that touch, from south to north, and
  through the same windows in each. -/
  layout : ∃ (bands : List (Band Exact)) (windows : List (Exact × Exact)),
    bands.length ≤ 2 ∧ windows.length ≤ 2 ∧
      bands.Pairwise (fun south north => north.zone = south.zone + 75) ∧
      ranges = bands.flatMap fun band => windows.map fun window =>
        ⟨band.zone, window.1, window.2, band.low, band.high⟩
  /-- None is empty, and each lies within a turn and within the band of its files. -/
  within : ∀ range ∈ ranges, ∃ band < 24, range.zone = 75 * band ∧
    (real 0 ≤ range.raMin ∧ range.raMin ≤ range.raMax ∧ range.raMax ≤ real 360) ∧
    real (7.5 * band - 90) ≤ range.decMin ∧ range.decMin ≤ range.decMax ∧
      range.decMax ≤ real (7.5 * band - 82.5)
  /-- In one band no window overlaps another. -/
  apart : ranges.Pairwise fun first second =>
    first.zone = second.zone → first.raMax < second.raMin
  /-- They hold the positions of the rectangle, and no others. -/
  covers : ∀ x y : ℝ, 0 ≤ x ∧ x < 360 → -90 ≤ y ∧ y ≤ 90 →
    ((∃ range ∈ ranges, range.Contains (real x) (real y)) ↔ InRectangle ra dec radius x y)

/-! ## Bands -/

theorem bandBottom_mono {first second : ℕ} (h : first ≤ second) :
    bandBottom first ≤ bandBottom second := by
  unfold bandBottom
  gcongr

/-- Beyond the south pole there is only the first band. -/
theorem bandIndex_max_pole (dec : ℝ) : bandIndex (real (max dec (-90))) = bandIndex (real dec) := by
  rcases le_total (-90) dec with h | h
  · rw [max_eq_left h]
  · have hfloor : ⌊(dec + 90) / (15 / 2)⌋₊ = 0 :=
      Nat.floor_of_nonpos (by linarith)
    rw [max_eq_right h, bandIndex_real, bandIndex_real, hfloor]
    norm_num

theorem bandIndex_le (dec : Exact) : bandIndex dec ≤ 23 := min_le_right _ _

/-- A declination is not below the bottom of its band, be it south of the pole. -/
theorem lt_bandBottom_succ {dec : ℝ} (hdec : dec < 90) :
    dec < bandBottom (bandIndex (real dec) + 1) := by
  rw [bandBottom_succ, bandIndex_real]
  have hnext : (dec + 90) / (15 / 2) < ⌊(dec + 90) / (15 / 2)⌋₊ + 1 := Nat.lt_floor_add_one _
  rcases le_total ⌊(dec + 90) / (15 / 2)⌋₊ (bandCount - 1) with h | h
  · rw [min_eq_left h]
    linarith
  · rw [min_eq_right h]
    norm_num [bandCount]
    linarith

section Declination

variable {dec radius y : ℝ}

/-- A band that a cone meets is not south of that of its southern edge. -/
theorem MeetsBand.first_le {band : ℕ} (h : MeetsBand dec radius band) :
    bandIndex (real (dec - radius)) ≤ band := by
  obtain ⟨y, -, ⟨hlow, -⟩, rfl⟩ := h
  exact bandIndex_mono hlow

/-- Every band from that of the southern edge to that of a declination in the cone is met. -/
theorem meetsBand_of_between (hdec : -90 < dec ∧ dec < 90) (hradius : 0 ≤ radius)
    (hy : -90 ≤ y ∧ y ≤ 90) (hnear : dec - radius ≤ y ∧ y ≤ dec + radius) {band : ℕ}
    (hfirst : bandIndex (real (dec - radius)) ≤ band) (hlast : band ≤ bandIndex (real y)) :
    MeetsBand dec radius band := by
  rcases hfirst.eq_or_lt with rfl | hlater
  · refine ⟨max (dec - radius) (-90), ⟨le_max_right _ _, max_le (by linarith) (by norm_num)⟩,
      ⟨le_max_left _ _, max_le (by linarith) (by linarith)⟩, bandIndex_max_pole _⟩
  · -- The bottom of a later band is between the edge and the declination.
    have hcount : band ≤ 23 := hlast.trans (bandIndex_le _)
    have hbelow : bandBottom band ≤ y :=
      (bandBottom_mono hlast).trans (bandIndex_bounds hy.1 hy.2).1
    have habove : dec - radius ≤ bandBottom band :=
      (lt_bandBottom_succ (by linarith)).le.trans (bandBottom_mono hlater)
    have hpole : -90 ≤ bandBottom band := by
      have hzero := bandBottom_mono (Nat.zero_le band)
      rw [bandBottom, Nat.cast_zero] at hzero
      linarith
    refine ⟨bandBottom band, ⟨hpole, hbelow.trans hy.2⟩, ⟨habove, hbelow.trans hnear.2⟩, ?_⟩
    refine bandIndex_eq (Nat.lt_succ_of_le hcount) le_rfl ?_
    rw [bandBottom_succ, bandBottom]
    linarith

/-- **The bands of a cone hold its declinations** up to the top of the second one. -/
theorem exists_mem_bandNumbers_iff (hdec : -90 < dec ∧ dec < 90) (hradius : 0 ≤ radius)
    (hy : -90 ≤ y ∧ y ≤ 90) :
    (∃ band ∈ bandNumbers dec radius, max (dec - radius) (bandBottom band) ≤ y ∧
        y ≤ min (dec + radius) (bandBottom (band + 1))) ↔
      (dec - radius ≤ y ∧ y ≤ dec + radius) ∧
        ∀ band, MeetsBand dec radius band → MeetsBand dec radius (band + 1) →
          MeetsBand dec radius (band + 2) → y ≤ bandBottom (band + 2) := by
  have hself := bandIndex_bounds hy.1 hy.2
  constructor
  · rintro ⟨band, hband, hlow, hhigh⟩
    refine ⟨⟨(le_max_left _ _).trans hlow, hhigh.trans (min_le_left _ _)⟩, ?_⟩
    intro met hmet _ _
    have hsecond : band + 1 ≤ met + 2 := by
      have hfirst := hmet.first_le
      have hlast := (mem_bandNumbers_iff.mp hband).2.2
      omega
    exact (hhigh.trans (min_le_right _ _)).trans (bandBottom_mono hsecond)
  · rintro ⟨hnear, hthird⟩
    have hmeets {band : ℕ} : bandIndex (real (dec - radius)) ≤ band → band ≤ bandIndex (real y) →
        MeetsBand dec radius band := meetsBand_of_between hdec hradius hy hnear
    have hfirst : bandIndex (real (dec - radius)) ≤ bandIndex (real y) := bandIndex_mono hnear.1
    have hlast : bandIndex (real y) ≤ bandIndex (real (dec + radius)) := bandIndex_mono hnear.2
    rcases Nat.lt_or_ge (bandIndex (real (dec - radius)) + 1) (bandIndex (real y)) with hfar | hnext
    · -- A declination of the third band is in the cut only on the line below that band.
      have hline := hthird _ (hmeets le_rfl hfirst) (hmeets (by omega) (by omega))
        (hmeets (by omega) (by omega))
      refine ⟨bandIndex (real (dec - radius)) + 1,
        mem_bandNumbers_iff.mpr ⟨by omega, by omega, le_rfl⟩, ?_, le_min hnear.2 hline⟩
      exact max_le hnear.1 ((bandBottom_mono hfar.le).trans hself.1)
    · exact ⟨bandIndex (real y), mem_bandNumbers_iff.mpr ⟨hfirst, hlast, hnext⟩,
        max_le hnear.1 hself.1, le_min hnear.2 hself.2⟩

/-- No band of a cone is empty. -/
theorem band_nonempty (hdec : -90 < dec ∧ dec < 90) (hradius : 0 ≤ radius) {band : ℕ}
    (hband : band ∈ bandNumbers dec radius) :
    max (dec - radius) (bandBottom band) ≤ min (dec + radius) (bandBottom (band + 1)) := by
  obtain ⟨hfirst, hlast, -⟩ := mem_bandNumbers_iff.mp hband
  have hnorth : bandBottom band ≤ dec + radius := by
    rcases le_total 90 (dec + radius) with hpole | hpole
    · have htop := bandBottom_mono (hlast.trans (bandIndex_le _))
      norm_num [bandBottom] at htop ⊢
      linarith
    · exact (bandBottom_mono hlast).trans (bandIndex_bounds (by linarith) hpole).1
  have hsouth : dec - radius ≤ bandBottom (band + 1) :=
    (lt_bandBottom_succ (by linarith)).le.trans (bandBottom_mono (by omega))
  refine max_le (le_min (by linarith) hsouth) (le_min hnorth (bandBottom_mono band.le_succ))

end Declination

/-! ## Windows -/

section RightAscension

variable {ra dec radius x : ℝ}

/-- **The windows of a cone hold what is within its half-width** around the circle. -/
theorem exists_mem_windowsOf_iff_circular (hra : 0 ≤ ra ∧ ra < 360)
    (hcos : 0 < Real.cos (radians dec)) (hradius : 0 ≤ radius) (hx : 0 ≤ x ∧ x < 360) :
    (∃ window ∈ windowsOf ra dec radius, window.1 ≤ x ∧ x ≤ window.2) ↔
      circularDistance x ra ≤ radius / Real.cos (radians dec) ∨
        180 ≤ radius / Real.cos (radians dec) := by
  have hwide : degrees Real.pi * Real.cos (radians dec) ≤ radius ↔
      180 ≤ radius / Real.cos (radians dec) := by rw [degrees_pi, le_div_iff₀ hcos]
  have hnear : circularDistance x ra ≤ radius / Real.cos (radians dec) ↔
      |x - ra| ≤ radius / Real.cos (radians dec) ∨
        360 - radius / Real.cos (radians dec) ≤ |x - ra| := by
    rw [circularDistance, min_le_iff, sub_le_comm]
  rw [exists_mem_windowsOf_iff hra hradius hx, hwide, hnear, or_comm]

theorem length_windowsOf : 1 ≤ (windowsOf ra dec radius).length ∧
    (windowsOf ra dec radius).length ≤ 2 := by
  unfold windowsOf windows
  split_ifs <;> simp

end RightAscension

theorem length_bandNumbers {dec radius : ℝ} (hradius : 0 ≤ radius) :
    1 ≤ (bandNumbers dec radius).length ∧ (bandNumbers dec radius).length ≤ 2 := by
  have hfirst : bandIndex (real (dec - radius)) ≤ bandIndex (real (dec + radius)) :=
    bandIndex_mono (by linarith)
  simp only [bandNumbers, List.length_map, List.length_range]
  omega

theorem bandNumbers_consecutive (dec radius : ℝ) :
    (bandNumbers dec radius).Pairwise fun south north => north = south + 1 := by
  refine (bandNumbers_increasing dec radius).imp_of_mem fun {south north} hsouth hnorth hless => ?_
  have hfirst := (mem_bandNumbers_iff.mp hsouth).1
  have hsecond := (mem_bandNumbers_iff.mp hnorth).2.2
  omega

/-! ## The cut -/

/-- Between the poles, a declination is less than a quarter turn. -/
theorem abs_radians_lt {dec : ℝ} (hdec : -90 < dec ∧ dec < 90) : |radians dec| < Real.pi / 2 := by
  have hsouth := radians_lt_radians.mpr hdec.1
  have hnorth := radians_lt_radians.mpr hdec.2
  have hquarter : radians 90 = Real.pi / 2 := by
    rw [radians]
    ring
  have hneg : radians (-90) = -(Real.pi / 2) := by
    rw [radians]
    ring
  rw [abs_lt]
  exact ⟨hneg ▸ hsouth, hquarter ▸ hnorth⟩

/-- A range holds a position, in its own units, if its rectangle does. -/
theorem exact_sector_contains {dec radius x y : ℝ} {band : ℕ} {window : ℝ × ℝ} :
    (sector dec radius band window).exact.Contains (real x) (real y) ↔
      (window.1 ≤ x ∧ x ≤ window.2) ∧ max (dec - radius) (bandBottom band) ≤ y ∧
        y ≤ min (dec + radius) (bandBottom (band + 1)) := Iff.rfl

/-- The ranges of a cone that is accepted hold a position if some band of it holds the
declination and some window the right ascension. -/
theorem exists_mem_exact_sectors_iff {ra dec radius x y : ℝ} :
    (∃ range ∈ (sectors ra dec radius).map Range.exact, range.Contains (real x) (real y)) ↔
      (∃ window ∈ windowsOf ra dec radius, window.1 ≤ x ∧ x ≤ window.2) ∧
        ∃ band ∈ bandNumbers dec radius, max (dec - radius) (bandBottom band) ≤ y ∧
          y ≤ min (dec + radius) (bandBottom (band + 1)) := by
  simp only [List.mem_map, exists_exists_and_eq_and, mem_sectors_iff]
  constructor
  · rintro ⟨_, ⟨band, hband, window, hwindow, rfl⟩, hcontains⟩
    obtain ⟨hx, hy⟩ := exact_sector_contains.mp hcontains
    exact ⟨⟨window, hwindow, hx⟩, band, hband, hy⟩
  · rintro ⟨⟨window, hwindow, hx⟩, band, hband, hy⟩
    exact ⟨_, ⟨band, hband, window, hwindow, rfl⟩, exact_sector_contains.mpr ⟨hx, hy⟩⟩

/-- **The rectangles of a cone are an exact cut.** -/
theorem sectors_exactCut {ra dec radius : ℝ} (hra : 0 ≤ ra ∧ ra < 360) (hdec : -90 < dec ∧ dec < 90)
    (hradius : 0 ≤ radius) : ExactCut ra dec radius ((sectors ra dec radius).map Range.exact) where
  count := by
    obtain ⟨hwindow, hwindows⟩ : 1 ≤ (windowsOf ra dec radius).length ∧
        (windowsOf ra dec radius).length ≤ 2 := length_windowsOf
    obtain ⟨hband, hbands⟩ : 1 ≤ (bandNumbers dec radius).length ∧
        (bandNumbers dec radius).length ≤ 2 := length_bandNumbers hradius
    simp only [sectors, List.length_map, List.length_flatMap, List.map_const', List.sum_replicate,
      smul_eq_mul]
    constructor <;> nlinarith
  layout := by
    refine ⟨(bandNumbers dec radius).map (clippedBand (real (dec - radius)) (real (dec + radius))),
      (windowsOf ra dec radius).map (Prod.map real real), ?_, ?_, ?_, ?_⟩
    · rw [List.length_map]
      exact (length_bandNumbers hradius).2
    · rw [List.length_map]
      exact length_windowsOf.2
    · refine (bandNumbers_consecutive dec radius).map _ fun south north hnext => ?_
      simp only [clippedBand, hnext, zoneStep]
      ring
    · simp only [sectors, List.map_flatMap, List.flatMap_map, List.map_map, clippedBand_real]
      rfl
  within := by
    intro range hrange
    obtain ⟨_, hsector, rfl⟩ := List.mem_map.mp hrange
    obtain ⟨band, hband, window, hwindow, rfl⟩ := mem_sectors_iff.mp hsector
    obtain ⟨hlow, -, hnonempty, hhigh⟩ := windowsOf_bounds hra hradius hwindow
    have hcount : band ≤ 23 := (mem_bandNumbers_iff.mp hband).2.1.trans (bandIndex_le _)
    have hbottom : 7.5 * (band : ℝ) - 90 ≤ max (dec - radius) (bandBottom band) := by
      refine le_max_of_le_right ?_
      rw [bandBottom]
      linarith
    have htop : min (dec + radius) (bandBottom (band + 1)) ≤ 7.5 * (band : ℝ) - 82.5 := by
      refine min_le_of_right_le ?_
      rw [bandBottom_succ]
      linarith
    exact ⟨band, Nat.lt_succ_of_le hcount, mul_comm band 75, ⟨hlow, hnonempty, hhigh⟩, hbottom,
      band_nonempty hdec hradius hband, htop⟩
  apart := by
    refine (sectors_disjoint ra dec hradius).map _ fun first second hapart hzone => ?_
    exact hapart.resolve_left (not_not_intro hzone)
  covers x y hx hy := by
    have hcos : 0 < Real.cos (radians dec) :=
      Real.cos_pos_of_mem_Ioo (abs_lt.mp (abs_radians_lt hdec))
    rw [exists_mem_exact_sectors_iff, exists_mem_windowsOf_iff_circular hra hcos hradius hx,
      exists_mem_bandNumbers_iff hdec hradius hy]
    exact ⟨fun h => ⟨h.1, h.2.1, h.2.2⟩, fun h => ⟨h.near_ra, h.near_dec, h.below_third⟩⟩

/-- A cone is accepted for a radius below the limit only. -/
theorem exists_radius_of_lt {cone : Cone Exact} (h : cone.radius < ofDegrees radiusLimit) :
    ∃ angle < 7.5, cone.radius = real (radians angle) := by
  cases hradius : cone.radius with
  | undefined =>
      rw [hradius] at h
      exact h.elim
  | real radius =>
      rw [hradius, radiusLimit, numeral_eq, numeral_eq, real_div _ two_ne_zero, ofDegrees_real,
        real_lt, ← radians_degrees radius, radians_lt_radians] at h
      refine ⟨degrees radius, ?_, by rw [radians_degrees]⟩
      linarith

/-- **The ranges of a cone are an exact cut**, if its centre is a position between the poles
and its radius below 7.5 degrees.  A radius that is not below that, or no number at all, is
refused, and there are no ranges. -/
theorem partition_exactCut {ra dec radius : ℝ} (hra : 0 ≤ ra ∧ ra < 360)
    (hdec : -90 < dec ∧ dec < 90) (hradius : 0 ≤ radius ∧ radius < 7.5) :
    (∃ ranges,
        partition ⟨real (radians ra), real (radians dec), real (radians radius)⟩ = .ok ranges ∧
          ExactCut ra dec radius ranges) ∧
      ∀ cone : Cone Exact, (¬∃ angle < 7.5, cone.radius = real (radians angle)) →
        ∃ refusal, partition cone = .error refusal := by
  constructor
  · have hnonneg : 0 ≤ radians radius := mul_nonneg hradius.1 (by positivity)
    refine ⟨_, partition_real _ (abs_radians_lt hdec).le hnonneg
      (radians_lt_radians.mpr (by linarith)), ?_⟩
    rw [degrees_radians, degrees_radians, degrees_radians]
    exact sectors_exactCut hra hdec hradius.1
  · intro cone hwide
    exact ⟨_, if_neg fun h => hwide (exists_radius_of_lt h)⟩

/-- A cone that crosses zero hours and touches three bands. -/
theorem partition_exactCut_threeBands :
    ((0 : ℝ) ≤ 1 ∧ (1 : ℝ) < 360) ∧ (-90 < (0.1 : ℝ) ∧ (0.1 : ℝ) < 90) ∧
      ((0 : ℝ) ≤ 7.45 ∧ (7.45 : ℝ) < 7.5) ∧
      MeetsBand 0.1 7.45 11 ∧ MeetsBand 0.1 7.45 12 ∧ MeetsBand 0.1 7.45 13 ∧
      ∃ ranges,
        partition ⟨real (radians 1), real (radians 0.1), real (radians 7.45)⟩ = .ok ranges ∧
          ExactCut 1 0.1 7.45 ranges := by
  have hra : (0 : ℝ) ≤ 1 ∧ (1 : ℝ) < 360 := by norm_num
  have hdec : -90 < (0.1 : ℝ) ∧ (0.1 : ℝ) < 90 := by norm_num
  have hradius : (0 : ℝ) ≤ 7.45 ∧ (7.45 : ℝ) < 7.5 := by norm_num
  have hmeets {band : ℕ} (y : ℝ) (hy : (-90 ≤ y ∧ y ≤ 90) ∧ 0.1 - 7.45 ≤ y ∧ y ≤ 0.1 + 7.45)
      (hcount : band < bandCount) (hband : bandBottom band ≤ y ∧ y < bandBottom (band + 1)) :
      MeetsBand 0.1 7.45 band :=
    ⟨y, hy.1, hy.2, bandIndex_eq hcount hband.1 hband.2⟩
  refine ⟨hra, hdec, hradius, hmeets (-1) ?_ (by decide) ?_, hmeets 0 ?_ (by decide) ?_,
    hmeets 7.5 ?_ (by decide) ?_, (partition_exactCut hra hdec hradius).1⟩ <;>
    norm_num [bandBottom]

end PlateSolver.Zone
