import PlateSolver.Proofs.Angle.Sphere
import PlateSolver.Zone.Range

/-!
# Where the ranges of a cone lie

In exact arithmetic the ranges of a cone can be written down: a band of declination
for every file they are in, times a window of right ascension, or two where the cone
crosses zero hours.  Written down, they are rectangles over the real numbers, and
the questions about them — do they overlap, do they leave a gap, where does the
first one begin — are questions about a few inequalities.

* `windows`, `windowsOf` — the windows of right ascension, in degrees.
* `circularDistance` — the distance of two right ascensions on the shorter way around.
* `MeetsBand` — the bands in which a cone has declinations.
* `bandNumbers`, `sector`, `sectors` — the rectangles of a cone, in degrees.
* `partition_real` — they are the ranges of the cone.
* `windows_disjoint`, `sectors_disjoint` — no two of them overlap.
* `exists_mem_windows_iff`, `exists_mem_sectors_iff` — what they cover.
-/

namespace PlateSolver.Zone

open Exact Angle

/-- Whether a position lies in a range. -/
def Range.Contains {α : Type} [Scalar α] (range : Range α) (ra dec : α) : Prop :=
  (range.raMin ≤ ra ∧ ra ≤ range.raMax) ∧ range.decMin ≤ dec ∧ dec ≤ range.decMax

/-- A rectangle as a range of the exact carrier. -/
def Range.exact (range : Range ℝ) : Range Exact :=
  { zone := range.zone
    raMin := real range.raMin
    raMax := real range.raMax
    decMin := real range.decMin
    decMax := real range.decMax }

@[simp] theorem Range.exact_radians_raMin (range : Range ℝ) :
    range.exact.radians.raMin = real (Angle.radians range.raMin) := ofDegrees_real _

@[simp] theorem Range.exact_radians_raMax (range : Range ℝ) :
    range.exact.radians.raMax = real (Angle.radians range.raMax) := ofDegrees_real _

/-- A range that holds a position in radians holds it in degrees. -/
theorem Range.exact_contains (range : Range ℝ) (ra dec : ℝ) :
    range.exact.radians.Contains (real ra) (real dec) ↔
      (range.raMin ≤ degrees ra ∧ degrees ra ≤ range.raMax) ∧
        range.decMin ≤ degrees dec ∧ degrees dec ≤ range.decMax := by
  simp only [Contains, radians, exact, ofDegrees_real, real_le, radians_le_iff, le_radians_iff]

/-! ## Windows of right ascension -/

/-- The windows of right ascension around `ra`, if their half-width is below half a turn. -/
noncomputable def windows (ra halfWidth : ℝ) : List (ℝ × ℝ) :=
  if ra - halfWidth < 0 then [(0, ra + halfWidth), (360 + (ra - halfWidth), 360)]
  else if 360 ≤ ra + halfWidth then [(0, ra + halfWidth - 360), (ra - halfWidth, 360)]
  else [(ra - halfWidth, ra + halfWidth)]

/-- Distance of two right ascensions in degrees, on the shorter way around. -/
noncomputable def circularDistance (x y : ℝ) : ℝ := min |x - y| (360 - |x - y|)

/-- The windows of right ascension of a cone: all of it if the half-width reaches half
a turn. -/
noncomputable def windowsOf (ra dec radius : ℝ) : List (ℝ × ℝ) :=
  if radius < degrees Real.pi * Real.cos (radians dec) then
    windows ra (radius / Real.cos (radians dec))
  else [(0, 360)]

/-- The half-width of a narrow cone is below half a turn. -/
theorem halfWidth_bounds {dec radius : ℝ} (hradius : 0 ≤ radius)
    (hnarrow : radius < degrees Real.pi * Real.cos (radians dec)) :
    0 ≤ radius / Real.cos (radians dec) ∧ radius / Real.cos (radians dec) < 180 := by
  rw [degrees_pi] at hnarrow
  have hpos : 0 < Real.cos (radians dec) := by linarith
  exact ⟨div_nonneg hradius hpos.le, (div_lt_iff₀ hpos).mpr hnarrow⟩

theorem spans_real {ra dec radius : ℝ} (hcos : 0 ≤ Real.cos (radians dec)) (hradius : 0 ≤ radius) :
    spans (real ra) (real dec) (real radius) =
      (windowsOf ra dec radius).map (Prod.map real real) := by
  rcases hcos.eq_or_lt with hzero | hpos
  · have hwide : ¬radius < degrees Real.pi * Real.cos (radians dec) := by rw [← hzero]; linarith
    have hquotient : real radius / real (Real.cos (radians dec)) = undefined := by
      rw [← hzero, real_div_zero]
    have hundefined : ¬real 0 ≤ undefined := id
    simp [spans, windowsOf, hquotient, hundefined, hwide]
  have hhalf : 0 ≤ radius / Real.cos (radians dec) := div_nonneg hradius hpos.le
  have hwide : radius / Real.cos (radians dec) < 180 ↔
      radius < degrees Real.pi * Real.cos (radians dec) := by
    rw [degrees_pi, div_lt_iff₀ hpos]
  simp only [spans, windowsOf, windows, ofDegrees_real, cos_real, real_div _ hpos.ne', zero_eq,
    numeral_eq, real_sub, real_add, real_le, real_lt, hhalf, hwide, true_and]
  split_ifs <;> simp

section Windows

variable {ra halfWidth : ℝ}

/-- Windows lie within a turn, and begin before its end. -/
theorem windows_bounds (hra : 0 ≤ ra ∧ ra < 360) (hhalf : 0 ≤ halfWidth ∧ halfWidth < 180)
    {window : ℝ × ℝ} (hmem : window ∈ windows ra halfWidth) :
    0 ≤ window.1 ∧ window.1 < 360 ∧ window.1 ≤ window.2 ∧ window.2 ≤ 360 := by
  obtain ⟨hra, hturn⟩ := hra
  obtain ⟨hhalf, hwide⟩ := hhalf
  unfold windows at hmem
  split_ifs at hmem with hlow hhigh
  · rcases List.mem_pair.mp hmem with rfl | rfl <;>
      refine ⟨?_, ?_, ?_, ?_⟩ <;> dsimp only <;> linarith
  · rcases List.mem_pair.mp hmem with rfl | rfl <;>
      refine ⟨?_, ?_, ?_, ?_⟩ <;> dsimp only <;> linarith
  · rw [List.mem_singleton.mp hmem]
    refine ⟨?_, ?_, ?_, ?_⟩ <;> dsimp only <;> linarith

/-- No two windows overlap. -/
theorem windows_disjoint (hhalf : halfWidth < 180) :
    (windows ra halfWidth).Pairwise fun first second => first.2 < second.1 := by
  unfold windows
  split_ifs with hlow hhigh
  · exact List.pairwise_pair.mpr (by dsimp only; linarith)
  · exact List.pairwise_pair.mpr (by dsimp only; linarith)
  · exact List.pairwise_singleton _ _

/-- The windows cover what is within the half-width, on the shorter way around. -/
theorem exists_mem_windows_iff (hra : 0 ≤ ra ∧ ra < 360) (hhalf : 0 ≤ halfWidth ∧ halfWidth < 180)
    {x : ℝ} (hx : 0 ≤ x ∧ x < 360) :
    (∃ window ∈ windows ra halfWidth, window.1 ≤ x ∧ x ≤ window.2) ↔
      |x - ra| ≤ halfWidth ∨ 360 - halfWidth ≤ |x - ra| := by
  obtain ⟨hra, hturn⟩ := hra
  obtain ⟨hhalf, hwide⟩ := hhalf
  obtain ⟨hx, hxturn⟩ := hx
  rw [abs_le, le_abs]
  unfold windows
  -- Below zero hours, beyond a whole turn, or neither: the part that is cut off is what
  -- the longer way around would be.
  split_ifs with hlow hhigh
  · simp only [List.mem_pair, exists_eq_or_imp, exists_eq_left]
    constructor
    · rintro (⟨-, h⟩ | ⟨h, -⟩)
      · by_cases hnear : ra - x ≤ halfWidth
        · exact Or.inl ⟨by linarith, by linarith⟩
        · exact absurd hx (by linarith)
      · exact Or.inr (Or.inl (by linarith))
    · rintro (⟨-, h⟩ | h | h)
      · exact Or.inl ⟨hx, by linarith⟩
      · exact Or.inr ⟨by linarith, hxturn.le⟩
      · exact Or.inl ⟨hx, by linarith⟩
  · simp only [List.mem_pair, exists_eq_or_imp, exists_eq_left]
    constructor
    · rintro (⟨-, h⟩ | ⟨h, -⟩)
      · exact Or.inr (Or.inr (by linarith))
      · exact Or.inl ⟨by linarith, by linarith⟩
    · rintro (⟨h, -⟩ | h | h)
      · exact Or.inr ⟨by linarith, hxturn.le⟩
      · exact absurd hxturn (by linarith)
      · exact Or.inl ⟨hx, by linarith⟩
  · simp only [List.mem_singleton, exists_eq_left]
    constructor
    · rintro ⟨h, h'⟩
      exact Or.inl ⟨by linarith, by linarith⟩
    · rintro (⟨h, h'⟩ | h | h)
      · exact ⟨by linarith, by linarith⟩
      · exact absurd hxturn (by linarith)
      · exact absurd hx (by linarith)

/-- What the windows of a cone cover: everything, or what is within the half-width. -/
theorem exists_mem_windowsOf_iff {dec radius x : ℝ} (hra : 0 ≤ ra ∧ ra < 360)
    (hradius : 0 ≤ radius) (hx : 0 ≤ x ∧ x < 360) :
    (∃ window ∈ windowsOf ra dec radius, window.1 ≤ x ∧ x ≤ window.2) ↔
      degrees Real.pi * Real.cos (radians dec) ≤ radius ∨
        |x - ra| ≤ radius / Real.cos (radians dec) ∨
        360 - radius / Real.cos (radians dec) ≤ |x - ra| := by
  unfold windowsOf
  split_ifs with hnarrow
  · rw [exists_mem_windows_iff hra (halfWidth_bounds hradius hnarrow) hx]
    exact (or_iff_right hnarrow.not_ge).symm
  · simp [not_lt.mp hnarrow, hx.1, hx.2.le]

theorem windowsOf_bounds {dec radius : ℝ} (hra : 0 ≤ ra ∧ ra < 360) (hradius : 0 ≤ radius)
    {window : ℝ × ℝ} (hmem : window ∈ windowsOf ra dec radius) :
    0 ≤ window.1 ∧ window.1 < 360 ∧ window.1 ≤ window.2 ∧ window.2 ≤ 360 := by
  unfold windowsOf at hmem
  split_ifs at hmem with hnarrow
  · exact windows_bounds hra (halfWidth_bounds hradius hnarrow) hmem
  · rw [List.mem_singleton.mp hmem]
    norm_num

theorem windowsOf_disjoint (dec : ℝ) {radius : ℝ} (hradius : 0 ≤ radius) :
    (windowsOf ra dec radius).Pairwise fun first second => first.2 < second.1 := by
  unfold windowsOf
  split_ifs with hnarrow
  · exact windows_disjoint (halfWidth_bounds hradius hnarrow).2
  · exact List.pairwise_singleton _ _

end Windows

/-! ## Bands of declination -/

theorem bandIndex_real (dec : ℝ) :
    bandIndex (real dec) = min ⌊(dec + 90) / (15 / 2)⌋₊ (bandCount - 1) := by
  simp [bandIndex, bandHeight]

theorem bandIndex_mono {low high : ℝ} (h : low ≤ high) :
    bandIndex (real low) ≤ bandIndex (real high) := by
  rw [bandIndex_real, bandIndex_real]
  gcongr

/-- Where a band begins, and the one south of it ends. -/
noncomputable def bandBottom (index : ℕ) : ℝ := index * 7.5 - 90

/-- Whether a cone has declinations in a band; degrees. -/
def MeetsBand (dec radius : ℝ) (band : ℕ) : Prop :=
  ∃ y : ℝ, (-90 ≤ y ∧ y ≤ 90) ∧ (dec - radius ≤ y ∧ y ≤ dec + radius) ∧ bandIndex (real y) = band

theorem bandBottom_succ (index : ℕ) : bandBottom (index + 1) = index * 7.5 - 90 + 7.5 := by
  rw [bandBottom]
  push_cast
  ring

/-- A declination lies in its band. -/
theorem bandIndex_bounds {dec : ℝ} (hlow : -90 ≤ dec) (hhigh : dec ≤ 90) :
    bandBottom (bandIndex (real dec)) ≤ dec ∧ dec ≤ bandBottom (bandIndex (real dec) + 1) := by
  rw [bandBottom_succ, bandBottom, bandIndex_real]
  have hfloor : (⌊(dec + 90) / (15 / 2)⌋₊ : ℝ) ≤ (dec + 90) / (15 / 2) :=
    Nat.floor_le (by linarith)
  have hnext : (dec + 90) / (15 / 2) < ⌊(dec + 90) / (15 / 2)⌋₊ + 1 := Nat.lt_floor_add_one _
  rcases le_total ⌊(dec + 90) / (15 / 2)⌋₊ (bandCount - 1) with h | h
  · rw [min_eq_left h]
    constructor <;> linarith
  · -- Beyond the last band there is only the pole itself, which that band holds.
    have hcast : ((bandCount - 1 : ℕ) : ℝ) = 23 := by norm_num [bandCount]
    have hlast : (23 : ℝ) ≤ ⌊(dec + 90) / (15 / 2)⌋₊ := hcast ▸ Nat.cast_le.mpr h
    rw [min_eq_right h, hcast]
    constructor <;> linarith

/-- The declinations of a band lie in no other; its lower edge is its own. -/
theorem bandIndex_eq {dec : ℝ} {index : ℕ} (hindex : index < bandCount)
    (hlow : bandBottom index ≤ dec) (hhigh : dec < bandBottom (index + 1)) :
    bandIndex (real dec) = index := by
  rw [bandBottom] at hlow
  rw [bandBottom_succ] at hhigh
  have hnonneg : (0 : ℝ) ≤ index := index.cast_nonneg
  have hfloor : ⌊(dec + 90) / (15 / 2)⌋₊ = index :=
    (Nat.floor_eq_iff (by linarith)).mpr ⟨by linarith, by linarith⟩
  rw [bandIndex_real, hfloor]
  exact min_eq_left (Nat.le_sub_one_of_lt hindex)

/-- The bands that a cone meets, from south to north, at most two. -/
noncomputable def bandNumbers (dec radius : ℝ) : List ℕ :=
  let first := bandIndex (real (dec - radius))
  let last := min (bandIndex (real (dec + radius))) (first + 1)
  (List.range (last + 1 - first)).map (first + ·)

theorem mem_bandNumbers_iff {dec radius : ℝ} {index : ℕ} :
    index ∈ bandNumbers dec radius ↔
      bandIndex (real (dec - radius)) ≤ index ∧ index ≤ bandIndex (real (dec + radius)) ∧
        index ≤ bandIndex (real (dec - radius)) + 1 := by
  simp only [bandNumbers, List.mem_map, List.mem_range]
  constructor
  · rintro ⟨offset, hoffset, rfl⟩
    omega
  · rintro ⟨hfirst, hlast, hsecond⟩
    exact ⟨index - bandIndex (real (dec - radius)), by omega, by omega⟩

theorem bandNumbers_increasing (dec radius : ℝ) : (bandNumbers dec radius).Pairwise (· < ·) :=
  List.pairwise_lt_range.map _ fun _ _ h => Nat.add_lt_add_left h _

/-! ## Rectangles -/

/-- One band of a cone times one window. -/
noncomputable def sector (dec radius : ℝ) (index : ℕ) (window : ℝ × ℝ) : Range ℝ :=
  { zone := index * zoneStep
    raMin := window.1
    raMax := window.2
    decMin := max (dec - radius) (bandBottom index)
    decMax := min (dec + radius) (bandBottom (index + 1)) }

/-- The rectangles of a cone, in degrees. -/
noncomputable def sectors (ra dec radius : ℝ) : List (Range ℝ) :=
  (bandNumbers dec radius).flatMap fun index =>
    (windowsOf ra dec radius).map (sector dec radius index)

theorem mem_sectors_iff {ra dec radius : ℝ} {range : Range ℝ} :
    range ∈ sectors ra dec radius ↔
      ∃ index ∈ bandNumbers dec radius, ∃ window ∈ windowsOf ra dec radius,
        sector dec radius index window = range := by
  simp only [sectors, List.mem_flatMap, List.mem_map]

/-- Two rectangles are in different files, or the second begins past the first. -/
theorem sectors_disjoint (ra dec : ℝ) {radius : ℝ} (hradius : 0 ≤ radius) :
    (sectors ra dec radius).Pairwise fun first second =>
      first.zone ≠ second.zone ∨ first.raMax < second.raMin := by
  refine List.pairwise_flatMap.mpr ⟨fun index _ => ?_, ?_⟩
  -- Within a band it is the windows that are apart, and else it is the bands.
  · exact (windowsOf_disjoint dec hradius).map _ fun _ _ => Or.inr
  · refine (bandNumbers_increasing dec radius).imp fun {first second} hless => ?_
    intro left hleft right hright
    obtain ⟨_, -, rfl⟩ := List.mem_map.mp hleft
    obtain ⟨_, -, rfl⟩ := List.mem_map.mp hright
    refine Or.inl fun hzone => hless.ne ?_
    exact Nat.mul_right_cancel (by decide) hzone

/-- The rectangles cover a declination of the cone where its windows cover the right
ascension, unless the cone meets three bands. -/
theorem exists_mem_sectors_iff {ra dec radius x y : ℝ}
    (hbands : bandIndex (real (dec + radius)) ≤ bandIndex (real (dec - radius)) + 1)
    (hy : -90 ≤ y ∧ y ≤ 90) (hnear : |y - dec| ≤ radius) :
    (∃ range ∈ sectors ra dec radius, range.zone = bandIndex (real y) * zoneStep ∧
        (range.raMin ≤ x ∧ x ≤ range.raMax) ∧ range.decMin ≤ y ∧ y ≤ range.decMax) ↔
      ∃ window ∈ windowsOf ra dec radius, window.1 ≤ x ∧ x ≤ window.2 := by
  obtain ⟨hlow, hhigh⟩ := abs_le.mp hnear
  constructor
  · rintro ⟨range, hmem, -, hx, -⟩
    obtain ⟨index, -, window, hwindow, rfl⟩ := mem_sectors_iff.mp hmem
    exact ⟨window, hwindow, hx⟩
  · rintro ⟨window, hwindow, hx⟩
    have hfirst : bandIndex (real (dec - radius)) ≤ bandIndex (real y) :=
      bandIndex_mono (by linarith)
    have hlast : bandIndex (real y) ≤ bandIndex (real (dec + radius)) :=
      bandIndex_mono (by linarith)
    have hband := bandIndex_bounds hy.1 hy.2
    -- The band of the declination is one that the cone meets, and not a third one.
    refine ⟨sector dec radius (bandIndex (real y)) window, mem_sectors_iff.mpr
      ⟨_, mem_bandNumbers_iff.mpr ⟨hfirst, hlast, by omega⟩, window, hwindow, rfl⟩, rfl, hx, ?_⟩
    exact ⟨max_le (by linarith) hband.1, le_min (by linarith) hband.2⟩

/-! ## The ranges of a cone -/

/-- The ranges of a cone that is not refused are its windows in its bands. -/
theorem partition_of_spans {α : Type} [Analytic α] {cone : Cone α} {windows : List (α × α)}
    (hradius : cone.radius < Angle.ofDegrees radiusLimit)
    (hspans : spans (Angle.toDegrees cone.ra) (Angle.toDegrees cone.dec)
      (Angle.toDegrees cone.radius) = windows) :
    partition cone =
      .ok ((bands (Angle.toDegrees cone.dec) (Angle.toDegrees cone.radius)).flatMap fun band =>
        windows.map fun window => ⟨band.zone, window.1, window.2, band.low, band.high⟩) := by
  rw [← hspans]
  exact if_pos hradius

theorem clippedBand_real (low high : ℝ) (index : ℕ) :
    clippedBand (real low) (real high) index =
      { zone := index * zoneStep
        low := real (max low (bandBottom index))
        high := real (min high (bandBottom (index + 1))) } := by
  have hheight : (7.5 : ℝ) = 15 / 2 := by norm_num
  rw [bandBottom_succ, bandBottom, hheight]
  simp [clippedBand, bandHeight]

theorem bands_real (dec radius : ℝ) :
    bands (real dec) (real radius) =
      (bandNumbers dec radius).map (clippedBand (real (dec - radius)) (real (dec + radius))) := by
  simp [bands, bandNumbers]

/-- **The rectangles are the ranges.** -/
theorem partition_real (ra : ℝ) {dec radius : ℝ} (hdec : |dec| ≤ Real.pi / 2) (hradius : 0 ≤ radius)
    (hlimit : radius < Angle.radians (15 / 2)) :
    partition ⟨real ra, real dec, real radius⟩ =
      .ok ((sectors (degrees ra) (degrees dec) (degrees radius)).map Range.exact) := by
  have hcos : 0 ≤ Real.cos (Angle.radians (degrees dec)) := by
    rw [radians_degrees]
    exact Real.cos_nonneg_of_mem_Icc (abs_le.mp hdec)
  have hdegrees : 0 ≤ degrees radius := degrees_nonneg.mpr hradius
  have hless : real radius < Angle.ofDegrees radiusLimit := by
    simpa [radiusLimit] using hlimit
  simp only [partition, hless, if_true, toDegrees_real, spans_real hcos hdegrees, bands_real,
    clippedBand_real, sectors, List.map_flatMap, List.flatMap_map, List.map_map]
  rfl

end PlateSolver.Zone
