import Mathlib
import PlateSolver.Proofs.Detection.Centroid

/-!
# What is measured of a star

A star is measured over the pixels around a position: those of the raster that are within a
radius of it on both axes.  The level of the sky is the mean of their rim, and the centroid is the
mean position of the pixels above that level, each with the weight by which it exceeds it.  There
is nothing to measure if and only if the rim is of one value and nothing exceeds it, for a mean
that no value exceeds is every value that goes into it.

* `vicinity`, `rim` — the pixels around a position, and those of them at the edge.
* `rimMean`, `standouts`, `centroid`, `Flat` — what there is to measure, or that there is nothing.
* `Describes`, `Measured` — a measurement as it should be.
* `Box.toFinset_border`, `borderMean_real`, `foldl_moments` — the sums of the program are those.
* `Box.toFinset_positions` — the box of the program is the vicinity.
* `starStats_exact` — every measurement is as it should be, where a word says how far it goes.

## Design decisions

The vicinity is a finite set, of which a rim, sums and a maximum can be taken without saying in
what order pixels are gone through.  Positions are words of 64 bits, and a measurement whose last
row or column would be beyond the greatest word breaks off, however small the raster is: the end
is worked out before it is clipped.  So there is a condition on the radius, and it is exact.
-/

namespace PlateSolver.Detection

open Exact Scalar

/-! ## What there is to measure -/

/-- **The pixels around a position**: those of the raster that are within a radius of it, on
either axis. -/
def vicinity (raster : Raster) (x y radius : ℕ) : Finset Position :=
  (Finset.range raster.height ×ˢ Finset.range raster.width).filter fun spot =>
    (y ≤ spot.1 + radius ∧ spot.1 ≤ y + radius) ∧ x ≤ spot.2 + radius ∧ spot.2 ≤ x + radius

/-- **The rim of some pixels**: those in their first or last row, or in their first or last
column. -/
def rim (pixels : Finset Position) : Finset Position :=
  pixels.filter fun spot =>
    (∀ other ∈ pixels, spot.1 ≤ other.1) ∨ (∀ other ∈ pixels, other.1 ≤ spot.1) ∨
      (∀ other ∈ pixels, spot.2 ≤ other.2) ∨ ∀ other ∈ pixels, other.2 ≤ spot.2

/-- The mean of the rim, of which every pixel counts once. -/
noncomputable def rimMean (raster : Raster) (pixels : Finset Position) : ℝ :=
  (∑ spot ∈ rim pixels, (raster.value spot : ℝ)) / (rim pixels).card

/-- The pixels above some level. -/
noncomputable def standouts (raster : Raster) (pixels : Finset Position) (level : ℝ) :
    Finset Position :=
  pixels.filter fun spot => level < raster.value spot

/-- **The centroid of some pixels on one axis**: the mean of the positions of those above a level,
each with the weight by which it exceeds the level. -/
noncomputable def centroid (raster : Raster) (pixels : Finset Position) (level : ℝ)
    (axis : Position → ℕ) : ℝ :=
  (∑ spot ∈ standouts raster pixels level, axis spot * (raster.value spot - level)) /
    ∑ spot ∈ standouts raster pixels level, (raster.value spot - level)

/-- **Pixels in which nothing stands out**: their rim is of one value, and none of them has a
greater one. -/
def Flat (raster : Raster) (pixels : Finset Position) : Prop :=
  ∃ level, (∀ spot ∈ rim pixels, raster.value spot = level) ∧
    ∀ spot ∈ pixels, raster.value spot ≤ level

/-- **A star as it should be measured** in the vicinity of a position. -/
structure Describes (raster : Raster) (x y radius : ℕ) (stats : StarStats Exact) : Prop where
  /-- The sky is the mean of the rim. -/
  sky : stats.sky = real (rimMean raster (vicinity raster x y radius))
  /-- The peak is the greatest value. -/
  peak : stats.peak = real ((vicinity raster x y radius).sup raster.value : ℕ)
  /-- The column is that of the centroid, -/
  col : stats.x = real (centroid raster (vicinity raster x y radius)
    (rimMean raster (vicinity raster x y radius)) Prod.snd)
  /-- and so is the row. -/
  row : stats.y = real (centroid raster (vicinity raster x y radius)
    (rimMean raster (vicinity raster x y radius)) Prod.fst)
  /-- The centroid is between the first and the last column, -/
  col_bounds : real (x - radius : ℕ) ≤ stats.x ∧
    stats.x ≤ real (min (x + radius) (raster.width - 1) : ℕ)
  /-- and between the first and the last row. -/
  row_bounds : real (y - radius : ℕ) ≤ stats.y ∧
    stats.y ≤ real (min (y + radius) (raster.height - 1) : ℕ)
  /-- The peak is above the sky. -/
  sky_lt_peak : stats.sky < stats.peak

/-- **A measurement as it should be**: that nothing stands out is reported if and only if it is
so, and otherwise the star is described. -/
structure Measured (raster : Raster) (x y radius : ℕ)
    (result : Except DetectionError (StarStats Exact)) : Prop where
  /-- There is no signal if and only if nothing stands out. -/
  noSignal_iff : result = .error (.noSignal x y) ↔ Flat raster (vicinity raster x y radius)
  /-- Otherwise there is a star, and it is described. -/
  exists_describes : ¬ Flat raster (vicinity raster x y radius) →
    ∃ stats, result = .ok stats ∧ Describes raster x y radius stats

/-! ## Rims and means -/

variable {raster : Raster} {pixels : Finset Position} {spot : Position} {x y radius : ℕ}

theorem mem_vicinity_iff :
    spot ∈ vicinity raster x y radius ↔ raster.holds spot = true ∧
      (y ≤ spot.1 + radius ∧ spot.1 ≤ y + radius) ∧ x ≤ spot.2 + radius ∧ spot.2 ≤ x + radius := by
  rw [vicinity, Finset.mem_filter, Finset.mem_product, Finset.mem_range, Finset.mem_range,
    Raster.holds_iff]

theorem mem_vicinity_self (hx : x < raster.width) (hy : y < raster.height) :
    (y, x) ∈ vicinity raster x y radius :=
  mem_vicinity_iff.mpr ⟨Raster.holds_iff.mpr ⟨hy, hx⟩, by simp⟩

/-- A first row is part of the rim. -/
theorem rim_nonempty (hpixels : pixels.Nonempty) : (rim pixels).Nonempty := by
  obtain ⟨first, hfirst, hleast⟩ := pixels.exists_min_image Prod.fst hpixels
  exact ⟨first, Finset.mem_filter.mpr ⟨hfirst, Or.inl hleast⟩⟩

/-- **Nothing stands out of its own mean** if and only if nothing stands out at all: a mean that no
value exceeds is the value of all that goes into it. -/
theorem standouts_eq_empty_iff (hpixels : pixels.Nonempty) :
    standouts raster pixels (rimMean raster pixels) = ∅ ↔ Flat raster pixels := by
  have hcard : ((rim pixels).card : ℝ) ≠ 0 := by
    exact_mod_cast (Finset.card_pos.mpr (rim_nonempty hpixels)).ne'
  rw [standouts, Finset.filter_eq_empty_iff]
  constructor
  · intro hle
    have hrim : ∀ spot ∈ rim pixels, (raster.value spot : ℝ) = rimMean raster pixels := by
      refine (Finset.sum_eq_sum_iff_of_le fun spot hspot => ?_).mp ?_
      · exact not_lt.mp (hle (Finset.mem_filter.mp hspot).1)
      · rw [Finset.sum_const, nsmul_eq_mul, rimMean, mul_div_cancel₀ _ hcard]
    obtain ⟨edge, hedge⟩ := rim_nonempty hpixels
    refine ⟨raster.value edge, fun spot hspot => ?_, fun spot hspot => ?_⟩
    · exact_mod_cast (hrim spot hspot).trans (hrim edge hedge).symm
    · exact_mod_cast (not_lt.mp (hle hspot)).trans_eq (hrim edge hedge).symm
  · rintro ⟨level, hrim, hle⟩ spot hspot
    have hmean : rimMean raster pixels = level := by
      rw [rimMean, Finset.sum_congr rfl fun spot hspot => congrArg Nat.cast (hrim spot hspot),
        Finset.sum_const, nsmul_eq_mul, mul_div_cancel_left₀ _ hcard]
    rw [hmean, not_lt]
    exact_mod_cast hle spot hspot

/-- There is weight if and only if something stands out. -/
theorem sum_excess_pos_iff {level : ℝ} :
    0 < ∑ spot ∈ standouts raster pixels level, ((raster.value spot : ℝ) - level) ↔
      (standouts raster pixels level).Nonempty := by
  constructor
  · intro hpos
    by_contra hempty
    rw [Finset.not_nonempty_iff_eq_empty.mp hempty, Finset.sum_empty] at hpos
    exact lt_irrefl 0 hpos
  · exact Finset.sum_pos fun _ hspot => sub_pos.mpr (Finset.mem_filter.mp hspot).2

theorem lt_sup_of_standouts {level : ℝ} (h : (standouts raster pixels level).Nonempty) :
    level < (pixels.sup raster.value : ℕ) := by
  obtain ⟨spot, hspot⟩ := h
  obtain ⟨hpixel, hlevel⟩ := Finset.mem_filter.mp hspot
  exact hlevel.trans_le (Nat.cast_le.mpr (Finset.le_sup hpixel))

/-! ## The sums of the program -/

namespace Box

theorem nodup_positions (box : Box) : box.positions.Nodup := by
  unfold positions Raster.block
  rw [List.nodup_flatMap]
  constructor
  · intro i _
    refine List.nodup_range.map fun j k hjk => ?_
    exact Nat.add_left_cancel (Prod.mk.inj hjk).2
  · refine List.nodup_range.imp fun {i k} hne spot hi hk => hne ?_
    obtain ⟨_, -, rfl⟩ := List.mem_map.mp hi
    obtain ⟨_, -, heq⟩ := List.mem_map.mp hk
    exact Nat.add_left_cancel (Prod.mk.inj heq).1.symm

/-- The border of a box is the rim of its pixels. -/
theorem mem_rim_iff {box : Box} (hspot : spot ∈ box.positions) :
    spot ∈ rim box.positions.toFinset ↔ box.onBorder spot = true := by
  have hbounds {other : Position} (hother : other ∈ box.positions) := mem_block_iff.mp hother
  obtain ⟨⟨htop, hbottom⟩, hleft, hright⟩ := hbounds hspot
  have hmem {row col : ℕ} (hrow : box.top ≤ row ∧ row ≤ box.bottom)
      (hcol : box.left ≤ col ∧ col ≤ box.right) : (row, col) ∈ box.positions :=
    mem_block_iff.mpr ⟨hrow, hcol⟩
  -- Straight from the pixel, every edge of the box is reached within the box.
  have hfirstRow : (∀ other ∈ box.positions, spot.1 ≤ other.1) ↔ spot.1 = box.top :=
    ⟨fun h => (h _ (hmem ⟨le_rfl, htop.trans hbottom⟩ ⟨hleft, hright⟩)).antisymm htop,
      fun h other hother => h ▸ (hbounds hother).1.1⟩
  have hlastRow : (∀ other ∈ box.positions, other.1 ≤ spot.1) ↔ spot.1 = box.bottom :=
    ⟨fun h => hbottom.antisymm (h _ (hmem ⟨htop.trans hbottom, le_rfl⟩ ⟨hleft, hright⟩)),
      fun h other hother => h ▸ (hbounds hother).1.2⟩
  have hfirstCol : (∀ other ∈ box.positions, spot.2 ≤ other.2) ↔ spot.2 = box.left :=
    ⟨fun h => (h _ (hmem ⟨htop, hbottom⟩ ⟨le_rfl, hleft.trans hright⟩)).antisymm hleft,
      fun h other hother => h ▸ (hbounds hother).2.1⟩
  have hlastCol : (∀ other ∈ box.positions, other.2 ≤ spot.2) ↔ spot.2 = box.right :=
    ⟨fun h => hright.antisymm (h _ (hmem ⟨htop, hbottom⟩ ⟨hleft.trans hright, le_rfl⟩)),
      fun h other hother => h ▸ (hbounds hother).2.2⟩
  simp only [rim, Finset.mem_filter, List.mem_toFinset, hspot, true_and, hfirstRow, hlastRow,
    hfirstCol, hlastCol, onBorder, Bool.or_eq_true, beq_iff_eq, or_assoc]

theorem toFinset_border (box : Box) :
    (box.positions.filter box.onBorder).toFinset = rim box.positions.toFinset := by
  ext spot
  rw [List.mem_toFinset, List.mem_filter]
  constructor
  · rintro ⟨hspot, hborder⟩
    exact (mem_rim_iff hspot).mpr hborder
  · intro hrim
    have hspot := List.mem_toFinset.mp (Finset.mem_filter.mp hrim).1
    exact ⟨hspot, (mem_rim_iff hspot).mp hrim⟩

end Box

theorem foldl_values (raster : Raster) (spots : List Position) (sum : ℝ) :
    spots.foldl (fun sum spot => sum + ofNat (raster.value spot)) (real sum) =
      real (sum + (spots.map fun spot => (raster.value spot : ℝ)).sum) := by
  induction spots generalizing sum with
  | nil => simp
  | cons spot rest ih =>
      rw [List.foldl_cons, ofNat_eq, real_add, ih, List.map_cons, List.sum_cons, add_assoc]

/-- **The sky of the program** is the mean of the rim. -/
theorem borderMean_real (raster : Raster) {box : Box} (hbox : box.positions ≠ []) :
    borderMean raster box = real (rimMean raster box.positions.toFinset) := by
  have hnodup := box.nodup_positions.filter box.onBorder
  have hlength : (box.positions.filter box.onBorder).length =
      (rim box.positions.toFinset).card := by
    rw [← box.toFinset_border, List.toFinset_card_of_nodup hnodup]
  have hcard : ((rim box.positions.toFinset).card : ℝ) ≠ 0 := by
    have hrim := rim_nonempty (List.toFinset_nonempty_iff _ |>.mpr hbox)
    exact_mod_cast (Finset.card_pos.mpr hrim).ne'
  unfold borderMean
  dsimp only
  rw [zero_eq, foldl_values, zero_add, ofNat_eq, hlength, real_div _ hcard, rimMean]
  rw [← List.sum_toFinset _ hnodup, box.toFinset_border]

/-- One more pixel, where all sums are numbers. -/
theorem moments_add_real (raster : Raster) (level rows cols weight : ℝ) (peak : ℕ)
    (spot : Position) :
    Moments.add raster (real level) ⟨real rows, real cols, real weight, real peak⟩ spot =
      if level < raster.value spot then
        ⟨real (rows + spot.1 * (raster.value spot - level)),
          real (cols + spot.2 * (raster.value spot - level)),
          real (weight + (raster.value spot - level)), real (max peak (raster.value spot) : ℕ)⟩
      else ⟨real rows, real cols, real weight, real (max peak (raster.value spot) : ℕ)⟩ := by
  simp only [Moments.add, ofNat_eq, real_sub, larger_real, zero_eq, real_lt, sub_pos, real_mul,
    real_add, Nat.cast_max]

/-- The sum of a function over the pixels of a list that are above a level. -/
noncomputable def sumAbove (raster : Raster) (level : ℝ) (f : Position → ℝ)
    (spots : List Position) : ℝ :=
  ((spots.filter fun spot => level < raster.value spot).map f).sum

theorem sumAbove_cons (raster : Raster) (level : ℝ) (f : Position → ℝ) (spot : Position)
    (rest : List Position) :
    sumAbove raster level f (spot :: rest) =
      (if level < raster.value spot then f spot else 0) + sumAbove raster level f rest := by
  unfold sumAbove
  rw [List.filter_cons]
  split_ifs <;> simp_all

theorem sumAbove_eq {spots : List Position} (hnodup : spots.Nodup) (level : ℝ)
    (f : Position → ℝ) :
    sumAbove raster level f spots = ∑ spot ∈ standouts raster spots.toFinset level, f spot := by
  have hfilter : standouts raster spots.toFinset level =
      (spots.filter fun spot => level < raster.value spot).toFinset := by
    rw [List.toFinset_filter]
    simp [standouts]
  rw [hfilter, List.sum_toFinset _ (hnodup.filter _), sumAbove]

/-- **The sums of the program** are over the pixels above the level of the sky, and the peak is
over all pixels. -/
theorem foldl_moments (raster : Raster) (level : ℝ) (spots : List Position)
    (rows cols weight : ℝ) (peak : ℕ) :
    spots.foldl (Moments.add raster (real level)) ⟨real rows, real cols, real weight, real peak⟩ =
      ⟨real (rows +
          sumAbove raster level (fun spot => spot.1 * (raster.value spot - level)) spots),
        real (cols +
          sumAbove raster level (fun spot => spot.2 * (raster.value spot - level)) spots),
        real (weight + sumAbove raster level (fun spot => raster.value spot - level) spots),
        real (max peak (spots.toFinset.sup raster.value) : ℕ)⟩ := by
  induction spots generalizing rows cols weight peak with
  | nil => simp [sumAbove]
  | cons spot rest ih =>
      have hpeak : max peak ((spot :: rest).toFinset.sup raster.value) =
          max (max peak (raster.value spot)) (rest.toFinset.sup raster.value) := by
        rw [List.toFinset_cons, Finset.sup_insert, max_assoc]
      rw [List.foldl_cons, moments_add_real, hpeak]
      simp only [sumAbove_cons]
      split_ifs with hlevel
      · rw [ih]
        simp only [add_assoc]
      · rw [ih]
        simp only [zero_add]

/-! ## The box of the program -/

/-- **The box of a pixel is all that is around it.** -/
theorem Box.toFinset_positions {box : Box} (hx : x < raster.width) (hy : y < raster.height)
    (hbox : Box.around? raster x y radius = some box) :
    box.positions.toFinset = vicinity raster x y radius := by
  obtain ⟨-, rfl⟩ := Box.around?_eq_some_iff.mp hbox
  ext spot
  rw [List.mem_toFinset, Box.positions, mem_block_iff, mem_vicinity_iff, Raster.holds_iff]
  dsimp only
  omega

theorem Box.mem_vicinity {box : Box} (hx : x < raster.width) (hy : y < raster.height)
    (hbox : Box.around? raster x y radius = some box) (hspot : spot ∈ box.positions) :
    spot ∈ vicinity raster x y radius :=
  Box.toFinset_positions hx hy hbox ▸ List.mem_toFinset.mpr hspot

/-- A measurement depends on the pixels of its box, and on nothing else of a raster. -/
theorem measureIn_congr {raster other : Raster} {box : Box}
    (hvalue : ∀ spot ∈ box.positions, other.value spot = raster.value spot) :
    (measureIn other x y box : Except DetectionError (StarStats Exact)) =
      measureIn raster x y box := by
  have hsky : (borderMean other box : Exact) = borderMean raster box := by
    unfold borderMean
    dsimp only
    congr 1
    refine List.foldl_ext _ _ _ fun sum spot hspot => ?_
    rw [hvalue spot (List.mem_filter.mp hspot).1]
  have hsums (sky : Exact) : box.positions.foldl (Moments.add other sky) ⟨0, 0, 0, 0⟩ =
      box.positions.foldl (Moments.add raster sky) ⟨0, 0, 0, 0⟩ := by
    refine List.foldl_ext _ _ _ fun m spot hspot => ?_
    unfold Moments.add
    rw [hvalue spot hspot]
  unfold measureIn
  dsimp only
  rw [hsky, hsums]

/-- What is measured depends on the pixels around a position, and on nothing else of a raster. -/
theorem starStats_congr (settings : DetectionSettings Exact) {raster other : Raster}
    (hwidth : other.width = raster.width) (hheight : other.height = raster.height)
    (hvalue : ∀ spot ∈ vicinity raster x y settings.centroidRadius,
      other.value spot = raster.value spot) :
    starStats settings other x y = starStats settings raster x y := by
  have hbox : Box.around? other x y settings.centroidRadius =
      Box.around? raster x y settings.centroidRadius := by
    rw [Box.around?, Box.around?, hwidth, hheight]
  unfold starStats
  rw [hwidth, hheight, hbox]
  split_ifs with hinside
  · refine Option.map_congr fun box hmem => measureIn_congr fun spot hspot => ?_
    exact hvalue spot (Box.mem_vicinity hinside.1 hinside.2 hmem hspot)
  · rfl

/-! ## Measurements -/

/-- **A measurement by its sums.**  There is a star if and only if something stands out of its
box. -/
theorem measureIn_eq {box : Box} {sky : ℝ} (hbox : box.positions.toFinset = pixels)
    (hpixels : pixels.Nonempty) (hsky : rimMean raster pixels = sky) :
    measureIn raster x y box =
      if (standouts raster pixels sky).Nonempty then
        .ok ⟨real (centroid raster pixels sky Prod.snd), real (centroid raster pixels sky Prod.fst),
          real (pixels.sup raster.value : ℕ), real sky⟩
      else .error (.noSignal x y) := by
  have hborder : borderMean raster box = real sky := by
    rw [borderMean_real raster (List.toFinset_nonempty_iff _ |>.mp (hbox ▸ hpixels)), hbox, hsky]
  have hsums : box.positions.foldl (Moments.add raster (real sky)) ⟨0, 0, 0, 0⟩ =
      ⟨real (∑ spot ∈ standouts raster pixels sky, spot.1 * ((raster.value spot : ℝ) - sky)),
        real (∑ spot ∈ standouts raster pixels sky, spot.2 * ((raster.value spot : ℝ) - sky)),
        real (∑ spot ∈ standouts raster pixels sky, ((raster.value spot : ℝ) - sky)),
        real (pixels.sup raster.value : ℕ)⟩ := by
    have hfold := foldl_moments raster sky box.positions 0 0 0 0
    simpa only [sumAbove_eq box.nodup_positions, hbox, Nat.cast_zero, zero_add, zero_eq,
      Nat.zero_max] using hfold
  unfold measureIn
  dsimp only
  rw [hborder, hsums, zero_eq]
  by_cases hstandouts : (standouts raster pixels sky).Nonempty
  · have hweight := sum_excess_pos_iff.mpr hstandouts
    rw [if_pos (real_lt.mpr hweight), if_pos hstandouts, real_div _ hweight.ne',
      real_div _ hweight.ne']
    rfl
  · rw [if_neg (real_lt.not.mpr (sum_excess_pos_iff.not.mpr hstandouts)), if_neg hstandouts]

/-- **A measurement in the box of a pixel is as it should be.** -/
theorem measureIn_measured {box : Box} (hx : x < raster.width) (hy : y < raster.height)
    (hbox : Box.around? raster x y radius = some box) :
    Measured raster x y radius (measureIn raster x y box) := by
  have hnonempty : (vicinity raster x y radius).Nonempty := ⟨(y, x), mem_vicinity_self hx hy⟩
  have hstats : measureIn raster x y box = _ :=
    measureIn_eq (Box.toFinset_positions hx hy hbox) hnonempty rfl
  have hflat : ¬ (standouts raster (vicinity raster x y radius)
      (rimMean raster (vicinity raster x y radius))).Nonempty ↔
        Flat raster (vicinity raster x y radius) := by
    rw [Finset.not_nonempty_iff_eq_empty, standouts_eq_empty_iff hnonempty]
  refine ⟨?_, fun hnotFlat => ?_⟩
  · rw [← hflat, hstats]
    split_ifs with hstandouts <;> simp [hstandouts]
  · have hstandouts := not_not.mp (hflat.not.mpr hnotFlat)
    rw [if_pos hstandouts] at hstats
    obtain ⟨cx, cy, hcx, hcy, hcols, hrows⟩ := measureIn_within hstats
    obtain ⟨-, rfl⟩ := Box.around?_eq_some_iff.mp hbox
    refine ⟨_, hstats, ?_⟩
    exact {
      sky := rfl
      peak := rfl
      col := rfl
      row := rfl
      col_bounds := by
        rw [hcx]
        exact hcols
      row_bounds := by
        rw [hcy]
        exact hrows
      sky_lt_peak := real_lt.mpr (lt_sup_of_standouts hstandouts) }

/-- **A measurement that keeps to its raster**, whatever its radius is. -/
structure KeepsTo (settings : DetectionSettings Exact) (raster : Raster) (x y : ℕ) : Prop where
  /-- A position that is not on the raster is refused as such, and no other is. -/
  outOfBounds_iff : ∀ col row width height,
    starStats settings raster x y = some (.error (.outOfBounds col row width height)) ↔
      ¬ (x < raster.width ∧ y < raster.height) ∧
        (col = x ∧ row = y) ∧ width = raster.width ∧ height = raster.height
  /-- Of a position that is on the raster, only pixels of the raster are looked at. -/
  holds : x < raster.width → y < raster.height →
    ∀ box, Box.around? raster x y settings.centroidRadius = some box →
      ∀ spot ∈ box.positions, raster.holds spot = true
  /-- Nothing but the vicinity matters. -/
  congr : ∀ other : Raster, other.width = raster.width → other.height = raster.height →
    (∀ spot ∈ vicinity raster x y settings.centroidRadius,
      other.value spot = raster.value spot) →
    starStats settings other x y = starStats settings raster x y

theorem starStats_keepsTo (settings : DetectionSettings Exact) (raster : Raster) (x y : ℕ) :
    KeepsTo settings raster x y where
  outOfBounds_iff col row width height := by
    by_cases hinside : x < raster.width ∧ y < raster.height
    · have hbox (box : Box) : measureIn raster x y box ≠
          (.error (.outOfBounds col row width height) :
            Except DetectionError (StarStats Exact)) := by
        unfold measureIn
        dsimp only
        split_ifs <;> simp
      simp [starStats_eq_some_iff hinside.1 hinside.2, hinside, hbox]
    · rw [starStats, if_neg hinside]
      simp [hinside, eq_comm, and_assoc]
  holds hx hy _ hbox _ hspot := (mem_vicinity_iff.mp (Box.mem_vicinity hx hy hbox hspot)).1
  congr other hwidth hheight hvalue := starStats_congr settings hwidth hheight hvalue

/-- **What is measured of a star, exactly.**  Whatever the radius is, positions that are not on the
raster are refused, and nothing outside the raster, or farther away than the radius, is looked at.
The measurement of a pixel is as it should be — no signal if and only if the rim of what is around
the pixel is of one value that nothing exceeds, and otherwise the centroid, the peak and the sky,
with the centroid in the box and the sky below the peak — if and only if the last row and the last
column within the radius are words, and otherwise there is none: it breaks off, also where the
raster ends long before. -/
theorem starStats_exact (settings : DetectionSettings Exact) (raster : Raster) (x y : ℕ) :
    KeepsTo settings raster x y ∧
    (x < raster.width → y < raster.height →
      ((∃ result, starStats settings raster x y = some result ∧
          Measured raster x y settings.centroidRadius result) ↔
        x + settings.centroidRadius < Nat.pow 2 64 ∧
          y + settings.centroidRadius < Nat.pow 2 64) ∧
      (starStats settings raster x y = none ↔
        Nat.pow 2 64 ≤ x + settings.centroidRadius ∨
          Nat.pow 2 64 ≤ y + settings.centroidRadius)) := by
  refine ⟨starStats_keepsTo settings raster x y, fun hx hy => ?_⟩
  have hmeasured : (∃ result, starStats settings raster x y = some result ∧
      Measured raster x y settings.centroidRadius result) ↔
        x + settings.centroidRadius < Nat.pow 2 64 ∧
          y + settings.centroidRadius < Nat.pow 2 64 := by
    constructor
    · rintro ⟨result, hresult, -⟩
      obtain ⟨box, hbox, -⟩ := (starStats_eq_some_iff hx hy).mp hresult
      exact (Box.around?_eq_some_iff.mp hbox).1
    · intro hwords
      have hbox : Box.around? raster x y settings.centroidRadius = some _ :=
        Box.around?_eq_some_iff.mpr ⟨hwords, rfl⟩
      exact ⟨_, (starStats_eq_some_iff hx hy).mpr ⟨_, hbox, rfl⟩, measureIn_measured hx hy hbox⟩
  refine ⟨hmeasured, ?_⟩
  rw [← not_lt, ← not_lt, ← Decidable.not_and_iff_or_not, ← hmeasured]
  constructor
  · rintro hnone ⟨result, hresult, -⟩
    exact Option.some_ne_none result (hresult.symm.trans hnone)
  · intro hno
    refine Option.eq_none_iff_forall_ne_some.mpr fun result hresult => hno ⟨result, hresult, ?_⟩
    obtain ⟨box, hbox, rfl⟩ := (starStats_eq_some_iff hx hy).mp hresult
    exact measureIn_measured hx hy hbox

/-! ## Rasters of one bright pixel -/

/-- A raster of one bright pixel. -/
def spike (height width : ℕ) (bright : Position) : Raster :=
  .ofFn height width fun row col => if (row, col) = bright then 1 else 0

theorem value_spike {height width : ℕ} {bright : Position}
    (hspot : (spike height width bright).holds spot = true) :
    (spike height width bright).value spot = if spot = bright then 1 else 0 := by
  have hindex := Raster.index_lt hspot
  obtain ⟨hrow, hcol⟩ := Raster.index_divMod hspot
  rw [Raster.value, if_pos hspot]
  simp only [spike, Raster.ofFn] at hindex hrow hcol ⊢
  rw [Array.getElem?_ofFn, dif_pos hindex]
  simp only [hrow, hcol, Option.getD_some]
  split_ifs <;> rfl

/-- The vicinity of a bright pixel is not flat, as long as it has another pixel on its rim. -/
theorem not_flat_spike {height width : ℕ} {bright : Position} (dark : Position)
    (hbright : bright ∈ vicinity (spike height width bright) x y radius)
    (hdark : dark ∈ rim (vicinity (spike height width bright) x y radius)) (hne : dark ≠ bright) :
    ¬ Flat (spike height width bright) (vicinity (spike height width bright) x y radius) := by
  rintro ⟨level, hrim, hle⟩
  have hvalue := hrim dark hdark
  have hlevel := hle bright hbright
  rw [value_spike (mem_vicinity_iff.mp (Finset.mem_filter.mp hdark).1).1, if_neg hne] at hvalue
  rw [value_spike (mem_vicinity_iff.mp hbright).1, if_pos rfl, ← hvalue] at hlevel
  exact Nat.not_succ_le_zero 0 hlevel

/-- One bright pixel in the corner of a raster, with a box that is clipped on two sides: of the
eight pixels on its rim one is bright. -/
theorem starStats_exact_corner :
    let settings : DetectionSettings Exact := ⟨real 5, 2, 8, 4⟩
    ∃ stats, starStats settings (spike 3 3 (0, 0)) 0 0 = some (.ok stats) ∧
      Describes (spike 3 3 (0, 0)) 0 0 4 stats ∧ stats.sky = real (1 / 8) ∧
        stats.peak = real 1 := by
  intro settings
  obtain ⟨-, hexact⟩ := starStats_exact settings (spike 3 3 (0, 0)) 0 0
  obtain ⟨_, hresult, hmeasured⟩ := (hexact (by decide) (by decide)).1.mpr (by decide)
  have hnotFlat : ¬ Flat (spike 3 3 (0, 0)) (vicinity (spike 3 3 (0, 0)) 0 0 4) :=
    not_flat_spike (0, 1) (by decide) (by decide) (by decide)
  obtain ⟨stats, rfl, hstar⟩ := hmeasured.exists_describes hnotFlat
  have hcard : (rim (vicinity (spike 3 3 (0, 0)) 0 0 4)).card = 8 := by decide +kernel
  have hsum : ∑ spot ∈ rim (vicinity (spike 3 3 (0, 0)) 0 0 4),
      (spike 3 3 (0, 0)).value spot = 1 := by decide +kernel
  have hsup : (vicinity (spike 3 3 (0, 0)) 0 0 4).sup (spike 3 3 (0, 0)).value = 1 := by
    decide +kernel
  refine ⟨stats, hresult, hstar, ?_, ?_⟩
  · rw [hstar.sky, rimMean, hcard, ← Nat.cast_sum, hsum]
    norm_num
  · rw [hstar.peak, hsup, Nat.cast_one]

/-- **The greatest radius there is takes in every pixel, and nothing is measured.**  There is a
star to be found around the last pixel of a small raster, but no word is that pixel and the
radius. -/
theorem starStats_breaks_off :
    let settings : DetectionSettings Exact := ⟨real 5, 2, 8, 18446744073709551615⟩
    vicinity (spike 2 2 (1, 1)) 1 1 settings.centroidRadius =
        {(0, 0), (0, 1), (1, 0), (1, 1)} ∧
      ¬ Flat (spike 2 2 (1, 1)) (vicinity (spike 2 2 (1, 1)) 1 1 settings.centroidRadius) ∧
      starStats settings (spike 2 2 (1, 1)) 1 1 = none := by
  intro settings
  refine ⟨by decide, ?_, by decide⟩
  exact not_flat_spike (0, 1) (by decide) (by decide) (by decide)

end PlateSolver.Detection
