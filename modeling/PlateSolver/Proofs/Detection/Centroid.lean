import PlateSolver.Detection.Finder
import PlateSolver.Proofs.Arithmetic.Exact
import PlateSolver.Proofs.Image.Raster

/-!
# Where a centroid lies

A star is measured by sums over a box, and what comes out is a mean of the box's own rows
and columns: weights are taken in only where they are positive, and without any there is
no measurement.  So a centroid cannot leave its box, and a box that is clipped to the
raster keeps it on the raster.

* `mem_block_iff`, `Box.around?_eq_some_iff` — the pixels of a box, and where a box ends.
* `Moments.Within` — sums whose means lie in a box.
* `Within.add`, `Within.foldl` — one more pixel, and all of them.
* `measureIn_within` — a star that is measured in a box lies in it.
* `starStats_near` — and no farther from the pixel it was measured at than half its width.

Positions are words, and where no word says how far a box would go there is none: nothing is
measured then, and what is said here of a measurement is said of those there are.
-/

namespace PlateSolver.Detection

open Exact Scalar

/-! ## Boxes -/

/-- The positions of a block are those between its edges. -/
theorem mem_block_iff {top bottom left right : ℕ} {spot : Position} :
    spot ∈ Raster.block top bottom left right ↔
      (top ≤ spot.1 ∧ spot.1 ≤ bottom) ∧ left ≤ spot.2 ∧ spot.2 ≤ right := by
  obtain ⟨row, col⟩ := spot
  simp only [Raster.block, List.mem_flatMap, List.mem_map, List.mem_range, Prod.mk.injEq]
  constructor
  · rintro ⟨i, hi, j, hj, rfl, rfl⟩
    omega
  · rintro ⟨⟨htop, hbottom⟩, hleft, hright⟩
    exact ⟨row - top, by omega, col - left, by omega, by omega, by omega⟩

/-- On one axis, a box has an end if and only if a word says how far it would go. -/
theorem Box.reach?_eq_some_iff {position radius last stop : ℕ} :
    Box.reach? position radius last = some stop ↔
      position + radius < Word.limit ∧ stop = min (position + radius) last := by
  rw [Box.reach?, Option.map_eq_some_iff]
  constructor
  · rintro ⟨_, hword, rfl⟩
    obtain ⟨hlt, rfl⟩ := Word.ofNat?_eq_some_iff.mp hword
    exact ⟨hlt, rfl⟩
  · rintro ⟨hlt, rfl⟩
    exact ⟨_, Word.ofNat?_of_lt hlt, rfl⟩

/-- **The box of a pixel**, where there is one: it goes as far as its half-width and the raster
allow. -/
theorem Box.around?_eq_some_iff {raster : Raster} {x y radius : ℕ} {box : Box} :
    Box.around? raster x y radius = some box ↔
      (x + radius < Word.limit ∧ y + radius < Word.limit) ∧
        box = { top := y - radius, bottom := min (y + radius) (raster.height - 1),
                left := x - radius, right := min (x + radius) (raster.width - 1) } := by
  simp only [Box.around?, Option.bind_eq_bind, Option.bind_eq_some_iff, Box.reach?_eq_some_iff,
    Option.pure_def, Option.some.injEq]
  constructor
  · rintro ⟨bottom, ⟨hrow, rfl⟩, right, ⟨hcol, rfl⟩, rfl⟩
    exact ⟨⟨hcol, hrow⟩, rfl⟩
  · rintro ⟨⟨hcol, hrow⟩, rfl⟩
    exact ⟨_, ⟨hrow, rfl⟩, _, ⟨hcol, rfl⟩, rfl⟩

/-! ## Sums -/

/-- **Sums whose means lie in a box.** -/
structure Moments.Within (box : Box) (m : Moments Exact) (rows cols weight : ℝ) : Prop where
  /-- The sum of rows is a number. -/
  rows_eq : m.rows = real rows
  /-- The sum of columns is a number. -/
  cols_eq : m.cols = real cols
  /-- The sum of weights is a number, -/
  weight_eq : m.weight = real weight
  /-- and not below zero. -/
  weight_nonneg : 0 ≤ weight
  /-- The mean of the rows is not before the first. -/
  top_le : box.top * weight ≤ rows
  /-- The mean of the rows is not after the last. -/
  le_bottom : rows ≤ box.bottom * weight
  /-- The mean of the columns is not before the first. -/
  left_le : box.left * weight ≤ cols
  /-- The mean of the columns is not after the last. -/
  le_right : cols ≤ box.right * weight

namespace Moments.Within

variable {box : Box} {m : Moments Exact} {rows cols weight : ℝ}

theorem zero (box : Box) : Moments.Within box ⟨0, 0, 0, 0⟩ 0 0 0 := by
  constructor <;> simp

/-- A pixel that counts moves the sums by a positive multiple of its position. -/
theorem shift (h : Moments.Within box m rows cols weight) {spot : Position}
    (hspot : spot ∈ box.positions) {excess : ℝ} (hexcess : 0 < excess) (peak : Exact) :
    Moments.Within box
      { rows := m.rows + ofNat spot.1 * real excess
        cols := m.cols + ofNat spot.2 * real excess
        weight := m.weight + real excess
        peak := peak }
      (rows + spot.1 * excess) (cols + spot.2 * excess) (weight + excess) := by
  obtain ⟨⟨htop, hbottom⟩, hleft, hright⟩ := mem_block_iff.mp hspot
  have hscale {a b : ℕ} (hab : a ≤ b) : (a : ℝ) * excess ≤ b * excess :=
    mul_le_mul_of_nonneg_right (Nat.cast_le.mpr hab) hexcess.le
  exact {
    rows_eq := by simp [h.rows_eq]
    cols_eq := by simp [h.cols_eq]
    weight_eq := by simp [h.weight_eq]
    weight_nonneg := add_nonneg h.weight_nonneg hexcess.le
    top_le := by
      rw [mul_add]
      exact add_le_add h.top_le (hscale htop)
    le_bottom := by
      rw [mul_add]
      exact add_le_add h.le_bottom (hscale hbottom)
    left_le := by
      rw [mul_add]
      exact add_le_add h.left_le (hscale hleft)
    le_right := by
      rw [mul_add]
      exact add_le_add h.le_right (hscale hright) }

/-- **One more pixel of the box leaves the means in it.** -/
theorem add (h : Moments.Within box m rows cols weight) {spot : Position}
    (hspot : spot ∈ box.positions) (raster : Raster) (sky : Exact) :
    ∃ rows' cols' weight',
      Moments.Within box (Moments.add raster sky m spot) rows' cols' weight' := by
  simp only [Moments.add]
  split_ifs with hexcess
  · -- Only numbers compare, so what exceeds the sky does so by a number.
    cases hsky : sky with
    | undefined =>
        rw [hsky] at hexcess
        exact hexcess.elim
    | real level =>
        have hpositive : (0 : ℝ) < raster.value spot - level := by simpa [hsky] using hexcess
        exact ⟨_, _, _, h.shift hspot hpositive _⟩
  · exact ⟨rows, cols, weight, ⟨h.rows_eq, h.cols_eq, h.weight_eq, h.weight_nonneg, h.top_le,
      h.le_bottom, h.left_le, h.le_right⟩⟩

theorem foldl (h : Moments.Within box m rows cols weight) (raster : Raster) (sky : Exact)
    {spots : List Position} (hspots : spots ⊆ box.positions) :
    ∃ rows' cols' weight',
      Moments.Within box (spots.foldl (Moments.add raster sky) m) rows' cols' weight' := by
  induction spots generalizing m rows cols weight with
  | nil => exact ⟨rows, cols, weight, h⟩
  | cons spot rest ih =>
      obtain ⟨hspot, hrest⟩ := List.cons_subset.mp hspots
      obtain ⟨_, _, _, hadd⟩ := h.add hspot raster sky
      exact ih hadd hrest

/-- With some weight, there are means, and they are in the box. -/
theorem exists_mean (h : Moments.Within box m rows cols weight) (hweight : 0 < m.weight) :
    ∃ x y : ℝ, m.cols / m.weight = real x ∧ m.rows / m.weight = real y ∧
      (box.left ≤ x ∧ x ≤ box.right) ∧ box.top ≤ y ∧ y ≤ box.bottom := by
  rw [h.weight_eq, zero_eq, real_lt] at hweight
  rw [h.rows_eq, h.cols_eq, h.weight_eq, real_div _ hweight.ne', real_div _ hweight.ne']
  exact ⟨_, _, rfl, rfl,
    ⟨(le_div_iff₀ hweight).mpr h.left_le, (div_le_iff₀ hweight).mpr h.le_right⟩,
    (le_div_iff₀ hweight).mpr h.top_le, (div_le_iff₀ hweight).mpr h.le_bottom⟩

end Moments.Within

/-! ## Measurements -/

variable {settings : DetectionSettings Exact} {raster : Raster} {x y : ℕ} {stats : StarStats Exact}

/-- On the raster, a measurement is one in a box. -/
theorem starStats_eq_some_iff {result : Except DetectionError (StarStats Exact)}
    (hx : x < raster.width) (hy : y < raster.height) :
    starStats settings raster x y = some result ↔
      ∃ box, Box.around? raster x y settings.centroidRadius = some box ∧
        measureIn raster x y box = result := by
  rw [starStats, if_pos ⟨hx, hy⟩, Option.map_eq_some_iff]

/-- **Every measurement comes to an end** where words go farther than the radius from any pixel. -/
theorem starStats_ne_none (hcols : raster.width + settings.centroidRadius ≤ Word.limit)
    (hrows : raster.height + settings.centroidRadius ≤ Word.limit) (x y : ℕ) :
    starStats settings raster x y ≠ none := by
  unfold starStats
  split_ifs with hinside
  · have hbox : Box.around? raster x y settings.centroidRadius = some _ :=
      Box.around?_eq_some_iff.mpr ⟨⟨by omega, by omega⟩, rfl⟩
    rw [hbox]
    exact Option.some_ne_none _
  · exact Option.some_ne_none _

/-- **A star that is measured in a box lies in it.** -/
theorem measureIn_within {box : Box} (h : measureIn raster x y box = .ok stats) :
    ∃ cx cy : ℝ, stats.x = real cx ∧ stats.y = real cy ∧
      (box.left ≤ cx ∧ cx ≤ box.right) ∧ box.top ≤ cy ∧ cy ≤ box.bottom := by
  simp only [measureIn] at h
  split_ifs at h with hweight
  obtain ⟨_, _, _, hwithin⟩ := (Moments.Within.zero _).foldl raster _ (List.Subset.refl _)
  rw [← Except.ok.inj h]
  exact hwithin.exists_mean hweight

/-- **A star that is measured lies on the raster**, and no farther from the pixel that it was
measured at than the half-width of its box, on either axis. -/
theorem starStats_near (h : starStats settings raster x y = some (.ok stats))
    (hx : x < raster.width) (hy : y < raster.height) :
    ∃ cx cy : ℝ, stats.x = real cx ∧ stats.y = real cy ∧
      (0 ≤ cx ∧ cx ≤ raster.width - 1) ∧ (0 ≤ cy ∧ cy ≤ raster.height - 1) ∧
      |cx - x| ≤ settings.centroidRadius ∧ |cy - y| ≤ settings.centroidRadius := by
  obtain ⟨box, hbox, hstats⟩ := (starStats_eq_some_iff hx hy).mp h
  obtain ⟨-, rfl⟩ := Box.around?_eq_some_iff.mp hbox
  obtain ⟨cx, cy, hcx, hcy, ⟨hleft, hright⟩, htop, hbottom⟩ := measureIn_within hstats
  -- The edges of the box as real numbers.
  have hbegin (n : ℕ) : (n : ℝ) - settings.centroidRadius ≤ (n - settings.centroidRadius : ℕ) := by
    rw [sub_le_iff_le_add]
    exact_mod_cast (by omega : n ≤ n - settings.centroidRadius + settings.centroidRadius)
  have hend (n last : ℕ) : ((min (n + settings.centroidRadius) last : ℕ) : ℝ) ≤
      n + settings.centroidRadius := by exact_mod_cast Nat.min_le_left _ _
  have hlast {size : ℕ} (n : ℕ) (hsize : 0 < size) :
      ((min (n + settings.centroidRadius) (size - 1) : ℕ) : ℝ) ≤ size - 1 := by
    rw [← Nat.cast_pred hsize]
    exact_mod_cast Nat.min_le_right _ _
  have hzero (n : ℕ) : (0 : ℝ) ≤ n := n.cast_nonneg
  refine ⟨cx, cy, hcx, hcy,
    ⟨(hzero _).trans hleft, hright.trans (hlast x (Nat.zero_lt_of_lt hx))⟩,
    ⟨(hzero _).trans htop, hbottom.trans (hlast y (Nat.zero_lt_of_lt hy))⟩, ?_, ?_⟩
  · rw [abs_le]
    constructor <;> linarith [hbegin x, hend x (raster.width - 1)]
  · rw [abs_le]
    constructor <;> linarith [hbegin y, hend y (raster.height - 1)]

end PlateSolver.Detection
