import PlateSolver.Image.Raster

/-!
# Positions and where they are stored

The pixels of a raster are stored row by row, and positions are gone through in the same
order.  So a position is as good as its index: those on the raster have different ones below
the number of pixels, and the list of all positions is the list of all indices.

* `InWords` — the size of a raster as a program can hold it.
* `index_lt`, `index_inj` — indices of positions on the raster.
* `map_index_positions` — the positions of a raster, by index.
* `mem_positions_iff`, `pairwise_positions` — which they are, and in which order.
-/

namespace PlateSolver.Raster

variable {raster : Raster} {spot other : Position}

/-- **A raster that is no larger than words can say**: rows and columns are counted in words of
64 bits. -/
structure InWords (raster : Raster) : Prop where
  /-- The number of rows is a word. -/
  height_lt : raster.height < Nat.pow 2 64
  /-- The number of columns is a word. -/
  width_lt : raster.width < Nat.pow 2 64

theorem holds_iff : raster.holds spot = true ↔ spot.1 < raster.height ∧ spot.2 < raster.width := by
  unfold holds
  rw [Bool.and_eq_true, decide_eq_true_iff, decide_eq_true_iff]

/-- The row and the column of a position can be read off its index. -/
theorem index_divMod (h : raster.holds spot = true) :
    raster.index spot / raster.width = spot.1 ∧ raster.index spot % raster.width = spot.2 := by
  have hcol := (holds_iff.mp h).2
  have hwidth : 0 < raster.width := Nat.zero_lt_of_lt hcol
  unfold index
  rw [Nat.mul_comm]
  constructor
  · rw [Nat.mul_add_div hwidth, Nat.div_eq_of_lt hcol, Nat.add_zero]
  · rw [Nat.mul_add_mod, Nat.mod_eq_of_lt hcol]

/-- **Different positions on a raster have different indices.** -/
theorem index_inj (hspot : raster.holds spot = true) (hother : raster.holds other = true)
    (h : raster.index spot = raster.index other) : spot = other := by
  obtain ⟨hrow, hcol⟩ := index_divMod hspot
  obtain ⟨hrow', hcol'⟩ := index_divMod hother
  rw [h] at hrow hcol
  exact Prod.ext (hrow.symm.trans hrow') (hcol.symm.trans hcol')

/-- The index of a position on a raster is below the number of pixels. -/
theorem index_lt (h : raster.holds spot = true) :
    raster.index spot < raster.height * raster.width := by
  obtain ⟨hrow, hcol⟩ := holds_iff.mp h
  calc spot.1 * raster.width + spot.2
    _ < spot.1 * raster.width + raster.width := Nat.add_lt_add_left hcol _
    _ = (spot.1 + 1) * raster.width := (Nat.succ_mul _ _).symm
    _ ≤ raster.height * raster.width := Nat.mul_le_mul_right _ hrow

theorem mem_positions_iff : spot ∈ raster.positions ↔ raster.holds spot = true := by
  rw [holds_iff]
  unfold positions
  simp only [List.mem_flatMap, List.mem_map, List.mem_range]
  constructor
  · rintro ⟨row, hrow, col, hcol, rfl⟩
    exact ⟨hrow, hcol⟩
  · rintro ⟨hrow, hcol⟩
    exact ⟨spot.1, hrow, spot.2, hcol, rfl⟩

/-- **The positions of a raster are in the order in which pixels are stored**, and none of the
pixels is left out. -/
theorem map_index_positions (raster : Raster) :
    raster.positions.map raster.index = List.range (raster.height * raster.width) := by
  unfold positions
  -- By induction on the rows, of which the last one adds a block of indices.
  generalize raster.height = height
  induction height with
  | zero => rw [Nat.zero_mul]; rfl
  | succ height ih =>
      rw [List.range_succ, List.flatMap_append, List.map_append, ih, Nat.succ_mul, List.range_add]
      simp only [List.flatMap_singleton, List.map_map]
      rfl

/-- Positions are gone through by increasing index. -/
theorem pairwise_positions (raster : Raster) :
    raster.positions.Pairwise fun a b => raster.index a < raster.index b := by
  rw [← List.pairwise_map, map_index_positions]
  exact List.pairwise_lt_range

theorem nodup_positions (raster : Raster) : raster.positions.Nodup := by
  refine raster.pairwise_positions.imp ?_
  rintro a _ hlt rfl
  exact Nat.lt_irrefl _ hlt

end PlateSolver.Raster
