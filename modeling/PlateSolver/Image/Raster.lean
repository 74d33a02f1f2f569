/-!
# Pixel rasters

A raster is a rectangle of 16-bit pixel values, stored row by row.

* `Raster` — the pixels, of which there are as many as the size says.
* `Raster.ofFn` — the raster with a given value at every position.
* `Raster.value` — the value at a position; zero outside.
* `Raster.positions` — all positions, row by row.
-/

namespace PlateSolver

/-- A position on a raster: row and column, counted from zero. -/
abbrev Position := Nat × Nat

/-- **Raster.** Pixel values row by row. -/
structure Raster where
  /-- The number of columns. -/
  width : Nat
  /-- The number of rows. -/
  height : Nat
  /-- All pixels, row by row. -/
  pixels : Array UInt16
  /-- There is a pixel for every position. -/
  size_pixels : pixels.size = height * width

namespace Raster

/-- The raster with a given value at every position. -/
def ofFn (height width : Nat) (value : Nat → Nat → UInt16) : Raster where
  width := width
  height := height
  pixels := Array.ofFn fun i : Fin (height * width) => value (i / width) (i % width)
  size_pixels := by simp

/-- Whether a position is on the raster. -/
def holds (raster : Raster) (spot : Position) : Bool :=
  spot.1 < raster.height && spot.2 < raster.width

/-- Where the pixel at a position is stored. -/
def index (raster : Raster) (spot : Position) : Nat := spot.1 * raster.width + spot.2

/-- The value of the pixel at a position, zero outside the raster. -/
def value (raster : Raster) (spot : Position) : Nat :=
  if raster.holds spot then (raster.pixels[raster.index spot]?.getD 0).toNat else 0

/-- The positions of a block of rows and columns, row by row; the last ones are included. -/
def block (top bottom left right : Nat) : List Position :=
  (List.range (bottom + 1 - top)).flatMap fun i =>
    (List.range (right + 1 - left)).map fun j => (top + i, left + j)

/-- Every position of a raster, row by row. -/
def positions (raster : Raster) : List Position :=
  (List.range raster.height).flatMap fun row => (List.range raster.width).map fun col => (row, col)

end Raster

end PlateSolver
