import PlateSolver.Arithmetic.Double
import PlateSolver.Image.Raster

/-!
# Blobs of lit pixels

Lit pixels that touch along an edge belong together.  The pixels of a group are
found by spreading from the first of them in raster order: each pixel, in the
order of discovery, looks up, down, left and right, and what it discovers is
marked before it is itself looked at, so that nothing is discovered twice.

* `Spread`, `discover`, `spread` — the pixels of one group, in order of discovery.
* `Blob`, `Blob.ofPixels` — the measurements of a group.
* `blobs` — all groups of a raster, the brightest peak first.
-/

namespace PlateSolver.Detection

open Scalar

/-- **Spread.** What has been discovered on a raster: marks on all pixels reached
so far, and the pixels of the present group in order of discovery. -/
structure Spread where
  /-- For every pixel of the raster, whether it was reached. -/
  seen : Array Bool
  /-- The pixels of the present group. -/
  found : Array Position

/-- The word of 64 bits before a word; before zero comes the greatest. -/
def wordBefore (n : Nat) : Nat := if n = 0 then Nat.pow 2 64 - 1 else n - 1

/-- The positions up, down, left and right of a position.  Rows and columns are words: what is
up from the first row, or left of the first column, is not on any raster. -/
def neighbours : Position → List Position
  | (row, col) => [(wordBefore row, col), (row + 1, col), (row, wordBefore col), (row, col + 1)]

variable {α : Type} [Scalar α]

/-- Whether the pixel at a position is on the raster and above a level. -/
def lit (raster : Raster) (level : α) (spot : Position) : Bool :=
  raster.holds spot && level < ofNat (raster.value spot)

/-- Takes a position into the group if its pixel is lit and was not reached before. -/
def discover (raster : Raster) (level : α) (s : Spread) (spot : Position) : Spread :=
  if lit raster level spot && !s.seen[raster.index spot]?.getD true then
    match s with
    | ⟨seen, found⟩ => ⟨seen.setIfInBounds (raster.index spot) true, found.push spot⟩
  else s

/-- Looks around every pixel of the group from the one numbered `next` on.  A
raster has no more pixels than `fuel` at the start, and each is looked at once. -/
def spread (raster : Raster) (level : α) : (fuel next : Nat) → Spread → Spread
  | 0, _, s => s
  | fuel + 1, next, s =>
    match s.found[next]? with
    | none => s
    | some spot =>
      spread raster level fuel (next + 1) ((neighbours spot).foldl (discover raster level) s)

/-- **Blob.** One group of lit pixels that touch along edges. -/
structure Blob where
  /-- The number of its pixels. -/
  area : Nat
  /-- Its first row. -/
  top : Nat
  /-- Its last row. -/
  bottom : Nat
  /-- Its first column. -/
  left : Nat
  /-- Its last column. -/
  right : Nat
  /-- A brightest pixel: the first one in order of discovery. -/
  peak : Position
  /-- The value of the brightest pixel. -/
  peakValue : Nat

namespace Blob

/-- A blob that is about to get its first pixel. -/
def seed (raster : Raster) (spot : Position) : Blob :=
  { area := 0, top := spot.1, bottom := spot.1, left := spot.2, right := spot.2
    peak := spot, peakValue := raster.value spot }

/-- A blob with one more pixel. -/
def add (raster : Raster) (blob : Blob) (spot : Position) : Blob :=
  let brighter := blob.peakValue < raster.value spot
  { area := blob.area + 1
    top := min blob.top spot.1
    bottom := max blob.bottom spot.1
    left := min blob.left spot.2
    right := max blob.right spot.2
    peak := if brighter then spot else blob.peak
    peakValue := if brighter then raster.value spot else blob.peakValue }

/-- The measurements of a group that begins at a pixel. -/
def ofPixels (raster : Raster) (first : Position) (pixels : List Position) : Blob :=
  pixels.foldl (add raster) (seed raster first)

end Blob

/-- Marks and blobs after looking at one more position of the raster. -/
def collectAt (raster : Raster) (level : α) (state : Array Bool × List Blob) (spot : Position) :
    Array Bool × List Blob :=
  let (seen, done) := state
  let start := discover raster level ⟨seen, #[]⟩ spot
  if start.found.isEmpty then (start.seen, done)
  else
    let group := spread raster level (raster.height * raster.width) 0 start
    (group.seen, Blob.ofPixels raster spot group.found.toList :: done)

/-- The blobs of a raster in raster order of their first pixels. -/
def collect (raster : Raster) (level : α) : List Blob :=
  (raster.positions.foldl (collectAt raster level)
    (Array.replicate (raster.height * raster.width) false, [])).2.reverse

/-- The blobs of a raster above a level, the brightest peak first; equal peaks keep
the raster order of their first pixels. -/
def blobs (raster : Raster) (level : α) : List Blob :=
  (collect raster level).mergeSort fun a b => b.peakValue ≤ a.peakValue

end PlateSolver.Detection
