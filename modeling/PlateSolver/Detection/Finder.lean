import PlateSolver.Arithmetic.Word
import PlateSolver.Detection.Blob
import PlateSolver.Detection.Brightness
import PlateSolver.Detection.Level

/-!
# Finding and measuring stars

The shipped detector takes every large enough blob away from the border as a
star, and measures a star by the centroid of a small box around it after taking
off the level of the box's own border.

* `DetectionSettings` — its parameters.
* `DetectedStar`, `StarStats`, `DetectionError` — what it reports.
* `findStars`, `starStats` — its two operations.
-/

namespace PlateSolver

/-- **Parameters of the detector.** -/
structure DetectionSettings (α : Type) where
  /-- How many standard deviations above the mean a lit pixel is. -/
  sigma : α
  /-- The least number of pixels of a star. -/
  minArea : Nat
  /-- Pixels this close to an edge are no peaks of stars. -/
  border : Nat
  /-- Half the width of the box in which a star is measured. -/
  centroidRadius : Nat

/-- The parameters when nothing is said. -/
def DetectionSettings.default : DetectionSettings Float :=
  ⟨5.0, 2, 8, 4⟩

/-- A star as it was found: the position of its peak and the value there. -/
structure DetectedStar (α : Type) where
  /-- Column. -/
  x : α
  /-- Row. -/
  y : α
  /-- How bright it is. -/
  brightness : Brightness α

/-- A star as it was measured. -/
structure StarStats (α : Type) where
  /-- Column of the centroid. -/
  x : α
  /-- Row of the centroid. -/
  y : α
  /-- The greatest pixel value in the box. -/
  peak : α
  /-- The level of the sky around the star. -/
  sky : α

/-- Why a star could not be measured. -/
inductive DetectionError where
  /-- The position is not on the image. -/
  | outOfBounds (x y width height : Nat)
  /-- Nothing in the box stands out. -/
  | noSignal (x y : Nat)
  deriving DecidableEq, Repr

/-- The wording of a failed measurement. -/
def DetectionError.message : DetectionError → String
  | .outOfBounds x y width height =>
    s!"Star position [{x},{y}] is outside the {width}x{height} image"
  | .noSignal x y => s!"No signal above sky around [{x},{y}]"

namespace Detection

open Scalar

/-- Whether the peak of a blob keeps the distance `border` from every edge. -/
def awayFromEdges (raster : Raster) (border : Nat) (blob : Blob) : Bool :=
  border ≤ blob.peak.1 && border ≤ blob.peak.2 &&
    blob.peak.1 + border < raster.height && blob.peak.2 + border < raster.width

variable {α : Type}

/-- A blob as a star. -/
def starOf [Scalar α] (blob : Blob) : DetectedStar α :=
  ⟨ofNat blob.peak.2, ofNat blob.peak.1, .reading (ofNat blob.peakValue)⟩

/-- The blobs of a raster that count as stars, the brightest first. -/
def starBlobs [Analytic α] (settings : DetectionSettings α) (raster : Raster) : List Blob :=
  (blobs raster (threshold raster settings.sigma)).filter fun blob =>
    settings.minArea ≤ blob.area && awayFromEdges raster settings.border blob

/-- The stars of a raster, the brightest first. -/
def findStars [Analytic α] (settings : DetectionSettings α) (raster : Raster) :
    List (DetectedStar α) :=
  (starBlobs settings raster).map starOf

/-- A rectangle of pixels, its last row and column included. -/
structure Box where
  /-- First row. -/
  top : Nat
  /-- Last row. -/
  bottom : Nat
  /-- First column. -/
  left : Nat
  /-- Last column. -/
  right : Nat

namespace Box

/-- The last row or column of the box around a position, where the raster ends at `last`.
It is worked out in words before it is clipped. -/
def reach? (position radius last : Nat) : Option Nat :=
  (Word.ofNat? (position + radius)).map fun sum => min sum last

/-- The box around a position, clipped to the raster. -/
def around? (raster : Raster) (x y radius : Nat) : Option Box := do
  let bottom ← reach? y radius (raster.height - 1)
  let right ← reach? x radius (raster.width - 1)
  return { top := y - radius, bottom, left := x - radius, right }

/-- The positions of a box, row by row. -/
def positions (box : Box) : List Position := Raster.block box.top box.bottom box.left box.right

/-- Whether a position of a box is on its border. -/
def onBorder (box : Box) (spot : Position) : Bool :=
  spot.1 == box.top || spot.1 == box.bottom || spot.2 == box.left || spot.2 == box.right

end Box

variable [Scalar α]

/-- The mean of the pixels on the border of a box. -/
def borderMean (raster : Raster) (box : Box) : α :=
  let border := box.positions.filter box.onBorder
  border.foldl (fun sum spot => sum + ofNat (raster.value spot)) (0 : α) / ofNat border.length

/-- Weighted sums over a box. -/
structure Moments (α : Type) where
  /-- Sum of rows times weights. -/
  rows : α
  /-- Sum of columns times weights. -/
  cols : α
  /-- Sum of weights. -/
  weight : α
  /-- The greatest pixel value. -/
  peak : α

/-- Sums with one more pixel, whose weight is its excess over the sky, if it has one. -/
def Moments.add (raster : Raster) (sky : α) (m : Moments α) (spot : Position) : Moments α :=
  let value : α := ofNat (raster.value spot)
  let weight := value - sky
  let peak := larger m.peak value
  if 0 < weight then
    { rows := m.rows + ofNat spot.1 * weight
      cols := m.cols + ofNat spot.2 * weight
      weight := m.weight + weight
      peak := peak }
  else { m with peak := peak }

/-- The measurements of the star at a pixel, in a box around it. -/
def measureIn (raster : Raster) (x y : Nat) (box : Box) : Except DetectionError (StarStats α) :=
  let sky : α := borderMean raster box
  let sums := box.positions.foldl (Moments.add raster sky) ⟨0, 0, 0, 0⟩
  if 0 < sums.weight then
    .ok ⟨sums.cols / sums.weight, sums.rows / sums.weight, sums.peak, sky⟩
  else .error (.noSignal x y)

/-- The measurements of the star at a pixel, in the box that the settings say.  It
breaks off when no word can say how far the box would go. -/
def starStats (settings : DetectionSettings α) (raster : Raster) (x y : Nat) :
    Option (Except DetectionError (StarStats α)) :=
  if x < raster.width ∧ y < raster.height then
    (Box.around? raster x y settings.centroidRadius).map (measureIn raster x y)
  else some (.error (.outOfBounds x y raster.width raster.height))

end Detection

end PlateSolver
