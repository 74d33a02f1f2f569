import PlateSolver.Angle
import PlateSolver.Image.Header

/-!
# Plate solutions

A gnomonic solution says which sky position the reference pixel of an image has,
how the image is turned, and how large its pixels are.  In a header it takes nine
cards, angles in degrees.

* `Solution` — the solution, angles in radians.
* `Solution.fieldOfView` — the diagonal of an image under it.
* `Solution.write`, `Solution.read?` — its header cards.
-/

namespace PlateSolver

/-- **Solution.** A gnomonic plate solution, angles in radians. -/
structure Solution (α : Type) where
  /-- Right ascension of the reference pixel. -/
  ra : α
  /-- Declination of the reference pixel. -/
  dec : α
  /-- Rotation of the north axis. -/
  rotation : α
  /-- Radians per pixel along a row; its sign carries the parity. -/
  scaleX : α
  /-- Radians per pixel along a column. -/
  scaleY : α
  /-- Column of the reference pixel, counted from one. -/
  pixelX : α
  /-- Row of the reference pixel, counted from one. -/
  pixelY : α

/-- The diagonal of a `width` by `height` image with the given pixel scales. -/
def diagonal {α : Type} [Analytic α] (scaleX scaleY : α) (width height : Nat) : α :=
  let x := scaleX * Scalar.ofNat width
  let y := scaleY * Scalar.ofNat height
  Analytic.sqrt (x * x + y * y)

namespace Solution

variable {α : Type} [Analytic α]

/-- The diagonal of an image under a solution. -/
def fieldOfView (s : Solution α) (width height : Nat) : α :=
  diagonal s.scaleX s.scaleY width height

/-- The cards of a solution, angles in degrees. -/
def cards (s : Solution α) : List (String × Card α) :=
  [("CTYPE1", .text "RA---TAN"),
   ("CTYPE2", .text "DEC--TAN"),
   ("CRVAL1", .real (Angle.toDegrees s.ra)),
   ("CRVAL2", .real (Angle.toDegrees s.dec)),
   ("CDELT1", .real (Angle.toDegrees s.scaleX)),
   ("CDELT2", .real (Angle.toDegrees s.scaleY)),
   ("CROTA2", .real (Angle.toDegrees s.rotation)),
   ("CRPIX1", .real s.pixelX),
   ("CRPIX2", .real s.pixelY)]

/-- A header with the cards of a solution. -/
def write (s : Solution α) (header : Header α) : Header α :=
  s.cards.foldl (fun h card => h.set card.1 card.2) header

/-- The solution in a header, unless one of its numbers is missing. -/
def read? [Readable α] (header : Header α) : Option (Solution α) := do
  return {
    ra := Angle.ofDegrees (← header.real? "CRVAL1")
    dec := Angle.ofDegrees (← header.real? "CRVAL2")
    rotation := Angle.ofDegrees (← header.real? "CROTA2")
    scaleX := Angle.ofDegrees (← header.real? "CDELT1")
    scaleY := Angle.ofDegrees (← header.real? "CDELT2")
    pixelX := ← header.real? "CRPIX1"
    pixelY := ← header.real? "CRPIX2" }

end Solution

end PlateSolver
