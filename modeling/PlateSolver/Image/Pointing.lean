import PlateSolver.Angle.Sexagesimal
import PlateSolver.Image.Solution

/-!
# Where a header says the image points

A search starts from a nominal position, scale and field of view, all taken from
the header.  Position cards written by the telescope, in sexagesimal text, win
over an older solution; the pixel scales are required.

* `Pointing` — the nominal pointing, angles in radians.
* `PointingError` — what is missing.
* `Pointing.ofHeader` — the pointing of an image.
-/

namespace PlateSolver

/-- **Pointing.** Where an image is thought to point, angles in radians. -/
structure Pointing (α : Type) where
  /-- Right ascension. -/
  ra : α
  /-- Declination. -/
  dec : α
  /-- Diagonal field of view. -/
  fieldOfView : α
  /-- Radians per pixel along a row. -/
  scaleX : α
  /-- Radians per pixel along a column. -/
  scaleY : α

/-- What a header lacks for a pointing. -/
inductive PointingError where
  /-- No right ascension. -/
  | missingRa
  /-- No declination. -/
  | missingDec
  /-- No pixel scales. -/
  | missingScale
  deriving DecidableEq, Repr

/-- The wording of a missing pointing. -/
def PointingError.message : PointingError → String
  | .missingRa => "Can not find nominal RA"
  | .missingDec => "Can not find nominal DEC"
  | .missingScale => "CDELT1 and CDELT2 are required"

namespace Pointing

/-- Keywords of a right ascension in hours, in the order they are looked at. -/
def raKeys : List String := ["RA", "OBJRA", "RAEOD"]

/-- Keywords of a declination in degrees, in the order they are looked at. -/
def decKeys : List String := ["DEC", "OBJDEC", "DECEOD"]

variable {α : Type} [Readable α]

/-- The sexagesimal value of the first text among some cards.  The first one
decides: if it cannot be read, the others are not looked at. -/
def firstSexagesimal? [Scalar α] (header : Header α) (keys : List String) : Option α :=
  (keys.findSome? header.text?).bind Sexagesimal.parse?

/-- A coordinate of an older solution, if the header has one of the right kind. -/
def solved? [Analytic α] (header : Header α) (kindKey kind valueKey : String) : Option α :=
  match header.text? kindKey with
  | some text =>
    if Text.trim text.toList = kind.toList then (header.real? valueKey).map Angle.ofDegrees
    else none
  | none => none

/-- The nominal right ascension. -/
def ra? [Analytic α] (header : Header α) : Option α :=
  ((firstSexagesimal? header raKeys).map Angle.ofHours).or
    (solved? header "CTYPE1" "RA---TAN" "CRVAL1")

/-- The nominal declination. -/
def dec? [Analytic α] (header : Header α) : Option α :=
  ((firstSexagesimal? header decKeys).map Angle.ofDegrees).or
    (solved? header "CTYPE2" "DEC--TAN" "CRVAL2")

/-- The nominal pointing of a `width` by `height` image, or the first thing that
is missing for it. -/
def ofHeader [Analytic α] (header : Header α) (width height : Nat) :
    Except PointingError (Pointing α) :=
  match ra? header with
  | none => .error .missingRa
  | some ra =>
    match dec? header with
    | none => .error .missingDec
    | some dec =>
      match header.real? "CDELT1", header.real? "CDELT2" with
      | some stepX, some stepY =>
        let scaleX := Angle.ofDegrees stepX
        let scaleY := Angle.ofDegrees stepY
        let x := Scalar.ofNat width * scaleX
        let y := Scalar.ofNat height * scaleY
        .ok ⟨ra, dec, Analytic.sqrt (x * x + y * y), scaleX, scaleY⟩
      | _, _ => .error .missingScale

end Pointing

end PlateSolver
