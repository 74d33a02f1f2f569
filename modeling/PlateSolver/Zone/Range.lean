import PlateSolver.Catalog.Entry
import PlateSolver.Catalog.Error

/-!
# Cutting a cone into zone ranges

The zone catalog divides the sky into twenty-four bands of declination, each 7.5
degrees high, with one pair of files per band.  A cone is covered by the bands it
meets and, in each of them, by a window of right ascension that is cut in two
where the cone crosses zero hours.

* `Range` — one zone with the window to scan in it, in degrees.
* `bands` — the bands a cone meets, at most two.
* `spans` — its windows of right ascension, at most two.
* `partition` — all ranges of a cone, band by band.

## Design decisions

A cone as wide as a band or wider is refused.  One that is narrower may still
meet three bands; then the two southern ones are scanned and the rest is left
out, a known limit of the catalog's layout.
-/

namespace PlateSolver.Zone

open Scalar

/-- **Range.** One zone and the window to scan in it, in degrees. -/
structure Range (α : Type) where
  /-- The number of the zone's files. -/
  zone : Nat
  /-- Least right ascension. -/
  raMin : α
  /-- Greatest right ascension. -/
  raMax : α
  /-- Least declination. -/
  decMin : α
  /-- Greatest declination. -/
  decMax : α
  deriving DecidableEq

/-- A band of declination, clipped to a cone; degrees. -/
structure Band (α : Type) where
  /-- The number of the band's files. -/
  zone : Nat
  /-- Least declination. -/
  low : α
  /-- Greatest declination. -/
  high : α
  deriving DecidableEq

/-- The stem of a zone's file names. -/
def stem (zone : Nat) : String :=
  "zone" ++ String.ofList (Decimal.zeroFilled 4 (Decimal.digits zone))

/-- The name of a zone's index file. -/
def indexName (zone : Nat) : String := stem zone ++ ".acc"

/-- The name of a zone's data file. -/
def dataName (zone : Nat) : String := stem zone ++ ".cat"

/-- The number of bands. -/
def bandCount : Nat := 24

/-- File numbers go up by this from band to band. -/
def zoneStep : Nat := 75

variable {α : Type}

/-- The height of a band, in degrees. -/
def bandHeight [Scalar α] : α := 15 / 2

/-- Cones of this radius, in degrees, and wider ones are refused. -/
def radiusLimit [Scalar α] : α := 15 / 2

/-- The band that holds a declination in degrees.  A value on a boundary belongs
to the band above it, and one beyond a pole to the band of that pole. -/
def bandIndex [Scalar α] (dec : α) : Nat :=
  min (whole ((dec + 90) / bandHeight)) (bandCount - 1)

/-- One band, clipped to the declinations from `low` to `high`. -/
def clippedBand [Scalar α] (low high : α) (index : Nat) : Band α :=
  let bottom : α := ofNat index * bandHeight - 90
  { zone := index * zoneStep
    low := larger low bottom
    high := smaller high (bottom + bandHeight) }

/-- The bands that a cone meets, from south to north, at most two; degrees. -/
def bands [Scalar α] (dec radius : α) : List (Band α) :=
  let low := dec - radius
  let high := dec + radius
  let first := bandIndex low
  let last := min (bandIndex high) (first + 1)
  (List.range (last + 1 - first)).map fun i => clippedBand low high (first + i)

/-- The windows of right ascension of a cone, in degrees.  The half-width grows
with declination; a cone whose half-width is not below half a turn takes in
every right ascension. -/
def spans [Analytic α] (ra dec radius : α) : List (α × α) :=
  let halfWidth := radius / Analytic.cos (Angle.ofDegrees dec)
  if 0 ≤ halfWidth ∧ halfWidth < 180 then
    let low := ra - halfWidth
    let high := ra + halfWidth
    if low < 0 then [(0, high), (360 + low, 360)]
    else if 360 ≤ high then [(0, high - 360), (low, 360)]
    else [(low, high)]
  else [(0, 360)]

/-- The ranges that cover a cone, bands outside and windows inside. -/
def partition [Analytic α] (cone : Cone α) : Except (RadiusTooLarge α) (List (Range α)) :=
  let radius := Angle.toDegrees cone.radius
  if cone.radius < Angle.ofDegrees radiusLimit then
    let dec := Angle.toDegrees cone.dec
    let windows := spans (Angle.toDegrees cone.ra) dec radius
    .ok ((bands dec radius).flatMap fun band =>
      windows.map fun (raMin, raMax) => ⟨band.zone, raMin, raMax, band.low, band.high⟩)
  else .error ⟨radius, radiusLimit⟩

/-- The same range with its window in radians. -/
def Range.radians [Analytic α] (range : Range α) : Range α :=
  { zone := range.zone
    raMin := Angle.ofDegrees range.raMin
    raMax := Angle.ofDegrees range.raMax
    decMin := Angle.ofDegrees range.decMin
    decMax := Angle.ofDegrees range.decMax }

end PlateSolver.Zone
