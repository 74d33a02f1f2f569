import PlateSolver.Arithmetic

/-!
# Angles

Positions on the sky travel through the library in radians.  Headers and tables
give right ascension in hours and declination in degrees, and the zone catalog is
laid out in degrees, so the conversions between the three units live here,
together with the two operations on the sphere itself: bringing an angle into its
period and measuring how far apart two positions are.

* `Angle.ofDegrees`, `Angle.toDegrees`, `Angle.ofHours`, `Angle.toHours`.
* `Angle.wrap` — the representative of an angle in `[0, period)`.
* `Angle.separation` — great-circle distance, by the haversine formula.
-/

namespace PlateSolver.Angle

open Scalar

/-- The representative of `value` in `[0, period)`.  Where sums are rounded, a
tiny negative value may come out as `period` itself, which stands for zero. -/
def wrap {α : Type} [Scalar α] (value period : α) : α :=
  let left := remainder value period
  let shifted := if left < 0 then left + abs period else left
  if period ≤ shifted then 0 else shifted

variable {α : Type} [Analytic α]

/-- One turn, in radians. -/
def turn : α := 2 * Analytic.pi

/-- Radians in an angle given in degrees. -/
def ofDegrees (degrees : α) : α := degrees * (Analytic.pi / 180)

/-- Degrees in an angle given in radians. -/
def toDegrees (angle : α) : α := angle * (180 / Analytic.pi)

/-- Radians in an angle given in hours, of which a turn has twenty-four. -/
def ofHours (hours : α) : α := ofDegrees (hours * 15)

/-- Hours in an angle given in radians. -/
def toHours (angle : α) : α := toDegrees angle / 15

/-- Great-circle distance between two positions, by the haversine formula.  The
sine is capped at one, which matters only where rounding overshoots. -/
def separation (ra₁ dec₁ ra₂ dec₂ : α) : α :=
  let sinDec := Analytic.sin ((dec₂ - dec₁) / 2)
  let sinRa := Analytic.sin ((ra₂ - ra₁) / 2)
  let haversine := sinDec * sinDec + Analytic.cos dec₁ * Analytic.cos dec₂ * sinRa * sinRa
  2 * Analytic.asin (smaller (Analytic.sqrt haversine) 1)

end PlateSolver.Angle
