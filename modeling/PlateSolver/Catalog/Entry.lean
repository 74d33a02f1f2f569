import PlateSolver.Angle

/-!
# Catalog entries and cones

* `Entry` — one star as a catalog reports it.
* `Cone` — the circular region of sky a catalog is asked about, and
  `Cone.ofField`, the one around a field of view.
-/

namespace PlateSolver

/-- **Entry.** One star of a catalog, J2000, angles in radians. -/
structure Entry (α : Type) where
  /-- The catalog's name of the star. -/
  name : String
  /-- Right ascension. -/
  ra : α
  /-- Declination. -/
  dec : α
  /-- Magnitude; the brighter, the smaller. -/
  mag : α
  /-- Whether the object is a star. -/
  isStar : Bool := true

/-- **Cone.** A circular region of sky, angles in radians. -/
structure Cone (α : Type) where
  /-- Right ascension of the center. -/
  ra : α
  /-- Declination of the center. -/
  dec : α
  /-- Greatest distance from the center. -/
  radius : α

/-- The cone around a field of view of the given diameter. -/
def Cone.ofField {α : Type} [Scalar α] (ra dec fieldOfView : α) : Cone α :=
  ⟨ra, dec, fieldOfView / 2⟩

end PlateSolver
