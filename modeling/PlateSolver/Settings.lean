/-!
# Settings of the solver

What a user can tune: how stars are matched, how far and in what steps to
search, how many stars to use and how faint they may be, and where the catalog
is.

* `FitMethod` — the two ways to match stars.
* `MatchParams` — the part of the settings that is handed to every fit.
* `Settings` — all of them, and `Settings.default`.
-/

namespace PlateSolver

/-- How an external fit matches stars. -/
inductive FitMethod where
  /-- By triangles; the fit is linear. -/
  | triangle
  /-- By distances; the last fit may be of higher order. -/
  | distance
  deriving DecidableEq, Repr

/-- The name of a method. -/
def FitMethod.name : FitMethod → String
  | .triangle => "Triangle"
  | .distance => "Distance"

/-- **Parameters of a fit.** -/
structure MatchParams (α : Type) where
  /-- The least number of star pairs of a match. -/
  minPair : Nat
  /-- The greatest number of stars to pair. -/
  maxPair : Nat
  /-- A fit is tried once this many pairs are found. -/
  tryStars : Nat
  /-- The greatest rotation, in degrees. -/
  maxRotation : α
  /-- Distances that differ by less, in arcseconds, count as equal. -/
  matchDistance : α
  /-- Stars farther off, in arcseconds, are left out of the fit of higher order. -/
  rejectDistance : α
  /-- The order of the fit of higher order. -/
  order : Nat
  /-- The greatest mean residual of an accepted fit, in pixels. -/
  maxResidual : α
  deriving BEq

/-- **Settings of the solver.** -/
structure Settings (α : Type) where
  /-- How stars are matched. -/
  method : FitMethod
  /-- The greatest mean residual of an accepted fit, in pixels. -/
  maxResidual : α
  /-- The greatest number of image stars to hunt with. -/
  maxImageStars : Nat
  /-- The greatest number of catalog stars to use. -/
  maxCatalogStars : Nat
  /-- Catalog stars of a smaller magnitude are left out. -/
  brightestMag : α
  /-- The least number of star pairs of a match. -/
  minPair : Nat
  /-- The greatest number of stars to pair. -/
  maxPair : Nat
  /-- A fit is tried once this many pairs are found. -/
  tryStars : Nat
  /-- The greatest rotation, in degrees. -/
  maxRotation : α
  /-- Distances that differ by less, in arcseconds, count as equal. -/
  matchDistance : α
  /-- Stars farther off, in arcseconds, are left out of the fit of higher order. -/
  rejectDistance : α
  /-- The order of the fit of higher order. -/
  order : Nat
  /-- The fraction of the image that one step of the search takes. -/
  huntFraction : α
  /-- The faintest magnitude asked of the primary catalog. -/
  primaryLimit : α
  /-- The faintest magnitude asked of the secondary catalog. -/
  secondaryLimit : α
  /-- Where the zone catalog is, if the settings say so. -/
  catalogRoot : Option String
  /-- Whether zone records that also belong to the secondary catalog are kept. -/
  keepSecondary : Bool
  deriving BEq

namespace Settings

/-- The settings when nothing is said. -/
def default : Settings Float where
  method := .distance
  maxResidual := 3.0
  maxImageStars := 50
  maxCatalogStars := 200
  brightestMag := 6.0
  minPair := 6
  maxPair := 300
  tryStars := 24
  maxRotation := 5.0
  matchDistance := 6.0
  rejectDistance := 3.0
  order := 2
  huntFraction := 0.33
  primaryLimit := 18.0
  secondaryLimit := 20.0
  catalogRoot := none
  keepSecondary := true

variable {α : Type}

/-- The parameters handed to every fit. -/
def matchParams (s : Settings α) : MatchParams α where
  minPair := s.minPair
  maxPair := s.maxPair
  tryStars := s.tryStars
  maxRotation := s.maxRotation
  matchDistance := s.matchDistance
  rejectDistance := s.rejectDistance
  order := s.order
  maxResidual := s.maxResidual

/-- How many of the brightest image stars are kept. -/
def imageStarLimit (s : Settings α) : Nat :=
  match s.method with
  | .triangle => 25
  | .distance => max s.maxPair s.maxImageStars

/-- The parameters of a linear fit: a center, a rotation and two scales. -/
def linearFitParams : Nat := 5

/-- How many parameters the last fit has. -/
def nailFitParams (s : Settings α) : Nat :=
  match s.method, s.order with
  | .triangle, _ => linearFitParams
  | .distance, 2 => 12
  | .distance, 3 => 20
  | .distance, _ => 26

end Settings

end PlateSolver
