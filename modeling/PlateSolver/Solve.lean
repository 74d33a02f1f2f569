import PlateSolver.Search.Hunt
import PlateSolver.Search.Notice

/-!
# Solving an image

A solve finds the stars of an image, searches the sky for a solution that they
fit, and writes it into the image's header.  It changes nothing else, and without
a solution it changes nothing.

* `Plate` — an image with its header.
* `SolveOptions`, `Solver` — what a solve is given.
* `SolveError`, `Summary` — what comes out of it.
* `chooseStars`, `measureStars` — the image stars handed to the search.
* `Solver.solve` — the whole.
-/

namespace PlateSolver

open Scalar

/-- **Plate.** An image with its header. -/
structure Plate (α : Type) where
  /-- The pixels. -/
  raster : Raster
  /-- The cards. -/
  header : Header α

/-- What a solve is asked for. -/
structure SolveOptions (α : Type) where
  /-- Whether the secondary catalog is asked, if there is one. -/
  wantSecondary : Bool := true
  /-- How far from the nominal position to search, in radians; at zero only the
  nominal position is tried. -/
  radius : α
  /-- Whether notices about single candidates are given. -/
  verbose : Bool := false

/-- **Solver.** Those a solve works with, and its settings. -/
structure Solver (σ α : Type) where
  /-- The settings. -/
  settings : Settings α
  /-- Those the search works with. -/
  team : Collaborators σ α
  /-- The star detector. -/
  detector : Detector σ α

/-- **Why an image could not be solved.** -/
inductive SolveError (α : Type) where
  /-- There are too few image stars. -/
  | tooFewStars (need found : Nat)
  /-- The header does not say where the image points. -/
  | pointing (cause : PointingError)
  /-- No candidate within a radius, in degrees, was accepted. -/
  | exhausted (radius : α) (candidates : Nat)
  /-- The search stopped. -/
  | aborted (cause : AbortCause α) (candidates : Nat)

/-- The wording of a failed solve. -/
def SolveError.message : SolveError Float → String
  | .tooFewStars need found => s!"Need at least {need} image stars but only found {found}"
  | .pointing cause => cause.message
  | .exhausted radius _ =>
    let degrees := Double.fixed 2 radius
    s!"No solutions in {degrees} degree search"
  | .aborted cause _ => cause.message

/-- **Summary** of a solve. -/
structure Summary (α : Type) where
  /-- The accepted fit. -/
  fit : Fit α
  /-- How many candidates were tried. -/
  candidates : Nat
  /-- How many image stars the search was given. -/
  imageStars : Nat
  /-- Whether the fit was nailed. -/
  nailed : Bool

/-- A line that says how good the solution is. -/
def Summary.message (s : Summary Float) : String :=
  let residual := Double.fixed 1 s.fit.residual
  s!"Fit residual: {residual} pixels"

variable {σ α : Type}

/-- The brightest stars, the brightest first, as many as the settings allow. -/
def chooseStars [Scalar α] (settings : Settings α) (found : List (DetectedStar α)) :
    List (DetectedStar α) :=
  (found.mergeSort fun a b => b.brightness.precedes a.brightness).take settings.imageStarLimit

/-- The pixel that holds a position on one axis. -/
def nearestPixel [Scalar α] (position : α) : Nat := whole (position + 1 / 2)

/-- The place of a star: its centroid, or its peak if it cannot be measured. -/
def placeStar [Scalar α] (detector : Detector σ α) (raster : Raster) (star : DetectedStar α) :
    SearchM σ α (ImagePoint α) := do
  match ← SearchM.measure detector raster (nearestPixel star.x) (nearestPixel star.y) with
  | .ok stats => return ⟨stats.x, stats.y⟩
  | .error e =>
    SearchM.note (.centroidFailed star.x star.y e)
    return ⟨star.x, star.y⟩

/-- The places of stars, one by one. -/
def measureStars [Scalar α] (detector : Detector σ α) (raster : Raster) :
    List (DetectedStar α) → SearchM σ α (List (ImagePoint α))
  | [] => return []
  | star :: rest => do
    let point ← placeStar detector raster star
    return point :: (← measureStars detector raster rest)

namespace Solver

variable [Analytic α] [Readable α]

/-- The search that a solve makes. -/
def search (solver : Solver σ α) (options : SolveOptions α) (raster : Raster) : Search σ α where
  team := solver.team
  settings := solver.settings
  wantSecondary := options.wantSecondary
  verbose := options.verbose
  width := raster.width
  height := raster.height

/-- Searches for a solution that some image stars fit. -/
def searchFor (solver : Solver σ α) (options : SolveOptions α) (plate : Plate α)
    (stars : List (ImagePoint α)) :
    SearchM σ α (Except (SolveError α) (Summary α)) := do
  match Pointing.ofHeader plate.header plate.raster.width plate.raster.height with
  | .error e => return .error (.pointing e)
  | .ok pointing =>
    match ← (solver.search options plate.raster).run pointing stars options.radius with
    | .accepted fit candidates nailed => return .ok ⟨fit, candidates, stars.length, nailed⟩
    | .exhausted radius candidates => return .error (.exhausted (Angle.toDegrees radius) candidates)
    | .aborted cause candidates => return .error (.aborted cause candidates)

/-- Finds a solution, if there is one. -/
def findSolution (solver : Solver σ α) (options : SolveOptions α) (plate : Plate α) :
    SearchM σ α (Except (SolveError α) (Summary α)) := do
  let found ← SearchM.findStars solver.detector plate.raster
  if found.length < solver.settings.minPair then
    return .error (.tooFewStars solver.settings.minPair found.length)
  else
    let stars ← measureStars solver.detector plate.raster (chooseStars solver.settings found)
    SearchM.note (.starsReady stars.length solver.settings.method)
    solver.searchFor options plate stars

/-- Solves an image: a solution is written into its header, and without one the
image stays as it was. -/
def solve (solver : Solver σ α) (options : SolveOptions α) (plate : Plate α) :
    SearchM σ α (Except (SolveError α) (Summary α) × Plate α) := do
  match ← solver.findSolution options plate with
  | .ok summary =>
    return (.ok summary, { plate with header := summary.fit.solution.write plate.header })
  | .error e => return (.error e, plate)

end Solver

end PlateSolver
