import PlateSolver.Catalog.Entry
import PlateSolver.Image.Solution
import PlateSolver.Settings

/-!
# What the registrar is asked, and what it answers

Matching stars and fitting a solution is the work of an external registrar.  A
search hands it one request per candidate and acts on its answer.

* `Candidate` — a hypothesis of where the image points.
* `FitRequest` — everything the registrar gets to see.
* `FitAnswer` — what it says.
-/

namespace PlateSolver

/-- **Candidate.** A hypothesis of where the image points, angles in radians. -/
structure Candidate (α : Type) where
  /-- Right ascension. -/
  ra : α
  /-- Declination. -/
  dec : α
  /-- Rotation. -/
  rotation : α
  /-- Radians per pixel along a row. -/
  scaleX : α
  /-- Radians per pixel along a column. -/
  scaleY : α
  /-- Diagonal field of view. -/
  fieldOfView : α

/-- The place of a star on the image, in pixels. -/
structure ImagePoint (α : Type) where
  /-- Column. -/
  x : α
  /-- Row. -/
  y : α

/-- The two stages of a search. -/
inductive Pass where
  /-- Trying a candidate with the brightest stars. -/
  | hunt
  /-- Refining an accepted candidate with all stars. -/
  | nail
  deriving DecidableEq, Repr

/-- The name of a stage. -/
def Pass.name : Pass → String
  | .hunt => "Hunt"
  | .nail => "Nail"

/-- **Request for a fit.** -/
structure FitRequest (α : Type) where
  /-- The stage of the search. -/
  pass : Pass
  /-- How to match stars. -/
  method : FitMethod
  /-- The hypothesis to test. -/
  candidate : Candidate α
  /-- Columns of the image. -/
  width : Nat
  /-- Rows of the image. -/
  height : Nat
  /-- Image stars, the brightest first. -/
  imageStars : List (ImagePoint α)
  /-- Catalog stars, the brightest first. -/
  catalogStars : List (Entry α)
  /-- The tunables. -/
  params : MatchParams α
  /-- How many parameters to fit. -/
  fitParams : Nat

/-- **Answer of the registrar.** -/
inductive FitAnswer (α : Type) where
  /-- A match was found and fitted, with a mean residual in pixels and, if a fit
  of higher order was made, its residual in arcseconds. -/
  | accepted (solution : Solution α) (residual : α) (higherOrder : Option α)
  /-- There is no match at this candidate. -/
  | rejected
  /-- The registrar cannot go on at all. -/
  | fatal (reason : String)

end PlateSolver
