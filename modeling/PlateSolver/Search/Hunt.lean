import PlateSolver.Search.Session
import PlateSolver.Search.Spiral

/-!
# The hunt

A search visits the candidates of its spiral one by one.  For each it merges the
catalog stars of the field, has the registrar try a fit with the brightest image
stars, and goes on until a fit is good enough.  That fit is then *nailed*: tried
once more at the position it found, with all image stars.  A nailed fit replaces
the hunted one; if nailing fails in any way, the hunted one stands.

* `Search` — who takes part, and the settings.
* `gather` — the catalog stars of a candidate, or why there are none.
* `attempt` — a fit at a candidate.
* `nail` — the refinement of an accepted fit.
* `visit`, `huntFrom`, `Search.run` — the candidates of one square, of all
  squares, and the whole search.

## Design decisions

The token is polled once per candidate and before anything else; what is already
under way is never interrupted, nor is nailing.  Whatever went wrong with the
secondary catalog, short of memory, is passed over; with the primary one it
depends on whether the failure would repeat itself elsewhere.
-/

namespace PlateSolver

open Scalar

/-- **Search.** Who takes part in a search, and its settings. -/
structure Search (σ α : Type) where
  /-- Those the search works with. -/
  team : Collaborators σ α
  /-- The settings of the solver. -/
  settings : Settings α
  /-- Whether the secondary catalog is asked, if there is one. -/
  wantSecondary : Bool
  /-- Whether notices about single candidates are given. -/
  verbose : Bool
  /-- Columns of the image. -/
  width : Nat
  /-- Rows of the image. -/
  height : Nat

/-- A fit that is good enough. -/
structure Fit (α : Type) where
  /-- The solution. -/
  solution : Solution α
  /-- Mean residual of the linear fit, in pixels. -/
  residual : α
  /-- Residual of the fit of higher order, in arcseconds. -/
  higherOrder : Option α

/-- **Outcome** of a search. -/
inductive Outcome (α : Type) where
  /-- A solution was found at the last of some candidates. -/
  | accepted (fit : Fit α) (candidates : Nat) (nailed : Bool)
  /-- All candidates within the radius were rejected. -/
  | exhausted (radius : α) (candidates : Nat)
  /-- The search stopped. -/
  | aborted (cause : AbortCause α) (candidates : Nat)

/-- Catalog stars as the registrar gets them: not too bright, sorted by magnitude,
and not too many. -/
def selectStars {α : Type} [Scalar α] (settings : Settings α) (entries : List (Entry α)) :
    List (Entry α) :=
  ((entries.filter fun e => settings.brightestMag ≤ e.mag).mergeSort
    fun a b => precedes a.mag b.mag).take settings.maxCatalogStars

/-- What a failure of the primary catalog means for a candidate. -/
def primarySetback {α : Type} (name : String) (error : CatalogError α) : Setback α :=
  if error.isOutOfMemory then .fatal .outOfMemory
  else if error.isSystemic then .fatal (.catalogUnavailable name error)
  else .rejected (.catalogFailed name error)

namespace Search

variable {σ α : Type}

/-- Gives a notice about a single candidate, if such notices are wanted. -/
def progress (s : Search σ α) (notice : Notice α) : SearchM σ α Unit :=
  if s.verbose then SearchM.note notice else pure ()

/-- The secondary catalog, if there is one and it is wanted. -/
def secondary? (s : Search σ α) : Option (Catalog σ α) :=
  if s.wantSecondary then s.team.secondary else none

/-- The entries of the secondary catalog, none if it is not asked or fails. -/
def gatherSecondary (s : Search σ α) (cone : Cone α) :
    SearchM σ α (Except (Setback α) (Accumulator α)) :=
  match s.secondary? with
  | none => return .ok .empty
  | some catalog => do
    let (answer, found) ← SearchM.fetch .secondary catalog cone s.settings.secondaryLimit .empty
    match answer with
    | .ok _ => return .ok found
    | .error e =>
      if e.isOutOfMemory then return .error (.fatal .outOfMemory)
      else
        s.progress (.secondaryFailed catalog.name e)
        return .ok found

/-- The catalog stars of a candidate's field, the secondary catalog's before the
primary's where they are equally bright. -/
def gather [Scalar α] (s : Search σ α) (candidate : Candidate α) :
    SearchM σ α (Except (Setback α) (List (Entry α))) := do
  let cone := Cone.ofField candidate.ra candidate.dec candidate.fieldOfView
  match ← s.gatherSecondary cone with
  | .error setback => return .error setback
  | .ok before =>
    let (answer, found) ←
      SearchM.fetch .primary s.team.primary cone s.settings.primaryLimit before
    match answer with
    | .error e => return .error (primarySetback s.team.primary.name e)
    | .ok _ =>
      if found.size < s.settings.minPair then
        return .error (.rejected (.tooFewStars s.settings.minPair found.size))
      else return .ok (selectStars s.settings found.toList)

/-- How many parameters are fitted in a stage. -/
def fitParams (s : Search σ α) : Pass → Nat
  | .hunt => Settings.linearFitParams
  | .nail => s.settings.nailFitParams

/-- What the registrar's answer means: a fit counts if its residual is within the limit. -/
def judge [Scalar α] (limit : α) : FitAnswer α → Except (Setback α) (Fit α)
  | .accepted solution residual higherOrder =>
    if residual ≤ limit then .ok ⟨solution, residual, higherOrder⟩
    else .error (.rejected (.imprecise residual limit))
  | .rejected => .error (.rejected .noMatch)
  | .fatal reason => .error (.fatal (.registrar reason))

/-- Tries a fit at a candidate. -/
def attempt [Scalar α] (s : Search σ α) (candidate : Candidate α)
    (stars : List (ImagePoint α)) (pass : Pass) : SearchM σ α (Except (Setback α) (Fit α)) := do
  match ← s.gather candidate with
  | .error setback => return .error setback
  | .ok catalogStars =>
    let answer ← SearchM.register s.team {
      pass := pass
      method := s.settings.method
      candidate := candidate
      width := s.width
      height := s.height
      imageStars := stars
      catalogStars := catalogStars
      params := s.settings.matchParams
      fitParams := s.fitParams pass }
    return judge s.settings.maxResidual answer

/-- The candidate at the position that a fit found. -/
def nailCandidate [Analytic α] (s : Search σ α) (fit : Fit α) : Candidate α where
  ra := fit.solution.ra
  dec := fit.solution.dec
  rotation := fit.solution.rotation
  scaleX := fit.solution.scaleX
  scaleY := fit.solution.scaleY
  fieldOfView := fit.solution.fieldOfView s.width s.height

/-- Refines an accepted fit with all image stars; if that fails, the fit stands. -/
def nail [Analytic α] (s : Search σ α) (fit : Fit α) (stars : List (ImagePoint α)) (tried : Nat) :
    SearchM σ α (Outcome α) := do
  match ← s.attempt (s.nailCandidate fit) stars .nail with
  | .ok better =>
    SearchM.note (.accepted better.residual tried true)
    return .accepted better tried true
  | .error setback =>
    SearchM.note (.nailFailed setback)
    SearchM.note (.accepted fit.residual tried false)
    return .accepted fit tried false

/-- The candidate at a position of the spiral. -/
def huntCandidate [Scalar α] (pointing : Pointing α) (center : α × α) : Candidate α where
  ra := center.1
  dec := center.2
  rotation := 0
  scaleX := pointing.scaleX
  scaleY := pointing.scaleY
  fieldOfView := pointing.fieldOfView

/-- Visits positions one by one, after `tried` others.  Without a result, all of
them were rejected. -/
def visit [Analytic α] (s : Search σ α) (pointing : Pointing α) (stars : List (ImagePoint α)) :
    (tried : Nat) → List (α × α) → SearchM σ α (Option (Outcome α))
  | _, [] => return none
  | tried, center :: rest => do
    if ← SearchM.poll s.team then
      return some (.aborted .cancelled tried)
    else
      s.progress (.trying center.1 center.2)
      let huntStars := stars.take s.settings.maxImageStars
      match ← s.attempt (huntCandidate pointing center) huntStars .hunt with
      | .ok fit => return some (← s.nail fit stars (tried + 1))
      | .error (.rejected reason) =>
        s.progress (.rejected reason)
        s.visit pointing stars (tried + 1) rest
      | .error (.fatal cause) =>
        SearchM.note (.aborted cause (tried + 1))
        return some (.aborted cause (tried + 1))

/-- Visits the square numbered `ring` and `more` squares outside it.  The outcome
without an acceptable fit names the radius of the search. -/
def huntFrom [Analytic α] (s : Search σ α) (pointing : Pointing α)
    (stars : List (ImagePoint α)) (plan : Plan α) (radius : α) (ring tried : Nat) :
    (more : Nat) → SearchM σ α (Outcome α)
  | 0 => do
    let centers := plan.ringCenters pointing.ra pointing.dec ring
    match ← s.visit pointing stars tried centers with
    | some outcome => return outcome
    | none => return .exhausted radius (tried + centers.length)
  | more + 1 => do
    let centers := plan.ringCenters pointing.ra pointing.dec ring
    match ← s.visit pointing stars tried centers with
    | some outcome => return outcome
    | none => s.huntFrom pointing stars plan radius (ring + 1) (tried + centers.length) more

/-- Searches outward from the nominal pointing until a fit is accepted, the spiral
reaches the radius, or the search is stopped.  Stars come the brightest first. -/
def run [Analytic α] (s : Search σ α) (pointing : Pointing α) (stars : List (ImagePoint α))
    (radius : α) : SearchM σ α (Outcome α) :=
  let plan := Plan.make pointing s.width s.height s.settings.huntFraction radius
  s.huntFrom pointing stars plan (larger radius 0) 0 0 plan.rings

end Search

end PlateSolver
