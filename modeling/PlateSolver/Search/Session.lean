import PlateSolver.Catalog.Accumulator
import PlateSolver.Catalog.Error
import PlateSolver.Detection.Finder
import PlateSolver.Search.Request

/-!
# Sessions: a search and those it works with

A search polls a cancellation token, asks catalogs, and calls a registrar; a
solve also uses a star detector.  None of them is part of the search, and each
may answer differently every time.  They are values here: programs over a world
`σ`, of which the search knows nothing and which carries whatever their answers
depend on.

A session is that world together with the record of everything that happened, in
order: every call with its answer, and every notice the search gave.  What a
search does to the outside is thereby a plain list.

Catalogs and detectors compute with words, and a call to one of them may break off
without an answer.  The search then breaks off with it.  Its record ends with
what came before that call.

* `Catalog`, `Collaborators`, `Detector` — those a search works with.
* `Rejection`, `AbortCause`, `Setback` — why a candidate, or the search, failed.
* `Notice`, `Event` — what is recorded.
* `Session`, `SearchM` — the record and the programs that extend it.
* `ask`; `poll`, `fetch`, `register`, `measure`, `note` — the single steps.
-/

namespace PlateSolver

/-- **A star catalog as a search sees it.** -/
structure Catalog (σ α : Type) where
  /-- The name used in notices. -/
  name : String
  /-- Appends the entries of a cone down to a magnitude and counts them, or breaks off. -/
  fetch : Cone α → α → Accumulator α →
    StateM σ (Option (Except (CatalogError α) Nat × Accumulator α))

/-- **Those a search works with.** -/
structure Collaborators (σ α : Type) where
  /-- Whether the search is to stop. -/
  cancelled : StateM σ Bool
  /-- The catalog that is required. -/
  primary : Catalog σ α
  /-- A deeper catalog, asked first, whose failures are tolerated. -/
  secondary : Option (Catalog σ α)
  /-- Matching and fitting. -/
  register : FitRequest α → StateM σ (FitAnswer α)

/-- **A star detector as a solve sees it.** -/
structure Detector (σ α : Type) where
  /-- The stars of a raster. -/
  findStars : Raster → StateM σ (List (DetectedStar α))
  /-- The measurements of the star at a column and a row, unless it breaks off. -/
  starStats : Raster → (x y : Nat) → StateM σ (Option (Except DetectionError (StarStats α)))

/-- Why one candidate was rejected. -/
inductive Rejection (α : Type) where
  /-- The residual of the fit is too large. -/
  | imprecise (found limit : α)
  /-- The registrar found no match. -/
  | noMatch
  /-- There are too few catalog stars. -/
  | tooFewStars (need found : Nat)
  /-- The primary catalog failed here. -/
  | catalogFailed (name : String) (error : CatalogError α)

/-- Why a search stopped before its end. -/
inductive AbortCause (α : Type) where
  /-- The token said so. -/
  | cancelled
  /-- Memory ran out. -/
  | outOfMemory
  /-- There is no primary catalog. -/
  | catalogUnavailable (name : String) (error : CatalogError α)
  /-- The registrar cannot go on. -/
  | registrar (reason : String)

/-- **Setback.** How trying a candidate failed: for it alone, or for all. -/
inductive Setback (α : Type) where
  /-- This candidate is out. -/
  | rejected (reason : Rejection α)
  /-- The search is over. -/
  | fatal (cause : AbortCause α)

/-- What a search tells its user. -/
inductive Notice (α : Type) where
  /-- A candidate is about to be tried. -/
  | trying (ra dec : α)
  /-- A candidate was rejected. -/
  | rejected (reason : Rejection α)
  /-- The secondary catalog failed and is done without. -/
  | secondaryFailed (name : String) (error : CatalogError α)
  /-- The last fit failed and the hunted one is kept. -/
  | nailFailed (setback : Setback α)
  /-- A solution was accepted. -/
  | accepted (residual : α) (candidates : Nat) (nailed : Bool)
  /-- The search stopped before its end. -/
  | aborted (cause : AbortCause α) (candidates : Nat)
  /-- The image stars are chosen and measured. -/
  | starsReady (count : Nat) (method : FitMethod)
  /-- A star could not be measured and keeps the position of its peak. -/
  | centroidFailed (x y : α) (error : DetectionError)

/-- Which of the two catalogs. -/
inductive Role where
  /-- The one that is required. -/
  | primary
  /-- The one whose failures are tolerated. -/
  | secondary
  deriving DecidableEq, Repr

/-- **Event.** One thing that happened. -/
inductive Event (α : Type) where
  /-- The token was polled. -/
  | polled (cancelled : Bool)
  /-- A catalog was asked, with an accumulator to append to. -/
  | fetched (role : Role) (cone : Cone α) (limit : α) (given : Accumulator α)
      (answer : Except (CatalogError α) Nat)
  /-- The registrar was called. -/
  | registered (request : FitRequest α) (answer : FitAnswer α)
  /-- The detector found stars. -/
  | found (stars : List (DetectedStar α))
  /-- The detector measured a star. -/
  | measured (x y : Nat) (answer : Except DetectionError (StarStats α))
  /-- The search gave a notice. -/
  | noted (notice : Notice α)

/-- **Session.** The world, and all that happened so far. -/
structure Session (σ α : Type) where
  /-- What the collaborators' answers depend on. -/
  world : σ
  /-- Everything that happened, in order. -/
  events : Array (Event α)

/-- Programs that extend a session, and may break off. -/
abbrev SearchM (σ α : Type) := OptionT (StateM (Session σ α))

namespace SearchM

variable {σ α β : Type}

/-- Asks a collaborator and records its answer, or breaks off with it. -/
def ask (question : StateM σ (Option β)) (event : β → Event α) : SearchM σ α β := fun session =>
  match question session.world with
  | (none, world) => (none, { session with world })
  | (some answer, world) => (some answer, ⟨world, session.events.push (event answer)⟩)

/-- Polls the cancellation token. -/
def poll (team : Collaborators σ α) : SearchM σ α Bool := ask (some <$> team.cancelled) .polled

/-- Asks a catalog. -/
def fetch (role : Role) (catalog : Catalog σ α) (cone : Cone α) (limit : α)
    (given : Accumulator α) : SearchM σ α (Except (CatalogError α) Nat × Accumulator α) :=
  ask (catalog.fetch cone limit given) fun answer => .fetched role cone limit given answer.1

/-- Calls the registrar. -/
def register (team : Collaborators σ α) (request : FitRequest α) : SearchM σ α (FitAnswer α) :=
  ask (some <$> team.register request) (.registered request)

/-- Has the detector find stars. -/
def findStars (detector : Detector σ α) (raster : Raster) : SearchM σ α (List (DetectedStar α)) :=
  ask (some <$> detector.findStars raster) .found

/-- Has the detector measure a star. -/
def measure (detector : Detector σ α) (raster : Raster) (x y : Nat) :
    SearchM σ α (Except DetectionError (StarStats α)) :=
  ask (detector.starStats raster x y) (.measured x y)

/-- Gives a notice. -/
def note (notice : Notice α) : SearchM σ α Unit := fun session =>
  (some (), { session with events := session.events.push (.noted notice) })

end SearchM

end PlateSolver
