import PlateSolver.Angle.Sexagesimal
import PlateSolver.Search.Session

/-!
# The wording of notices

A notice is shown as a level, a message, and fields with the numbers behind it.

* `Rejection.message`, `AbortCause.message`.
* `Level`, `Detail` — the parts of a shown notice.
* `Notice.level`, `Notice.message`, `Notice.details`.
-/

namespace PlateSolver

/-- Why a candidate was rejected, in words. -/
def Rejection.message : Rejection Float → String
  | .imprecise found limit =>
    let got := Double.fixed 1 found
    let most := Double.fixed 1 limit
    s!"Fit residual {got} exceeds {most} pixels"
  | .noMatch => "Star registration failed"
  | .tooFewStars need found => s!"Need at least {need} catalog stars but only found {found}"
  | .catalogFailed name error => s!"Error getting {name} stars: {error.message}"

/-- Why a search stopped, in words. -/
def AbortCause.message : AbortCause Float → String
  | .cancelled => "User stopped"
  | .outOfMemory => outOfMemoryMessage
  | .catalogUnavailable name error => s!"Catalog unavailable: {name}: {error.message}"
  | .registrar reason => s!"Registration failed fatally: {reason}"

/-- How important a notice is. -/
inductive Level where
  /-- For information. -/
  | info
  /-- Something went wrong. -/
  | warn
  deriving DecidableEq, Repr

/-- The name of a level. -/
def Level.name : Level → String
  | .info => "INFO"
  | .warn => "WARN"

/-- The value of a field of a notice. -/
inductive Detail where
  /-- A real number. -/
  | real (value : Float)
  /-- A count. -/
  | count (value : Nat)
  /-- A yes or no. -/
  | flag (value : Bool)
  /-- A text. -/
  | text (value : String)

namespace Notice

/-- How important a notice is. -/
def level : Notice Float → Level
  | .nailFailed _ | .aborted .. | .centroidFailed .. => .warn
  | _ => .info

/-- The message of a notice. -/
def message : Notice Float → String
  | .trying ra dec =>
    let raText := Sexagesimal.format (Angle.toHours ra) 1
    let decText := Sexagesimal.format (Angle.toDegrees dec) 0
    s!"Trying RA={raText} Dec={decText}"
  | .rejected reason => reason.message
  | .secondaryFailed name error => s!"{name}: {error.message}"
  | .nailFailed _ => "Nail pass failed, keeping hunt solution"
  | .accepted .. => "Registration accepted"
  | .aborted .. => "Search aborted"
  | .starsReady .. => "Image stars ready"
  | .centroidFailed .. => "Centroid failed"

/-- The fields of a notice. -/
def details : Notice Float → List (String × Detail)
  | .trying .. | .rejected _ | .secondaryFailed .. => []
  | .nailFailed (.rejected reason) => [("reason", .text reason.message)]
  | .nailFailed (.fatal cause) => [("cause", .text cause.message)]
  | .accepted residual candidates nailed =>
    [("residual", .real residual), ("candidates", .count candidates), ("nailed", .flag nailed)]
  | .aborted cause candidates => [("cause", .text cause.message), ("candidates", .count candidates)]
  | .starsReady count method => [("detected", .count count), ("method", .text method.name)]
  | .centroidFailed x y error => [("x", .real x), ("y", .real y), ("error", .text error.message)]

end Notice

end PlateSolver
