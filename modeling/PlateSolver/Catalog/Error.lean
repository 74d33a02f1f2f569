import PlateSolver.Decimal.Shortest
import PlateSolver.Disk
import PlateSolver.Text.Quoted

/-!
# Why a catalog query fails

A query can fail because there is no catalog to ask, because its cone is too
wide, or because a zone file could not be scanned.  The three matter differently
to a search: only some of them would fail at every other position too.

* `ConnectionError`, `RadiusTooLarge`, `ScanError` — the causes.
* `CatalogError` — any of them, with `isOutOfMemory` and `isSystemic`.
* `message` of each — its wording.
-/

namespace PlateSolver

/-- No catalog to ask. -/
inductive ConnectionError where
  /-- The catalog is not where it was said to be. -/
  | notFound (path : String) (cause : OsError)
  /-- No catalog was connected yet. -/
  | notConnected
  deriving DecidableEq

/-- The wording of a failed connection. -/
def ConnectionError.message : ConnectionError → String
  | .notFound path cause => s!"{path}: {cause.message}"
  | .notConnected => "catalog fetch called before the catalog was connected"

/-- **A cone too wide for the zone catalog**, in degrees. -/
structure RadiusTooLarge (α : Type) where
  /-- The radius asked for. -/
  radius : α
  /-- The radius it has to stay below. -/
  limit : α

/-- The wording of a refused radius. -/
def RadiusTooLarge.message (e : RadiusTooLarge Float) : String :=
  let limit := Double.plain e.limit
  let radius := Double.fixed 3 e.radius
  s!"Radius must be less than {limit} degrees (got {radius})"

/-- A zone that could not be scanned.  Positions are counted in bytes. -/
inductive ScanError where
  /-- A file could not be opened. -/
  | unopened (file : String) (cause : OsError)
  /-- A position could not be sought. -/
  | unsought (file : String) (position : Nat) (cause : OsError)
  /-- Bytes could not be read. -/
  | unread (file : String) (position : Nat) (cause : OsError)
  /-- An index ends before the record it should hold. -/
  | unexpectedEnd (file : String) (position : Nat)
  /-- An index record makes no sense. -/
  | badIndexRecord (file : String) (record : List Char)
  /-- There is no room for another entry. -/
  | outOfMemory
  deriving DecidableEq

/-- The wording of a failure to make room. -/
def outOfMemoryMessage : String := "No more memory"

/-- The wording of a failed scan. -/
def ScanError.message : ScanError → String
  | .unopened file cause => s!"{file}: {cause.message}"
  | .unsought file position cause => s!"{file}: seek({position}): {cause.message}"
  | .unread file position cause => s!"{file}: read(@{position}): {cause.message}"
  | .unexpectedEnd file position => s!"{file}: unexpected EOF @ {position}"
  | .badIndexRecord file record =>
    let quoted := Text.quote record
    s!"{file}: malformed index record {quoted}"
  | .outOfMemory => outOfMemoryMessage

/-- **Any failure of a catalog query.** -/
inductive CatalogError (α : Type) where
  /-- There is no catalog to ask. -/
  | connection (cause : ConnectionError)
  /-- The cone is too wide. -/
  | geometry (cause : RadiusTooLarge α)
  /-- A zone could not be scanned. -/
  | scan (cause : ScanError)

namespace CatalogError

variable {α : Type}

/-- Whether memory ran out. -/
def isOutOfMemory : CatalogError α → Bool
  | .scan .outOfMemory => true
  | _ => false

/-- Whether asking at another position cannot help: there is no catalog, or no memory. -/
def isSystemic : CatalogError α → Bool
  | .connection _ => true
  | e => e.isOutOfMemory

/-- The wording of a failed query. -/
def message : CatalogError Float → String
  | .connection cause => cause.message
  | .geometry cause => cause.message
  | .scan cause => cause.message

end CatalogError

end PlateSolver
