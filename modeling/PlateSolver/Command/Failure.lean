import PlateSolver.Catalog.Error
import PlateSolver.Settings.Document

/-!
# Why a command fails

A command says what went wrong and, under that, what it was caused by.

* `Failure` — what can go wrong.
* `Failure.message`, `Failure.causes` — its wording, and the causes behind it.
* `Failure.report` — all of it, as a command prints it.
-/

namespace PlateSolver.Command

/-- **Failure** of a command. -/
inductive Failure where
  /-- Settings could not be loaded. -/
  | settings (error : SettingsError)
  /-- Nothing says where the catalog is. -/
  | noCatalog
  /-- The catalog could not be connected. -/
  | connection (error : ConnectionError)
  /-- The text of a right ascension is no value. -/
  | badRa (text : String)
  /-- The text of a declination is no value. -/
  | badDec (text : String)
  /-- A right ascension, in hours, that no position has. -/
  | raOutside (hours : Float)
  /-- A declination, in degrees, that no position has. -/
  | decOutside (degrees : Float)
  /-- A cone of a negative radius. -/
  | negativeRadius
  /-- A cone too wide for the zone catalog. -/
  | tooWide (error : RadiusTooLarge Float)
  /-- A data file could not be scanned. -/
  | scan (file : String) (error : ScanError)
  /-- A file could not be written. -/
  | unsaved (path : String) (cause : OsError)

namespace Failure

/-- What went wrong, in words. -/
def message : Failure → String
  | .settings (.malformed path) =>
    let text := (SettingsError.malformed path).message
    s!"{text}: TOML parse error"
  | .settings error => error.message
  | .noCatalog => "No catalog directory: pass --catalog or set catalog_root"
  | .connection error => error.message
  | .badRa text => s!"Invalid RA '{text}'"
  | .badDec text => s!"Invalid Dec '{text}'"
  | .raOutside hours =>
    let got := Double.plain hours
    s!"RA must be in [0, 24) hours (got {got})"
  | .decOutside degrees =>
    let got := Double.plain degrees
    s!"Dec must be in [-90, 90] degrees (got {got})"
  | .negativeRadius => "Radius must not be negative"
  | .tooWide error => error.message
  | .scan file _ => s!"Failed to scan {file}"
  | .unsaved path _ => s!"Failed to write config to {path}"

/-- The system's refusal behind a failed scan, if there is one. -/
def scanCauses : ScanError → List String
  | .unopened _ cause | .unsought _ _ cause | .unread _ _ cause => [cause.message]
  | _ => []

/-- What a failure was caused by, in words, the nearest cause first. -/
def causes : Failure → List String
  | .settings (.unreadable _ cause) => [cause.message]
  | .connection (.notFound _ cause) => [cause.message]
  | .scan _ error => error.message :: scanCauses error
  | .unsaved _ cause => [cause.message]
  | _ => []

/-- Lines for causes, numbered if there is more than one. -/
def causeLines : List String → String
  | [] => ""
  | [cause] => s!"\nCaused by:\n    {cause}\n"
  | causes =>
    let lines := causes.mapIdx fun i cause => s!"    {i}: {cause}\n"
    "\nCaused by:\n" ++ String.join lines

/-- A failure with its causes. -/
def report (failure : Failure) : String :=
  let text := failure.message
  s!"Error: {text}\n" ++ causeLines failure.causes

end Failure

end PlateSolver.Command
