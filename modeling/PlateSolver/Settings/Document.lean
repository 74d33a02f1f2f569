import PlateSolver.Detection.Finder
import PlateSolver.Disk
import PlateSolver.Settings
import PlateSolver.Toml.Slot

/-!
# Settings as documents

Settings are kept in TOML files, which a user writes by hand or starts from the
ones that are written here.  A file need not name more than what it changes.

* `Settings.slots`, `MatchParams.slots`, `DetectionSettings.slots` — the keys,
  in the order in which they are written.
* `toDocument`, `ofDocument?` of each — writing and reading.
* `Settings.load` — reading a file.
-/

namespace PlateSolver

open Toml

/-- The greatest order of a fit. -/
def orderLimit : Nat := Nat.pow 2 32 - 1

namespace FitMethod

/-- The method of a name. -/
def ofName? (name : String) : Option FitMethod :=
  if name == triangle.name then some triangle
  else if name == distance.name then some distance
  else none

/-- The method that a value is: its name, or a table whose only key is its name
and holds nothing. -/
def ofValue? : Value → Option FitMethod
  | .text name => ofName? name
  | .table _ [(name, .table _ [])] => ofName? name
  | .table _ [(name, .list [])] => ofName? name
  | _ => none

/-- The slot of a method. -/
def slot {ρ α : Type} (key : String) (get : ρ → FitMethod) (set : FitMethod → ρ → ρ) :
    Slot ρ α where
  key := key
  show? := fun r => some (.text (get r).name)
  set? := fun value r => (ofValue? value).map fun m => set m r

end FitMethod

variable {α : Type} [Readable α]

namespace Settings

/-- The keys of the settings. -/
def slots : List (Slot (Settings α) α) :=
  [ FitMethod.slot "method" method fun v s => { s with method := v },
    .number "max_residual" maxResidual fun v s => { s with maxResidual := v },
    .count "max_image_stars" wholeLimit maxImageStars fun v s => { s with maxImageStars := v },
    .count "max_catalog_stars" wholeLimit maxCatalogStars fun v s =>
      { s with maxCatalogStars := v },
    .number "brightest_catalog_mag" brightestMag fun v s => { s with brightestMag := v },
    .count "min_pair" wholeLimit minPair fun v s => { s with minPair := v },
    .count "max_pair" wholeLimit maxPair fun v s => { s with maxPair := v },
    .count "try_stars" wholeLimit tryStars fun v s => { s with tryStars := v },
    .number "max_rotation_deg" maxRotation fun v s => { s with maxRotation := v },
    .number "match_dist_arcsec" matchDistance fun v s => { s with matchDistance := v },
    .number "reject_dist_arcsec" rejectDistance fun v s => { s with rejectDistance := v },
    .count "order" orderLimit order fun v s => { s with order := v },
    .number "hunt_fraction" huntFraction fun v s => { s with huntFraction := v },
    .number "primary_mag_limit" primaryLimit fun v s => { s with primaryLimit := v },
    .number "secondary_mag_limit" secondaryLimit fun v s => { s with secondaryLimit := v },
    .maybeText "catalog_root" catalogRoot fun v s => { s with catalogRoot := v },
    .flag "include_secondary_records" keepSecondary fun v s => { s with keepSecondary := v } ]

/-- Settings as a document. -/
def toDocument [Writable α] (s : Settings α) : String := writeRecord slots s

/-- Settings read from a document; what it does not name is as in `base`. -/
def ofDocument? (base : Settings α) (text : String) : Option (Settings α) :=
  update? slots base text

end Settings

namespace MatchParams

/-- The keys of the parameters of a fit. -/
def slots : List (Slot (MatchParams α) α) :=
  [ .count "min_pair" wholeLimit minPair fun v p => { p with minPair := v },
    .count "max_pair" wholeLimit maxPair fun v p => { p with maxPair := v },
    .count "try_stars" wholeLimit tryStars fun v p => { p with tryStars := v },
    .number "max_rotation_deg" maxRotation fun v p => { p with maxRotation := v },
    .number "match_dist_arcsec" matchDistance fun v p => { p with matchDistance := v },
    .number "reject_dist_arcsec" rejectDistance fun v p => { p with rejectDistance := v },
    .count "order" orderLimit order fun v p => { p with order := v },
    .number "max_residual" maxResidual fun v p => { p with maxResidual := v } ]

/-- Parameters as a document. -/
def toDocument [Writable α] (p : MatchParams α) : String := writeRecord slots p

/-- Parameters read from a document that names all of them; `base` only serves as a start. -/
def ofDocument? (base : MatchParams α) (text : String) : Option (MatchParams α) :=
  replace? slots base text

end MatchParams

namespace DetectionSettings

/-- The keys of the detection settings. -/
def slots : List (Slot (DetectionSettings α) α) :=
  [ .number "sigma_multiplier" sigma fun v d => { d with sigma := v },
    .count "min_area" wholeLimit minArea fun v d => { d with minArea := v },
    .count "border" wholeLimit border fun v d => { d with border := v },
    .count "centroid_radius" wholeLimit centroidRadius fun v d => { d with centroidRadius := v } ]

/-- Detection settings as a document. -/
def toDocument [Writable α] (d : DetectionSettings α) : String := writeRecord slots d

/-- Detection settings read from a document; what it does not name is as in `base`. -/
def ofDocument? (base : DetectionSettings α) (text : String) : Option (DetectionSettings α) :=
  update? slots base text

end DetectionSettings

/-- Why settings could not be loaded from a file. -/
inductive SettingsError where
  /-- The file could not be read. -/
  | unreadable (path : String) (cause : OsError)
  /-- The file is no document of settings. -/
  | malformed (path : String)
  deriving DecidableEq

/-- The wording of settings that could not be loaded. -/
def SettingsError.message : SettingsError → String
  | .unreadable path cause => s!"Failed to read config {path}: {cause.message}"
  | .malformed path => s!"Invalid solver config {path}"

/-- The settings in a file. -/
def Settings.load (disk : Disk) (path : String) : Except SettingsError (Settings Float) :=
  match disk.readText path with
  | .error cause => .error (.unreadable path cause)
  | .ok text =>
    match Settings.ofDocument? Settings.default text with
    | none => .error (.malformed path)
    | some settings => .ok settings

end PlateSolver
