import PlateSolver.Command.Arguments
import PlateSolver.Command.Failure
import PlateSolver.Command.Summary
import PlateSolver.Search.Hunt
import PlateSolver.Zone.Catalog

/-!
# Running a command

A command looks at the disk and ends in a report: what it prints, where, and with
which exit code.  One command also writes a file, and its report depends on
whether that succeeds.

* `ConeText.cone` — the cone that a user means.
* `scan`, `brightest`, `find` — the stars of a cone.
* `Report`, `Effect` — what becomes of a command.
* `run`, `runArguments` — a command, or the arguments of one, carried out on a disk.
* `lookups` — the paths a command looks at, for whoever provides the disk.
-/

namespace PlateSolver

/-- The cone that a user means.  Its right ascension is checked before its
declination, and that before its radius. -/
def ConeText.cone (c : ConeText) : Except Command.Failure (Cone Float) :=
  match (Sexagesimal.parse? c.ra : Option Float), (Sexagesimal.parse? c.dec : Option Float) with
  | none, _ => .error (.badRa c.ra)
  | _, none => .error (.badDec c.dec)
  | some hours, some degrees =>
    if !(0 ≤ hours && hours < 24) then .error (.raOutside hours)
    else if !(-90 ≤ degrees && degrees ≤ 90) then .error (.decOutside degrees)
    else if c.radius < 0 then .error .negativeRadius
    else .ok ⟨Angle.ofHours hours, Angle.ofDegrees degrees, Angle.ofDegrees c.radius⟩

namespace Command

open Zone

/-- The settings of a catalog command. -/
def settingsOf (disk : Disk) (place : CatalogPlace) : Except Failure (Settings Float) :=
  match place.settingsPath with
  | none => .ok .default
  | some path => (Settings.load disk path).mapError .settings

/-- The directory of the catalog: the one that is given, or else that of the settings. -/
def rootOf (place : CatalogPlace) (chosen : Settings Float) : Except Failure String :=
  match place.directory <|> chosen.catalogRoot with
  | some root => .ok root
  | none => .error .noCatalog

/-- The settings and the connection of a catalog command. -/
def connect (disk : Disk) (place : CatalogPlace) :
    Except Failure (Settings Float × Connection) := do
  let chosen ← settingsOf disk place
  let root ← rootOf place chosen
  let connection ← (Connection.connect disk root chosen.keepSecondary).mapError .connection
  return (chosen, connection)

variable {α : Type}

/-- Scans ranges one after the other; a range that fails is named by its data file. -/
def scan [Analytic α] (disk : Disk) (grants : Grants) (connection : Connection) (limit : α) :
    List (Range α) → Accumulator α → Option (Except (String × ScanError) (Accumulator α))
  | [], acc => some (.ok acc)
  | range :: rest, acc => do
    match ← swath disk grants connection range limit acc with
    | (.error e, _) => return .error (dataName range.zone, e)
    | (.ok _, filled) => scan disk grants connection limit rest filled

/-- The brightest of some entries, the brighter first and otherwise in their
order; or all of them as they are. -/
def brightest [Scalar α] (top : Option Nat) (entries : List (Entry α)) : List (Entry α) :=
  match top with
  | none => entries
  | some n => (entries.mergeSort fun a b => Scalar.precedes a.mag b.mag).take n

/-- The stars of a cone up to a magnitude, or the brightest of them. -/
def find (disk : Disk) (connection : Connection) (cone : Cone Float) (limit : Float)
    (top : Option Nat) : Option (Except Failure (List (Entry Float))) :=
  match partition cone with
  | .error e => some (.error (.tooWide e))
  | .ok ranges =>
    (scan disk .always connection limit ranges .empty).map fun
      | .error (file, e) => .error (.scan file e)
      | .ok found => .ok (brightest top found.toList)

/-- **Report.** What a command prints, where, and how it ends. -/
structure Report where
  /-- The exit code. -/
  exit : Nat
  /-- What is printed as the answer. -/
  output : String
  /-- What is printed as a complaint. -/
  complaint : String

/-- The report of a command that succeeds. -/
def Report.success (output : String) : Report := ⟨0, output, ""⟩

/-- The report of a command that fails. -/
def Report.failure (failure : Failure) : Report := ⟨1, "", failure.report⟩

/-- The report of a command that can fail. -/
def Report.ofResult : Except Failure String → Report
  | .ok output => .success output
  | .error failure => .failure failure

/-- The report of a command that breaks off. -/
def Report.brokenOff : Report := ⟨101, "", "attempt to multiply with overflow\n"⟩

/-- **Effect.** What becomes of a command. -/
inductive Effect where
  /-- It ends. -/
  | report (r : Report)
  /-- It writes a file and then ends, one way or the other. -/
  | save (path text : String) (next : Except OsError Unit → Report)

/-- Looks for a catalog. -/
def runCheck (disk : Disk) (place : CatalogPlace) : Except Failure String := do
  let (_, connection) ← connect disk place
  return Summary.connection connection.root connection.keepSecondary

/-- Cuts a cone into ranges. -/
def runZones (text : ConeText) : Except Failure String := do
  let cone ← text.cone
  let ranges ← (partition cone).mapError .tooWide
  return Summary.ranges cone ranges

/-- Lists the stars of a cone. -/
def runQuery (disk : Disk) (place : CatalogPlace) (text : ConeText) (limit : Option Float)
    (top : Option Nat) : Option (Except Failure String) :=
  match connect disk place, text.cone with
  | .error failure, _ | .ok _, .error failure => some (.error failure)
  | .ok (chosen, connection), .ok cone =>
    let limit := limit.getD chosen.primaryLimit
    (find disk connection cone limit top).map fun found =>
      found.map fun entries => Summary.entries entries limit

/-- Shows the settings in a file. -/
def runShow (disk : Disk) (path : String) : Except Failure String := do
  let loaded ← (Settings.load disk path).mapError .settings
  return Summary.settings loaded path

/-- The report on a file of settings that was to be written. -/
def savedReport (path : String) : Except OsError Unit → Report
  | .ok _ => .success s!"Default config saved to {path}\n"
  | .error cause => .failure (.unsaved path cause)

/-- Carries out a command on a disk. -/
def run (disk : Disk) : Command → Effect
  | .check place => .report (.ofResult (runCheck disk place))
  | .zones cone => .report (.ofResult (runZones cone))
  | .query place cone limit top =>
    .report ((runQuery disk place cone limit top).elim .brokenOff .ofResult)
  | .settings _ (some path) => .report (.ofResult (runShow disk path))
  | .settings (some path) none => .save path Settings.default.toDocument (savedReport path)
  | .settings none none => .report (.success Settings.default.toDocument)

/-- How to use the commands. -/
def usage : String :=
  "Star catalog queries for plate solving\n\n" ++
  "Usage: wcsfit [OPTIONS] <COMMAND>\n\n" ++
  "Commands:\n" ++
  "  check   Check that a directory holds the zone catalog\n" ++
  "  zones   Show the zone ranges a cone query would scan\n" ++
  "  query   List catalog stars inside a cone\n" ++
  "  config  Print or save the default solver config\n" ++
  "  help    Print this message\n\n" ++
  "Options:\n" ++
  "  -v, --verbose  Enable verbose output\n" ++
  "  -h, --help     Print help\n" ++
  "  -V, --version  Print version\n"

/-- The report on arguments that ask for no command. -/
def Stop.report : Stop → Report
  | .misuse => ⟨2, "", "error: invalid arguments\n\nFor more information, try '--help'.\n"⟩
  | .help => .success usage
  | .version => .success "wcsfit 0.1.0\n"

/-- Carries out arguments on a disk. -/
def runArguments (disk : Disk) (arguments : List String) : Effect :=
  match read arguments with
  | .error stop => .report stop.report
  | .ok command => command.run disk

/-- The paths that a catalog command looks at to find its catalog. -/
def placeLookups (disk : Disk) (place : CatalogPlace) : List String :=
  match (settingsOf disk place).bind (rootOf place) with
  | .ok root => [root, Disk.join root probeName]
  | .error _ => []

/-- The paths of the files that hold the ranges of a cone. -/
def coneLookups (disk : Disk) (place : CatalogPlace) (text : ConeText) : List String :=
  match connect disk place, text.cone with
  | .ok (_, connection), .ok cone =>
    match partition cone with
    | .ok ranges =>
      ranges.flatMap fun r => [connection.indexPath r.zone, connection.dataPath r.zone]
    | .error _ => []
  | _, _ => []

/-- The paths that a command looks at, as far as a disk that knows some of them can
tell.  With the paths of three rounds a disk knows all that the command needs. -/
def lookups (disk : Disk) : Command → List String
  | .check place => place.settingsPath.toList ++ placeLookups disk place
  | .zones _ => []
  | .query place cone _ _ =>
    place.settingsPath.toList ++ placeLookups disk place ++ coneLookups disk place cone
  | .settings _ shown => shown.toList

end Command

end PlateSolver
