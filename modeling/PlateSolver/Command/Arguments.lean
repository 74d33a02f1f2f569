import PlateSolver.Command.OptionRule

/-!
# Commands and their arguments

* `Command` — what a user can ask for.
* `CatalogPlace`, `ConeText` — what several commands ask for.
* `Command.read` — the command that arguments are, or why they are none.

## Design decisions

Only the form of the arguments is checked here, the text of a position included:
what a position means is decided once its command runs, and an error in it is an
error of the command and not a misuse of the command line.
-/

namespace PlateSolver

/-- Where a catalog is looked for. -/
structure CatalogPlace where
  /-- The directory, if it is given. -/
  directory : Option String
  /-- The file of settings, if one is given. -/
  settingsPath : Option String
  deriving DecidableEq

/-- A cone as it is given. -/
structure ConeText where
  /-- Right ascension of the center, in hours. -/
  ra : String
  /-- Declination of the center, in degrees. -/
  dec : String
  /-- The radius in degrees. -/
  radius : Float

/-- **Command.** -/
inductive Command where
  /-- Is there a catalog? -/
  | check (place : CatalogPlace)
  /-- Which ranges of zones does a cone touch? -/
  | zones (cone : ConeText)
  /-- Which stars does a cone hold, up to a magnitude and to a number of them? -/
  | query (place : CatalogPlace) (cone : ConeText) (limit : Option Float) (top : Option Nat)
  /-- The settings when nothing is said, on the screen or in a file; or those in a file. -/
  | settings (output shown : Option String)

namespace Command

/-- The options that every command has. -/
def commonRules : List OptionRule :=
  [.plain "verbose" (some 'v') .choice, .plain "help" (some 'h') .help]

/-- The options before a command. -/
def outerRules : List OptionRule := .plain "version" (some 'V') .version :: commonRules

/-- The options that say where a catalog is. -/
def placeRules : List OptionRule :=
  [.plain "catalog" (some 'c') .path, .plain "config" none .path]

/-- The options that say where to look. -/
def coneRules : List OptionRule :=
  [⟨"ra", none, .text, true⟩, ⟨"dec", none, .text, true⟩, .plain "radius" none .number]

/-- The options that say what to list. -/
def listRules : List OptionRule :=
  [.plain "mag" none .number, .plain "top" none .count]

/-- The options for settings. -/
def settingsRules : List OptionRule :=
  [.plain "output" (some 'o') .path, .plain "show" none .path]

/-- The options of a command. -/
def rulesOf? (name : String) : Option (List OptionRule) :=
  if name == "check" then some (placeRules ++ commonRules)
  else if name == "zones" then some (coneRules ++ commonRules)
  else if name == "query" then some (placeRules ++ coneRules ++ listRules ++ commonRules)
  else if name == "config" then some (settingsRules ++ commonRules)
  else none

/-- Where the catalog is, as the options say. -/
def placeOf (given : Given) : CatalogPlace where
  directory := given.lookup "catalog"
  settingsPath := given.lookup "config"

/-- The radius of a cone, in degrees, when nothing is said. -/
def defaultRadius : Float := 0.5

/-- The cone that the options say, which need to name its center. -/
def coneOf? (given : Given) : Option ConeText := do
  let ra ← given.lookup "ra"
  let dec ← given.lookup "dec"
  return { ra, dec, radius := ((given.lookup "radius").bind number?).getD defaultRadius }

/-- The command of a name with its options. -/
def ofGiven? (name : String) (given : Given) : Option Command :=
  if name == "check" then some (.check (placeOf given))
  else if name == "zones" then (coneOf? given).map .zones
  else if name == "query" then
    (coneOf? given).map fun cone =>
      .query (placeOf given) cone ((given.lookup "mag").bind number?)
        ((given.lookup "top").bind count?)
  else if name == "config" then some (.settings (given.lookup "output") (given.lookup "show"))
  else none

/-- Why a request for help ends: with help, unless it is about an unknown command. -/
def helpOn : List String → Stop
  | [] => .help
  | [name] => if name == "help" || (rulesOf? name).isSome then .help else .misuse
  | _ => .misuse

/-- The command of a name with its arguments. -/
def readNamed (name : String) (arguments : List String) : Except Stop Command :=
  match rulesOf? name with
  | none => .error (if name == "help" then helpOn arguments else .misuse)
  | some rules =>
    (readOptions rules none [] arguments).bind fun (given, rest) =>
      if rest = [] ∨ rest = ["--"] then
        match ofGiven? name given with
        | some command => .ok command
        | none => .error .misuse
      else .error .misuse

/-- The command that arguments are. -/
def read (arguments : List String) : Except Stop Command :=
  (readOptions outerRules none [] arguments).bind fun (_, rest) =>
    match rest with
    | [] => .error .misuse
    | name :: more => readNamed name more

end Command

end PlateSolver
