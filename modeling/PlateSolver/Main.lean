import PlateSolver.Command.Run

/-!
# The program

Reads the arguments, provides what the command needs of the file system, prints
its report and ends with its exit code.  What a command means is settled in
`PlateSolver.Command`; nothing is decided here.
-/

namespace PlateSolver.Main

/-- A refusal of the system. -/
def osError : IO.Error → OsError
  | .noFileOrDirectory .. => .notFound
  | .noSuchThing .. => .notFound
  | .inappropriateType _ 20 _ => .notDirectory
  | .inappropriateType .. => .isDirectory
  | .invalidArgument _ 36 _ => .nameTooLong
  | .invalidArgument .. => .invalidArgument
  | e => .other (toString e)

/-- What a path leads to at this moment. -/
def lookup (path : String) : IO (Except OsError Node) := do
  try
    return .ok (.file (← IO.FS.readBinFile path))
  catch e =>
    match osError e with
    | .isDirectory => return .ok .directory
    | cause => return .error cause

/-- The disk that knows some paths. -/
def diskOf (known : List (String × Except OsError Node)) : Disk where
  lookup := fun path => (known.lookup path).getD (.error .notFound)

/-- What the disk has to say about the paths that a command looks at, found in
some rounds of asking for those that are not known yet. -/
def survey (command : Command) (known : List (String × Except OsError Node)) :
    (rounds : Nat) → IO (List (String × Except OsError Node))
  | 0 => return known
  | rounds + 1 => do
    let mut more := known
    for path in command.lookups (diskOf known) do
      if (more.lookup path).isNone then
        more := more ++ [(path, ← lookup path)]
    survey command more rounds

/-- Writes a file. -/
def save (path text : String) : IO (Except OsError Unit) := do
  try
    IO.FS.writeFile path text
    return .ok ()
  catch e => return .error (osError e)

/-- Prints a report; its exit code is the program's. -/
def finish (report : Command.Report) : IO UInt32 := do
  IO.print report.output
  IO.eprint report.complaint
  return UInt32.ofNat report.exit

/-- Carries out what a command comes to. -/
def perform : Command.Effect → IO UInt32
  | .report r => finish r
  | .save path text next => do finish (next (← save path text))

end PlateSolver.Main

open PlateSolver in
/-- The program. -/
def main (arguments : List String) : IO UInt32 := do
  match Command.read arguments with
  | .error stop => Main.finish stop.report
  | .ok command =>
    let known ← Main.survey command [] 3
    Main.perform (command.run (Main.diskOf known))
