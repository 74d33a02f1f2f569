/-!
# The disk as a program sees it

Nothing in this library touches a file system.  What a computation needs to know
of one is which paths lead to a directory or to a file, and a file's bytes; that
knowledge is a `Disk`, a plain value.  Two calls that run at different times are
given two disks, so a disk that changes under a program is simply a sequence of
values.

* `OsError` — why a path or an operation on it failed, and the system's wording.
* `Node`, `Disk` — what a path leads to.
* `Disk.join` — a name inside a directory given by a path.
* `Node.bytes`, `Node.fault`, `Node.seek` — what reading from a position on meets.
* `Disk.readText` — the whole of a file.
-/

namespace PlateSolver

/-- **Why the system refused.** -/
inductive OsError where
  /-- Nothing is there. -/
  | notFound
  /-- A path goes through something that is no directory. -/
  | notDirectory
  /-- A directory was used as a file. -/
  | isDirectory
  /-- A path is too long, or a name in it. -/
  | nameTooLong
  /-- A position that no file can have. -/
  | invalidArgument
  /-- A position in something that can only be read from its beginning. -/
  | notSeekable
  /-- A file read as text holds other bytes. -/
  | notText
  /-- A path holds a character that no path can hold. -/
  | nulInPath
  /-- Any other failure, in the system's words. -/
  | other (words : String)
  deriving DecidableEq, Repr

/-- The system's wording of a failure. -/
def OsError.message : OsError → String
  | .notFound => "No such file or directory (os error 2)"
  | .notDirectory => "Not a directory (os error 20)"
  | .isDirectory => "Is a directory (os error 21)"
  | .nameTooLong => "File name too long (os error 36)"
  | .invalidArgument => "Invalid argument (os error 22)"
  | .notSeekable => "Illegal seek (os error 29)"
  | .notText => "stream did not contain valid UTF-8"
  | .nulInPath => "file name contained an unexpected NUL byte"
  | .other words => words

/-- What a path leads to. -/
inductive Node where
  /-- A directory. -/
  | directory
  /-- A file with these bytes. -/
  | file (bytes : ByteArray)
  /-- A file of which only the first bytes can be read, and why no others can. -/
  | damaged (bytes : ByteArray) (cause : OsError)
  /-- Bytes that can only be read from their beginning, as those of a pipe. -/
  | stream (bytes : ByteArray)

/-- **Disk.** What every path leads to at one moment. -/
structure Disk where
  /-- The node at a path. -/
  lookup : String → Except OsError Node

namespace Disk

/-- The path of a name inside a directory.  The empty path is the current
directory, and a path that already ends in a separator gets no second one. -/
def join (root name : String) : String :=
  if root.isEmpty || root.toList.getLast? == some '/' then root ++ name else root ++ "/" ++ name

/-- Positions beyond this one cannot be sought. -/
def seekLimit : Nat := Nat.pow 2 63

end Disk

namespace Node

/-- The bytes that can be read. -/
def bytes : Node → ByteArray
  | .directory => .empty
  | .file bytes | .damaged bytes _ | .stream bytes => bytes

/-- What the system says to whoever reads past them; nothing if that is their end. -/
def fault : Node → Option OsError
  | .directory => some .isDirectory
  | .damaged _ cause => some cause
  | .file _ | .stream _ => none

/-- Whether reading can start at a position. -/
def seek (node : Node) (position : Nat) : Except OsError Unit :=
  match node with
  | .stream _ => .error .notSeekable
  | _ => if Disk.seekLimit ≤ position then .error .invalidArgument else .ok ()

end Node

namespace Disk

/-- The whole of a file, as text. -/
def readText (disk : Disk) (path : String) : Except OsError String :=
  match disk.lookup path with
  | .error e => .error e
  | .ok node =>
    match node.fault, String.fromUTF8? node.bytes with
    | some cause, _ => .error cause
    | none, some text => .ok text
    | none, none => .error .notText

end Disk

end PlateSolver
