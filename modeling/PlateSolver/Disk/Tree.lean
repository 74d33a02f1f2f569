import PlateSolver.Disk
import PlateSolver.Text.Blank

/-!
# A disk held in memory

`Tree` is a directory tree as a value.  Relative paths start at its root, which
plays the part of the current directory; outside it there are only directories with
nothing in them.  The tree gives a `Disk` to read from, and can be changed: files are
put in with the directories they need, removed, or saved the way a program saves
them, which fails where a system would.

* `Tree.find` — the node at a path, with the failures a walk along it can meet.
* `Tree.disk` — the tree as a disk.
* `Tree.put`, `Tree.remove` — changes that always succeed.
* `Tree.save` — writing a file, which needs its directory to exist.
-/

namespace PlateSolver

/-- **Tree.** A file, or a directory with named entries. -/
inductive Tree where
  /-- A file with its bytes. -/
  | file (bytes : ByteArray)
  /-- A directory. -/
  | directory (entries : List (String × Tree))

namespace Tree

/-- The parts of a path between separators; an empty part is no name. -/
def components (path : String) : List String :=
  (Text.split (· == '/') path.toList).map String.ofList

/-- The names a path goes through, `..` taking back the one before it. -/
def names (path : String) : List String :=
  ((components path).foldl (fun back part =>
    if part == "" || part == "." then back
    else if part == ".." then back.drop 1
    else part :: back) []).reverse

/-- A directory outside the tree. -/
def outside : Tree := .directory []

/-- Names have at most this many bytes. -/
def nameLimit : Nat := 255

/-- Paths have fewer bytes than this. -/
def pathLimit : Nat := 4096

/-- The entry of that name, given the entries of a directory. -/
def entry (entries : List (String × Tree)) (name : String) : Except OsError Tree :=
  if nameLimit < name.utf8ByteSize then .error .nameTooLong
  else match entries.lookup name with
    | none => .error .notFound
    | some next => .ok next

/-- A walk along the parts of a path: `above` are the directories passed on the
way.  An empty part and `.` stay in place but ask for a directory. -/
def walk (above : List Tree) (here : Tree) : List String → Except OsError Tree
  | [] => .ok here
  | part :: rest =>
    match here with
    | .file _ => .error .notDirectory
    | .directory entries =>
      if part == "" || part == "." then walk above here rest
      else if part == ".." then
        match above with
        | [] => walk [] outside rest
        | up :: further => walk further up rest
      else (entry entries part).bind fun next => walk (here :: above) next rest

/-- Whether a path starts at the root of the system, which is outside the tree. -/
def isAbsolute (path : String) : Bool := path.toList.head? == some '/'

/-- The parts of a path, unless no path can look like that. -/
def parts? (path : String) : Except OsError (List String) :=
  if path.toList.contains '\x00' then .error .nulInPath
  else if path.isEmpty then .error .notFound
  else if pathLimit ≤ path.utf8ByteSize then .error .nameTooLong
  else .ok (components path)

/-- The tree at a path. -/
def find (root : Tree) (path : String) : Except OsError Tree :=
  (parts? path).bind (walk [] (if isAbsolute path then outside else root))

/-- What a disk tells about a tree. -/
def node : Tree → Node
  | .file bytes => .file bytes
  | .directory _ => .directory

/-- A tree as a disk. -/
def disk (root : Tree) : Disk := ⟨fun path => (root.find path).map node⟩

/-- Entries with one of them set. -/
def setEntry (entries : List (String × Tree)) (name : String) (value : Tree) :
    List (String × Tree) :=
  entries.filter (fun entry => entry.1 != name) ++ [(name, value)]

/-- The entries of a directory; a file has none. -/
def entries : Tree → List (String × Tree)
  | .file _ => []
  | .directory es => es

/-- A tree with another one put at a path, directories being made as needed. -/
def putAt (value : Tree) : List String → Tree → Tree
  | [], _ => value
  | name :: rest, here =>
    let below := (here.entries.lookup name).getD (.directory [])
    .directory (setEntry here.entries name (putAt value rest below))

/-- A tree without the node at a path. -/
def removeAt : List String → Tree → Tree
  | [], here => here
  | [name], here => .directory (here.entries.filter fun entry => entry.1 != name)
  | name :: rest, here =>
    match here.entries.lookup name with
    | none => here
    | some below => .directory (setEntry here.entries name (removeAt rest below))

/-- A tree with another one put at a path. -/
def put (root : Tree) (path : String) (value : Tree) : Tree := putAt value (names path) root

/-- A tree without the node at a path. -/
def remove (root : Tree) (path : String) : Tree := removeAt (names path) root

/-- Whether a part of a path is a name, not a step in place or upward. -/
def isName (part : String) : Bool := part != "" && part != "." && part != ".."

/-- Whether a file of that name can be written into the tree a walk has come to;
`closed` if a separator follows the name. -/
def accepts (name : String) (closed : Bool) : Tree → Except OsError Unit
  | .file _ => .error .notDirectory
  | .directory entries =>
    if closed then .error .isDirectory
    else match entry entries name with
      | .ok (.directory _) => .error .isDirectory
      | .ok (.file _) | .error .notFound => .ok ()
      | .error e => .error e

/-- Whether a file can be written at a path: its directory has to exist, and no
directory may be in its place.  Nothing can be written outside the tree. -/
def writable (root : Tree) (path : String) : Except OsError Unit := do
  let parts ← parts? path
  let start := if isAbsolute path then outside else root
  let body := (parts.reverse.dropWhile (· == "")).reverse
  let name := body.getLastD ""
  if isName name then
    let directory ← walk [] start body.dropLast
    accepts name (body.length < parts.length) directory
    if isAbsolute path then throw .notFound
  else
    let _ ← walk [] start body
    throw .isDirectory

/-- A tree after a file was written at a path. -/
def save (root : Tree) (path : String) (bytes : ByteArray) : Except OsError Tree :=
  (root.writable path).map fun _ => root.put path (.file bytes)

end Tree

end PlateSolver
