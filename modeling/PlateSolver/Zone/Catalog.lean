import PlateSolver.Zone.Swath

/-!
# The zone catalog on disk

A zone catalog is a directory of index and data files.  It is connected by
finding one particular file in it; from then on every query looks whether the
directory is still there, cuts its cone into ranges and scans them one by one.

* `Connection.connect`, `Connection.ensurePresent`.
* `ZoneCatalog` — a catalog that may or may not be connected, and `ZoneCatalog.reconnect`.
* `ZoneCatalog.fetch` — a cone query; all of it or nothing is appended, unless it breaks off.
-/

namespace PlateSolver.Zone

/-- The file by which a zone catalog is recognised. -/
def probeName : String := "zone1275.acc"

/-- Connects to the catalog in a directory. -/
def Connection.connect (disk : Disk) (root : String) (keepSecondary : Bool) :
    Except ConnectionError Connection :=
  let probe := Disk.join root probeName
  match disk.lookup probe with
  | .ok _ => .ok ⟨root, keepSecondary⟩
  | .error e => .error (.notFound probe e)

/-- Whether the directory of a catalog is still there. -/
def Connection.ensurePresent (connection : Connection) (disk : Disk) :
    Except ConnectionError Unit :=
  match disk.lookup connection.root with
  | .ok _ => .ok ()
  | .error e => .error (.notFound connection.root e)

end PlateSolver.Zone

namespace PlateSolver

/-- **The zone catalog**, connected or not. -/
structure ZoneCatalog where
  /-- The connection, once there is one. -/
  connection : Option Zone.Connection
  deriving DecidableEq

namespace ZoneCatalog

open Zone

/-- The name used in reports. -/
def name : String := "USNO"

/-- A catalog that was never connected. -/
def unconnected : ZoneCatalog := ⟨none⟩

/-- The catalog connected to a directory, or why it cannot be. -/
def connect (disk : Disk) (root : String) (keepSecondary : Bool) :
    Except ConnectionError ZoneCatalog :=
  (Connection.connect disk root keepSecondary).map fun c => ⟨some c⟩

/-- Connects a catalog to a directory.  If that fails, it stays connected as it was. -/
def reconnect (catalog : ZoneCatalog) (disk : Disk) (root : String) (keepSecondary : Bool) :
    Except ConnectionError Unit × ZoneCatalog :=
  match connect disk root keepSecondary with
  | .ok connected => (.ok (), connected)
  | .error e => (.error e, catalog)

variable {α : Type} [Analytic α]

/-- Scans ranges one after the other, up to the first that fails. -/
def scanAll (disk : Disk) (grants : Grants) (connection : Connection) (limit : α) :
    List (Range α) → Accumulator α → Option (Except ScanError Unit × Accumulator α)
  | [], acc => some (.ok (), acc)
  | range :: rest, acc => do
    match ← swath disk grants connection range limit acc with
    | (.error e, filled) => return (.error e, filled)
    | (.ok _, filled) => scanAll disk grants connection limit rest filled

/-- What a query makes of its scans, given how many entries there were before: a
failure takes back what the scans have appended. -/
def conclude (before : Nat) :
    Except ScanError Unit × Accumulator α → Except (CatalogError α) Nat × Accumulator α
  | (.error e, filled) => (.error (.scan e), filled.truncate before)
  | (.ok _, filled) => (.ok (filled.size - before), filled)

/-- Appends every star of a cone that is no fainter than the limit, and counts
them.  A query that fails leaves the entries as they were. -/
def fetch (catalog : ZoneCatalog) (disk : Disk) (grants : Grants) (cone : Cone α) (limit : α)
    (acc : Accumulator α) : Option (Except (CatalogError α) Nat × Accumulator α) :=
  match catalog.connection with
  | none => some (.error (.connection .notConnected), acc)
  | some connection =>
    match connection.ensurePresent disk with
    | .error e => some (.error (.connection e), acc)
    | .ok _ =>
      match partition cone with
      | .error e => some (.error (.geometry e), acc)
      | .ok ranges => (scanAll disk grants connection limit ranges acc).map (conclude acc.size)

end ZoneCatalog

end PlateSolver
