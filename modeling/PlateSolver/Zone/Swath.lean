import PlateSolver.Arithmetic.Word
import PlateSolver.Catalog.Accumulator
import PlateSolver.Catalog.Error
import PlateSolver.Text.Utf8
import PlateSolver.Zone.Index
import PlateSolver.Zone.Range
import PlateSolver.Zone.Record

/-!
# Scanning a range of a zone

The records of a zone are sorted by right ascension.  The index says where the
bin that holds the lower edge of a range begins; from there the data file is read
record by record until one lies past the upper edge.

* `Connection` — where a zone catalog is, and which of its records count.
* `indexPosition?`, `startRecord` — where the index is read, and what it says about a range.
* `sweep` — the records from one position on, filtered into an accumulator.
* `swath` — a whole scan.

## Design decisions

A scan appends as it reads, and when it fails it returns what it has appended so
far: taking it back is up to the query that asked for it, which may have other
ranges to take back as well.

The two positions that a scan works out are words.  The one in the data is checked,
and an index that leads too far is an error like any other; the one in the index is
not, and a range that begins too far east breaks the scan off.
-/

namespace PlateSolver.Zone

open Scalar

/-- **Connection.** Where a zone catalog is, and which of its records count. -/
structure Connection where
  /-- The path of its directory. -/
  root : String
  /-- Whether records that also belong to the secondary catalog are kept. -/
  keepSecondary : Bool
  deriving DecidableEq

namespace Connection

/-- The path of a zone's index. -/
def indexPath (connection : Connection) (zone : Nat) : String :=
  Disk.join connection.root (indexName zone)

/-- The path of a zone's data. -/
def dataPath (connection : Connection) (zone : Nat) : String :=
  Disk.join connection.root (dataName zone)

end Connection

variable {α : Type}

/-- The index bin that holds the lower edge of a range; its width is 3.75 degrees. -/
def indexBin [Scalar α] (range : Range α) : Nat :=
  min (whole (range.raMin / (15 / 4))) (Word.limit - 1)

/-- Where in the index the record of a range begins, if a word can say so. -/
def indexPosition? [Scalar α] (range : Range α) : Option Nat :=
  Word.ofNat? (Index.recordSize * indexBin range)

/-- The number of a data record, as the index record at a position says. -/
def recordNumber (file : String) (node : Node) (position : Nat) : Except ScanError Nat :=
  match node.seek position with
  | .error e => .error (.unsought file position e)
  | .ok _ =>
    if node.bytes.size < position + Index.recordSize then
      match node.fault with
      | none => .error (.unexpectedEnd file position)
      | some cause => .error (.unread file position cause)
    else
      let record := node.bytes.extract position (position + Index.recordSize)
      match Index.parse? record with
      | some n => .ok n
      | none => .error (.badIndexRecord file (Text.trim (Text.lossy record)))

/-- The number of the data record at which to start a range, as its index says.  It
breaks off when no word can say where that stands in the index. -/
def startRecord [Scalar α] (disk : Disk) (connection : Connection) (range : Range α) :
    Option (Except ScanError Nat) :=
  let file := indexName range.zone
  match disk.lookup (connection.indexPath range.zone) with
  | .error e => some (.error (.unopened file e))
  | .ok node => (indexPosition? range).map (recordNumber file node)

/-- The name of the entry at a position of an accumulator. -/
def positionName (position : Nat) : String :=
  "SA1.0 " ++ String.ofList (Decimal.zeroFilled 6 (Decimal.digits position))

/-- The magnitude of a star that a range, given in radians, lets through. -/
def admit? [Scalar α] (window : Range α) (keepSecondary : Bool) (limit : α) (star : Star α) :
    Option α :=
  (star.light.accepted keepSecondary).filter fun mag =>
    mag ≤ limit && window.raMin ≤ star.ra && window.decMin ≤ star.dec && star.dec ≤ window.decMax

/-- How a scan ends that has read all records before `index`: well, unless it is a
fault that keeps it from reading on. -/
def endOfData (file : String) (fault : Option OsError) (index : Nat) : Except ScanError Unit :=
  match fault with
  | none => .ok ()
  | some cause => .error (.unread file (recordSize * index) cause)

/-- Reads `left` records from record `index` on, appending those that the range,
given in radians, lets through, and stops early at the first one past its upper
edge.  Otherwise it ends as `ending` says of the record after the last. -/
def sweep [Analytic α] (window : Range α) (keepSecondary : Bool) (limit : α) (grants : Grants)
    (data : ByteArray) (ending : Nat → Except ScanError Unit) :
    (left index : Nat) → Accumulator α → Except ScanError Unit × Accumulator α
  | 0, index, acc => (ending index, acc)
  | left + 1, index, acc =>
    let star : Star α := Star.decode (Packed.read data (recordSize * index))
    if window.raMax < star.ra then (.ok (), acc)
    else match admit? window keepSecondary limit star with
      | none => sweep window keepSecondary limit grants data ending left (index + 1) acc
      | some mag =>
        let entry : Entry α :=
          { name := positionName acc.size, ra := star.ra, dec := star.dec, mag }
        match acc.append grants entry with
        | (false, same) => (.error .outOfMemory, same)
        | (true, more) => sweep window keepSecondary limit grants data ending left (index + 1) more

/-- Scans the data of a range from a record on, counted from one. -/
def scanFrom [Analytic α] (disk : Disk) (grants : Grants) (connection : Connection)
    (range : Range α) (limit : α) (first : Nat) (acc : Accumulator α) :
    Except ScanError Unit × Accumulator α :=
  let file := dataName range.zone
  match disk.lookup (connection.dataPath range.zone) with
  | .error e => (.error (.unopened file e), acc)
  | .ok node =>
    let position := recordSize * (first - 1)
    if Word.limit ≤ position then
      (.error (.badIndexRecord (indexName range.zone) (Decimal.digits first)), acc)
    else match node.seek position with
      | .error e => (.error (.unsought file position e), acc)
      | .ok _ =>
        sweep range.radians connection.keepSecondary limit grants node.bytes
          (endOfData file node.fault) (node.bytes.size / recordSize - (first - 1)) (first - 1) acc

/-- What a scan comes to, given where the index says that it starts. -/
def scanAsIndexed [Analytic α] (disk : Disk) (grants : Grants) (connection : Connection)
    (range : Range α) (limit : α) (acc : Accumulator α) :
    Except ScanError Nat → Except ScanError Nat × Accumulator α
  | .error e => (.error e, acc)
  | .ok first =>
    let (outcome, filled) := scanFrom disk grants connection range limit first acc
    (outcome.map fun _ => filled.size - acc.size, filled)

/-- Appends the stars of a range that are no fainter than the limit, in the order
of the data file, and counts them. -/
def swath [Analytic α] (disk : Disk) (grants : Grants) (connection : Connection)
    (range : Range α) (limit : α) (acc : Accumulator α) :
    Option (Except ScanError Nat × Accumulator α) :=
  (startRecord disk connection range).map
    (scanAsIndexed disk grants connection range limit acc)

end PlateSolver.Zone
