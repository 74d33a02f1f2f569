import PlateSolver.Toml.Value

/-!
# Adding to tables

Every key of a table is set once.  A header opens a table once; a dotted key may
add to a table that no header has opened, and none can open it from then on; and
nothing is added to a value between brackets or braces.

* `Table.assign` — a value at a dotted key.
* `Table.within` — a change of the table that a header leads to.
* `Table.openHeader`, `Table.openElement` — what a header does.
-/

namespace PlateSolver.Toml.Table

/-- A table with a value at a dotted key.  The tables on the way are made as needed;
those that are there already must not have been opened by a header.  Of a list of
tables the last one is meant, which takes a table this way but no other value. -/
def assign (value : Value) : List String → Table → Option Table
  | [], _ => none
  | [key], table => if (table.lookup key).isSome then none else some (table ++ [(key, value)])
  | key :: next :: rest, table =>
    match table.lookup key with
    | none => (assign value (next :: rest) []).map fun t => table ++ [(key, .table .dotted t)]
    | some (.table origin entries) =>
      if origin = .dotted ∨ origin = .implied then
        (assign value (next :: rest) entries).map fun t => table.put key (.table .dotted t)
      else none
    | some (.tables before last) =>
      if rest = [] then none
      else (assign value (next :: rest) last).map fun t => table.put key (.tables before t)
    | some _ => none

/-- Changes the table that the keys of a header lead to.  Of a list of tables the
last one is meant, and a table that is not there yet is implied. -/
def within (change : Table → Option Table) : List String → Table → Option Table
  | [], table => change table
  | key :: rest, table =>
    match table.lookup key with
    | none => (within change rest []).map fun t => table ++ [(key, .table .implied t)]
    | some (.table .closed _) => none
    | some (.table origin entries) =>
      (within change rest entries).map fun t => table.put key (.table origin t)
    | some (.tables before last) =>
      (within change rest last).map fun t => table.put key (.tables before t)
    | some _ => none

/-- A table with one of its tables opened by a header. -/
def openHeader (key : String) (table : Table) : Option Table :=
  match table.lookup key with
  | none => some (table ++ [(key, .table .headed [])])
  | some (.table .implied entries) => some (table.put key (.table .headed entries))
  | some _ => none

/-- A table with a further element of one of its lists of tables. -/
def openElement (key : String) (table : Table) : Option Table :=
  match table.lookup key with
  | none => some (table ++ [(key, .tables [] [])])
  | some (.tables before last) => some (table.put key (.tables (last :: before) []))
  | some _ => none

end PlateSolver.Toml.Table
