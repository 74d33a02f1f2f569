import PlateSolver.Decimal.Literal

/-!
# Values of a TOML document

A TOML document is a table: keys with values, some of which are tables again.
Beside what a table holds, it matters how it came to be, since that decides which
later lines may still add to it.

* `Origin` — how a table came to be.
* `Value`, `Table` — values, and tables as lists of entries.
* `Table.put` — a table with one entry set.
-/

namespace PlateSolver.Toml

/-- **Origin.** How a table came to be. -/
inductive Origin where
  /-- As a step in the header of another table. -/
  | implied
  /-- As a step in a dotted key, or by a header before a dotted key added to it. -/
  | dotted
  /-- By a header of its own. -/
  | headed
  /-- Between braces; nothing can be added any more. -/
  | closed
  deriving DecidableEq, Repr

/-- **Value.** Numbers with a fraction or an exponent are kept as they are written. -/
inductive Value where
  /-- A text. -/
  | text (content : String)
  /-- A whole number. -/
  | whole (number : Int)
  /-- Any other number. -/
  | real (literal : Literal)
  /-- A yes or no. -/
  | flag (yes : Bool)
  /-- A date, a time of day, or both, as it is written. -/
  | moment (written : String)
  /-- A list between brackets. -/
  | list (items : List Value)
  /-- A table. -/
  | table (origin : Origin) (entries : List (String × Value))
  /-- Tables under one header that is repeated for each of them: those before the
  last one, the latest first, and the last one, which may still be added to. -/
  | tables (before : List (List (String × Value))) (last : List (String × Value))

/-- A table: its entries, in the order they were made. -/
abbrev Table := List (String × Value)

/-- A table with one entry set, where it was or else at the end. -/
def Table.put (key : String) (value : Value) : Table → Table
  | [] => [(key, value)]
  | (name, old) :: rest =>
    if name == key then (name, value) :: rest else (name, old) :: Table.put key value rest

end PlateSolver.Toml
