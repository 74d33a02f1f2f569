import PlateSolver.Toml.Statement

/-!
# Documents

Reading a document takes three steps: its characters are checked, its statements
are recognised, and they are carried out one after the other on an empty table.

* `isProper` — whether a text holds only characters that a document may hold.
* `carryOut` — what a statement does.
* `read?` — the table that a document is.
-/

namespace PlateSolver.Toml

/-- A control character other than a tab or a line feed. -/
def isForbidden (c : Char) : Bool :=
  (c.toNat < 0x20 && c != '\t' && c != '\n') || c == '\x7f'

/-- Whether a text holds no control character but tabs and line feeds, and carriage
returns right before a line feed. -/
def isProper : List Char → Bool
  | [] => true
  | '\r' :: '\n' :: rest => isProper rest
  | c :: rest => !isForbidden c && isProper rest

/-- A text without the mark that may stand at its start to show its encoding. -/
def afterOrderMark : List Char → List Char
  | c :: rest => if c.toNat = 0xFEFF then rest else c :: rest
  | [] => []

/-- Does what a statement says to a table and to the header under which keys stand. -/
def carryOut (table : Table) (current : List String) :
    Statement → Option (Table × List String)
  | .assign path value =>
    (table.within (Table.assign value path) current).map fun t => (t, current)
  | .header path =>
    (table.within (Table.openHeader (path.getLastD "")) path.dropLast).map fun t => (t, path)
  | .element path =>
    (table.within (Table.openElement (path.getLastD "")) path.dropLast).map fun t => (t, path)

/-- Carries out statements one after the other. -/
def carryOutAll (table : Table) (current : List String) : List Statement → Option Table
  | [] => some table
  | statement :: rest =>
    (carryOut table current statement).bind fun (next, header) => carryOutAll next header rest

/-- The table that a text is, if it is a document. -/
def read? (text : String) : Option Table :=
  let body := afterOrderMark text.toList
  if isProper body then (statements? body).bind (carryOutAll [] []) else none

end PlateSolver.Toml
