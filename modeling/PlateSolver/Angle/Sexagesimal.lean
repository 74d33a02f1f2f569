import PlateSolver.Arithmetic
import PlateSolver.Decimal.Figure
import PlateSolver.Decimal.Literal
import PlateSolver.Text.Blank

/-!
# Sexagesimal values

Right ascension in hours and declination in degrees are written as units,
minutes and seconds: `05:35:17.3`, `-05 23 28`, or plainly `83.82`.

* `Sexagesimal.parse?` — the value of such a text.
* `Sexagesimal.format` — the text of a value, with a given number of decimals on
  the seconds.

## Design decisions

The sign stands for the whole value and not for its first field, so `-0:30:00`
is minus one half.  Rounding happens once, in units of the last printed place,
before the value is split into fields: a carry then moves through seconds and
minutes by itself, and no field shows sixty.
-/

namespace PlateSolver.Sexagesimal

open Scalar Decimal

/-- What separates the fields of a value: a colon or a blank. -/
def separates (c : Char) : Bool := c == ':' || Text.isBlank c

/-- The sign that opens a trimmed text, and the fields after it. -/
def parts (text : String) : Bool × List (List Char) :=
  let (negative, body) := Literal.splitSign (Text.trim text.toList)
  (negative, Text.fields separates body)

variable {α : Type} [Scalar α]

/-- The value of one field, which must not be negative. -/
def field? [Readable α] (text : List Char) : Option α :=
  (Readable.read? text).filter fun value => !decide (value < (0 : α))

/-- Fields added up, each one counting a sixtieth of the one before. -/
def total (value scale : α) : List α → α
  | [] => value
  | part :: rest => total (value + part / scale) (scale * 60) rest

/-- The value of a sexagesimal text of one to three fields; those left out count as zero. -/
def parse? [Readable α] (text : String) : Option α :=
  let (negative, fields) := parts text
  if fields.isEmpty || 3 < fields.length then none
  else (fields.mapM field?).map fun values =>
    let value := total 0 1 values
    if negative then -value else value

/-- The text of a value as signed units, minutes and seconds, with `places`
decimals on the seconds. -/
def format [Figured α] (value : α) (places : Nat) : String :=
  let factor : α := power 10 places
  let rounded := round (abs value * 3600 * factor) / factor
  let units := floor (rounded / 3600)
  let minutes := floor ((rounded - units * 3600) / 60)
  let seconds := rounded - units * 3600 - minutes * 60
  let width := if 0 < places then places + 3 else 2
  let sign := if value < 0 then ['-'] else []
  String.ofList (sign ++ integerText 2 (wholeInt units) ++ ':' ::
    integerText 2 (wholeInt minutes) ++ ':' ::
    (Figured.figure seconds).zeroFixed width places)

end PlateSolver.Sexagesimal
