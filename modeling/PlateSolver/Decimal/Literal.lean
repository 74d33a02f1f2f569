import PlateSolver.Arithmetic.Double

/-!
# Decimal literals

How a number is written in a header card, an index record or on the command
line: an optional sign, digits with an optional point, an optional exponent — or
one of the words for an unbounded or an undefined value.  Reading a text splits
in two: `Literal.read?` decides which literal the text is, and `Readable` says
what number, if any, a literal denotes in a carrier.

* `Literal` — the literals, by meaning: digits and a power of ten are kept exactly.
* `Literal.read?` — recognises the whole of a character list.
* `natural?` — a run of digits as a natural number.
* `Readable` — carriers whose values literals denote, with the instance at `Float`.
-/

namespace PlateSolver

/-- **Literal.** A number as it is written. -/
inductive Literal where
  /-- `±digits · 10^exponent`. -/
  | number (negative : Bool) (digits : Nat) (exponent : Int)
  /-- A value beyond every bound. -/
  | unbounded (negative : Bool)
  /-- No value at all. -/
  | undefined
  deriving DecidableEq, Repr

/-- Carriers whose values literals denote. -/
class Readable (α : Type) where
  /-- The value of a literal, if the carrier has one. -/
  ofLiteral? : Literal → Option α

namespace Literal

/-- A decimal digit. -/
def isDigit (c : Char) : Bool := '0' ≤ c && c ≤ '9'

/-- The value of a digit. -/
def digitValue (c : Char) : Nat := c.toNat - '0'.toNat

/-- The natural number that digits stand for, continuing from `start`. -/
def value (start : Nat) (digits : List Char) : Nat :=
  digits.foldl (fun n c => 10 * n + digitValue c) start

/-- A natural number written in digits alone. -/
def natural? (text : List Char) : Option Nat :=
  if text.isEmpty || !text.all isDigit then none else some (value 0 text)

/-- The sign that opens a text, and what follows it. -/
def splitSign : List Char → Bool × List Char
  | '-' :: rest => (true, rest)
  | '+' :: rest => (false, rest)
  | text => (false, text)

/-- A capital ASCII letter as the small one; any other character as it is. -/
def lower (c : Char) : Char :=
  if 'A' ≤ c && c ≤ 'Z' then Char.ofNat (c.toNat + 32) else c

/-- An exponent of this size needs no further digits. -/
def exponentBound : Nat := 65536

/-- The exponent that a sign and digits stand for.  Digits after the bound is reached do
not count: whichever they are, the exponent outweighs every number of usual length. -/
def scale (negative : Bool) (digits : List Nat) : Int :=
  let size := digits.foldl (fun n d => if n < exponentBound then 10 * n + d else n) 0
  if negative then -(size : Int) else size

/-- The exponent that ends a number: nothing, or a mark, an optional sign and digits. -/
def exponent? : List Char → Option Int
  | [] => some 0
  | mark :: rest =>
    if mark == 'e' || mark == 'E' then
      let (negative, digits) := splitSign rest
      if digits.isEmpty || !digits.all isDigit then none
      else some (scale negative (digits.map digitValue))
    else none

/-- The fraction that follows the whole digits, and what is left after it. -/
def splitFraction : List Char → List Char × List Char
  | '.' :: rest => (rest.takeWhile isDigit, rest.dropWhile isDigit)
  | rest => ([], rest)

/-- A number without its sign: digits on at least one side of the point. -/
def unsigned? (negative : Bool) (text : List Char) : Option Literal :=
  let whole := text.takeWhile isDigit
  let (fraction, rest) := splitFraction (text.dropWhile isDigit)
  if whole.isEmpty && fraction.isEmpty then none
  else (exponent? rest).map fun e =>
    .number negative (value 0 (whole ++ fraction)) (e - fraction.length)

/-- The literal that a whole text is.  The words are recognised in either case. -/
def read? (text : List Char) : Option Literal :=
  let (negative, body) := splitSign text
  let word := String.ofList (body.map lower)
  if word == "inf" || word == "infinity" then some (.unbounded negative)
  else if word == "nan" then some .undefined
  else unsigned? negative body

end Literal

/-- The value of a text in a carrier, if it is a literal that has one. -/
def Readable.read? {α : Type} [Readable α] (text : List Char) : Option α :=
  (Literal.read? text).bind ofLiteral?

namespace Double

/-- Whether `digits · 10^exponent` is so long before its point that it is beyond every
number: it is at least `2^1024`, since `10^3 < 2^10`. -/
def isOverlong (digits : Nat) (exponent : Int) : Bool :=
  1025 + 10 * (-exponent).toNat / 3 ≤ digits.log2

/-- The number nearest to `digits · 10^exponent`, ties to the even mantissa. -/
def ofDecimal (digits : Nat) (exponent : Int) : Float :=
  if isOverlong digits exponent then 1.0 / 0.0
  else Float.ofScientific digits (exponent < 0) exponent.natAbs

/-- The number a literal denotes: every literal denotes one. -/
def ofLiteral : Literal → Float
  | .number negative digits exponent =>
    if negative then -ofDecimal digits exponent else ofDecimal digits exponent
  | .unbounded negative => if negative then -(1.0 / 0.0) else 1.0 / 0.0
  | .undefined => undefined

instance : Readable Float := ⟨fun l => some (ofLiteral l)⟩

end Double

end PlateSolver
