import PlateSolver.Decimal.Figure
import PlateSolver.Decimal.Literal

/-!
# The shortest text that reads back

A binary number is shown in full by the fewest decimal digits that still denote
it.  For each count of digits the number has two neighbours on the grid of
decimals with that many digits; the first grid on which a neighbour reads back
gives the text, and of two neighbours that do the nearer one is taken.

* `Shortest.digits?` — the digits and the place of the point of a positive number.
* `Double.plain` — positional text without an exponent, whole numbers without a point.
* `Double.pointed` — the same with `.0` after whole numbers.
-/

namespace PlateSolver

namespace Shortest

open Decimal

/-- The place of the decimal point in `numerator / denominator`: the `p` with
`10^(p-1) ≤ numerator / denominator < 10^p`, for values not below `10^(-400)`. -/
def pointPlace (numerator denominator : Nat) : Int :=
  (digits (numerator * Nat.pow 10 400 / denominator)).length - 400

/-- The two neighbours of a quotient among the multiples of `10^exponent`, the
nearer one first; in the middle the upper one is first. -/
def neighbours (numerator denominator : Nat) (exponent : Int) : Nat × Nat :=
  let n := numerator * Nat.pow 10 (-exponent).toNat
  let d := denominator * Nat.pow 10 exponent.toNat
  let below := n / d
  if 2 * (n % d) < d then (below, below + 1) else (below + 1, below)

/-- The point of a grid of `count` digits as units and their power of ten.  The upper
neighbour of the greatest point is a power of ten, for which one digit is enough. -/
def carried (count : Nat) (place : Int) (units : Nat) : Nat × Int :=
  if units = Nat.pow 10 count then (1, place) else (units, place - count)

/-- The first grid, from `count` digits on and for at most `left` grids, on which
a neighbour of the number reads back as the number. -/
def search (x : Float) (numerator denominator : Nat) (place : Int) :
    (left count : Nat) → Option (Nat × Int)
  | 0, _ => none
  | left + 1, count =>
    let exponent := place - count
    let (near, far) := neighbours numerator denominator exponent
    if Double.ofDecimal near exponent == x then some (carried count place near)
    else if Double.ofDecimal far exponent == x then some (carried count place far)
    else search x numerator denominator place left (count + 1)

/-- The fewest digits, and their power of ten, that denote a positive number.
Seventeen digits denote any number of the format. -/
def digits? (x : Float) (numerator denominator : Nat) : Option (Nat × Int) :=
  search x numerator denominator (pointPlace numerator denominator) 17 1

/-- Positional text of `units · 10^exponent`; a whole number is followed by `tail`. -/
def positional (tail : List Char) (units : Nat) (exponent : Int) : List Char :=
  if 0 ≤ exponent then
    digits units ++ List.replicate (if units = 0 then 0 else exponent.toNat) '0' ++ tail
  else Figure.pointed exponent.natAbs units

end Shortest

namespace Double

/-- Positional text of the shortest digits of a number; whole numbers are
followed by `tail`, and `undefinedText` stands for the undefined one. -/
def shortest (undefinedText : String) (tail : List Char) (x : Float) : String :=
  match figure x with
  | .undefined => undefinedText
  | .unbounded negative => if negative then "-inf" else "inf"
  | .quotient negative n d =>
    let text :=
      if n = 0 then Shortest.positional tail 0 0
      else match Shortest.digits? x.abs n d with
        | some (units, exponent) => Shortest.positional tail units exponent
        | none => Shortest.positional tail (n / d) 0
    String.ofList (if negative then '-' :: text else text)

/-- The shortest text of a number; a whole number has no point. -/
def plain (x : Float) : String := shortest "NaN" [] x

/-- The shortest text of a number with a point or a word in it. -/
def pointed (x : Float) : String := shortest "nan" ['.', '0'] x

end Double

end PlateSolver
