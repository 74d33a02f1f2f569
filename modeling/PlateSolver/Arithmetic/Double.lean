import PlateSolver.Arithmetic

/-!
# Binary floating point as a carrier

The carrier the program runs on is the 64-bit binary format.  Its sums,
products, quotients, square roots and comparisons come with the language; the
rounding to whole values and the remainder are defined here through the exact
value of a number — a sign, a mantissa and a power of two — so that each is a
function one can compute with in a proof.

* `Double.ofDyadic` — the number nearest to `±m·2^e`.
* `Double.floor`, `Double.round` — rounding to whole values.
* `Double.remainder` — the exact remainder of a truncated division.
* `Double.rank` — the position of a number in the total order of all bit patterns.
* The instances `Scalar Float` and `Analytic Float`.
-/

namespace PlateSolver.Double

open Float.Model

/-- The number that stands for an undefined result. -/
def undefined : Float := 0.0 / 0.0

/-- The number nearest to `±mantissa · 2^exponent`, ties to the even mantissa. -/
def ofDyadic (sign : UnpackedFloat.Sign) (mantissa : Nat) (exponent : Int) : Float :=
  if mantissa = 0 then Float.ofModel (Float.Model.pack (.zero sign))
  else Float.ofModel (Float.Model.pack (UnpackedFloat.round Format.binary64 sign mantissa exponent))

/-- Every number of at least this size is whole. -/
def wholeBound : Float := 4503599627370496

/-- The whole part of a number between zero and `wholeBound`. -/
def truncated (x : Float) : Float :=
  x.toUInt64.toFloat

/-- The greatest whole number not above `x`. -/
def floor (x : Float) : Float :=
  if x.abs < wholeBound then
    if 0.0 ≤ x then truncated x
    else
      let below := truncated x.abs
      if below == x.abs then x else -(below + 1.0)
  else x

/-- The whole number nearest to `x`, halves going away from zero. -/
def round (x : Float) : Float :=
  if x.abs < wholeBound then
    let below := truncated x.abs
    let nearest := if 0.5 ≤ x.abs - below then below + 1.0 else below
    if x < 0.0 then -nearest else nearest
  else x

/-- What division of `x` by `p`, truncated toward zero, leaves over.  Both are
brought to a common power of two, where the remainder is one of natural numbers;
the result is exact and has the sign of `x`. -/
def remainder (x p : Float) : Float :=
  match x.toModel.unpack, p.toModel.unpack with
  | .finite sign m e _, .finite _ n f _ =>
    let unit := min e f
    ofDyadic sign ((m <<< (e - unit).toNat) % (n <<< (f - unit).toNat)) unit
  | .finite .., .infinity _ => x
  | .zero _, .finite .. => x
  | .zero _, .infinity _ => x
  | _, _ => undefined

/-- The least bit pattern of a negative number. -/
def signBit : Nat := Nat.pow 2 63

/-- Position of a number in the total order: negative numbers by decreasing
size, `-0` before `0`, positive numbers by size, the undefined value last. -/
def rank (x : Float) : Int :=
  let bits := x.toBits.toNat
  if bits < signBit then bits else (signBit : Int) - 1 - bits

instance : Scalar Float where
  ofNat := Float.ofNat
  decLt := Float.decLt
  decLe := Float.decLe
  abs := Float.abs
  floor := floor
  round := round
  whole x := x.toUInt64.toNat
  remainder := remainder
  precedes x y := rank x ≤ rank y

instance : Analytic Float where
  pi := 3.141592653589793
  sqrt := Float.sqrt
  sin := Float.sin
  cos := Float.cos
  asin := Float.asin

end PlateSolver.Double
