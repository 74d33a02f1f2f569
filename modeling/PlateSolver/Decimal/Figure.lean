import PlateSolver.Arithmetic.Double

/-!
# Numbers in printed figures

What a reader sees of a number is its sign and its size, whatever carrier it
came from.  `Figure` is that view, exact; `Figured` are the carriers that have
it.  Text with a fixed number of decimal places is a function of the figure
alone, so it means the same over every carrier.

* `Figure` — undefined, unbounded, or a signed quotient of natural numbers.
* `Figure.fixed` — text with a given number of places, ties to the even digit.
* `Decimal.digits`, `Decimal.padZero` — digits, and zeros before them up to a width.
-/

namespace PlateSolver

/-- **Figure.** A number as its printed figures show it. -/
inductive Figure where
  /-- No value. -/
  | undefined
  /-- A value beyond every bound. -/
  | unbounded (negative : Bool)
  /-- `± numerator / denominator`. -/
  | quotient (negative : Bool) (numerator denominator : Nat)
  deriving DecidableEq, Repr

/-- Carriers whose values have figures. -/
class Figured (α : Type) where
  /-- The figure of a value. -/
  figure : α → Figure

namespace Decimal

/-- The natural number nearest to a quotient, ties to the even one. -/
def roundQuotient (numerator denominator : Nat) : Nat :=
  let below := numerator / denominator
  let left := 2 * (numerator % denominator)
  if left < denominator || (left == denominator && below % 2 == 0) then below else below + 1

/-- Decimal digits of a natural number. -/
def digits (n : Nat) : List Char := Nat.toDigits 10 n

/-- Digits brought to a width by zeros before them. -/
def zeroFilled (width : Nat) (text : List Char) : List Char :=
  List.replicate (width - text.length) '0' ++ text

/-- A text brought to a width by zeros, which go between its sign and its figures. -/
def padZero (width : Nat) (negative : Bool) (figures : List Char) : List Char :=
  if negative then '-' :: zeroFilled (width - 1) figures else zeroFilled width figures

/-- An integer brought to a width by zeros after its sign. -/
def integerText (width : Nat) (n : Int) : List Char :=
  padZero width (n < 0) (digits n.natAbs)

end Decimal

namespace Figure

open Decimal

/-- Whether the figure is written with a minus sign. -/
def isNegative : Figure → Bool
  | .undefined => false
  | .unbounded negative => negative
  | .quotient negative _ _ => negative

/-- Whether the figure is beyond every bound. -/
def isUnbounded : Figure → Bool
  | .unbounded _ => true
  | _ => false

/-- A count of units of the last of `places` decimal places, with its point. -/
def pointed (places units : Nat) : List Char :=
  if places = 0 then digits units
  else
    let text := zeroFilled (places + 1) (digits units)
    let whole := text.length - places
    text.take whole ++ '.' :: text.drop whole

/-- The figures, without sign, of a number to `places` decimal places. -/
def unsignedFixed (places : Nat) : Figure → List Char
  | .undefined => ['N', 'a', 'N']
  | .unbounded _ => ['i', 'n', 'f']
  | .quotient _ n d => pointed places (roundQuotient (n * Nat.pow 10 places) d)

/-- A number to `places` decimal places, brought to a width by zeros. -/
def zeroFixed (width places : Nat) (f : Figure) : List Char :=
  padZero width f.isNegative (unsignedFixed places f)

/-- A number to `places` decimal places.  The sign of a number that rounds to
zero is kept. -/
def fixed (places : Nat) (f : Figure) : String :=
  String.ofList (zeroFixed 0 places f)

end Figure

namespace Double

open Float.Model in
/-- The figure of a binary number is its exact value. -/
def figure (x : Float) : Figure :=
  match x.toModel.unpack with
  | .notANumber => .undefined
  | .infinity sign => .unbounded (sign matches .negative)
  | .zero sign => .quotient (sign matches .negative) 0 1
  | .finite sign m e _ =>
    let negative := sign matches .negative
    if 0 ≤ e then .quotient negative (m * Nat.pow 2 e.toNat) 1
    else .quotient negative m (Nat.pow 2 (-e).toNat)

instance : Figured Float := ⟨figure⟩

/-- A number to a given number of decimal places. -/
def fixed (places : Nat) (x : Float) : String := (figure x).fixed places

end Double

end PlateSolver
