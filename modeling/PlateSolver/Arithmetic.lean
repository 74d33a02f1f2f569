/-!
# Arithmetic a computation is carried out in

Every formula of this library — a cone cut into zones, a centroid, a packed
record — is written once, over an arbitrary carrier `α`, and used twice: run on
binary floating point, and reasoned about over an exact field.  `Scalar` lists
the operations such a carrier has to offer and `Analytic` adds the handful of
transcendental ones that spherical geometry needs.

* `Scalar` — field operations, comparisons, rounding to whole numbers, the
  truncated remainder, and a total order for sorting.
* `Analytic` — `π`, square root, sine, cosine and arcsine.
* `larger`, `smaller` — the extreme of two values, one of which may be undefined.
* `power` — whole powers by repeated squaring.

## Design decisions

No law is assumed in either class.  Floating point satisfies hardly any, and a
statement that needs a law says over which carrier it holds.  The order is split
for the same reason: `<` and `≤` are the carrier's own comparisons, which may
leave an undefined value unrelated to everything, while `precedes` is a total
order in which sorting always makes sense.
-/

namespace PlateSolver

/-- **Scalar.** The arithmetic of lengths, angles and magnitudes. -/
class Scalar (α : Type) extends Add α, Sub α, Mul α, Div α, Neg α, LT α, LE α where
  /-- The value nearest to a natural number. -/
  ofNat : Nat → α
  /-- The comparison `<` is decided by computation. -/
  decLt : (a b : α) → Decidable (a < b)
  /-- The comparison `≤` is decided by computation. -/
  decLe : (a b : α) → Decidable (a ≤ b)
  /-- Distance from zero. -/
  abs : α → α
  /-- The greatest whole value not above the argument. -/
  floor : α → α
  /-- The nearest whole value, halves going away from zero. -/
  round : α → α
  /-- The whole part as a natural number; `0` for negative and undefined values. -/
  whole : α → Nat
  /-- What a division truncated toward zero leaves over; it has the sign of the dividend. -/
  remainder : α → α → α
  /-- A total order on every value of the carrier, for sorting. -/
  precedes : α → α → Bool

/-- **Analytic.** A scalar with the functions of spherical geometry. -/
class Analytic (α : Type) extends Scalar α where
  /-- Half the circumference of the unit circle. -/
  pi : α
  /-- Square root. -/
  sqrt : α → α
  /-- Sine of an angle in radians. -/
  sin : α → α
  /-- Cosine of an angle in radians. -/
  cos : α → α
  /-- The angle, in radians, with the given sine. -/
  asin : α → α

namespace Scalar

variable {α : Type} [Scalar α]

instance : DecidableLT α := Scalar.decLt

instance : DecidableLE α := Scalar.decLe

/-- Number literals denote the nearest value of the carrier. -/
instance (priority := low) (n : Nat) : OfNat α n := ⟨Scalar.ofNat n⟩

/-- The value nearest to an integer. -/
def ofInt : Int → α
  | .ofNat n => ofNat n
  | .negSucc n => -ofNat (n + 1)

/-- The greater of two values.  An undefined value — one that is not even at
most itself — gives way to the other, and of two equal ones the second is taken. -/
def larger (a b : α) : α :=
  if b < a then a else if b ≤ b then b else a

/-- The lesser of two values, with the conventions of `larger`. -/
def smaller (a b : α) : α :=
  if a < b then a else if b ≤ b then b else a

/-- The whole part of a value as a signed 64-bit count, clamped to its range. -/
def wholeInt (a : α) : Int :=
  if a < 0 then -(min (whole (-a)) (Nat.pow 2 63) : Nat)
  else (min (whole a) (Nat.pow 2 63 - 1) : Nat)

/-- `scale * base ^ exponent`, the bits of the exponent taken lowest first.
In an exact carrier the order of the factors is immaterial; where products are
rounded it is part of the definition. -/
def powerFrom (scale base : α) (exponent : Nat) : α :=
  let scaled := if exponent % 2 = 1 then scale * base else scale
  if exponent / 2 = 0 then scaled else powerFrom scaled (base * base) (exponent / 2)
termination_by exponent
decreasing_by omega

/-- A whole power. -/
def power (base : α) (exponent : Nat) : α :=
  powerFrom 1 base exponent

end Scalar

end PlateSolver
