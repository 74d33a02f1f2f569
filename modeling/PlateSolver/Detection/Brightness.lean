import PlateSolver.Arithmetic.Double

/-!
# Brightness

A detector reports how bright a star is, and the brightest stars are searched
with.  A detector may also report something that is no number; then the place of
the star among the others is settled by the report alone, below every number or
above every number, and further out the greater its rank.

* `Brightness` — a number, or a rank on either side of all numbers.
* `Brightness.precedes` — the order, in which any two are comparable.
* `Brightness.ofBits` — the brightness that a bit pattern stands for.
-/

namespace PlateSolver

/-- **Brightness.** The brighter, the later in the order. -/
inductive Brightness (α : Type) where
  /-- Fainter than every number, and the fainter the greater its rank. -/
  | below (rank : Nat)
  /-- A number. -/
  | reading (value : α)
  /-- Brighter than every number, and the brighter the greater its rank. -/
  | above (rank : Nat)

namespace Brightness

variable {α : Type}

/-- Whether the second is at least as bright as the first. -/
def precedes [Scalar α] : Brightness α → Brightness α → Bool
  | .below m, .below n => n ≤ m
  | .below _, _ => true
  | .reading _, .below _ => false
  | .reading x, .reading y => Scalar.precedes x y
  | .reading _, .above _ => true
  | .above m, .above n => m ≤ n
  | .above _, _ => false

/-- The number, if there is one. -/
def value? : Brightness α → Option α
  | .reading value => some value
  | _ => none

/-- The greatest bit pattern, without a sign, that is a number. -/
def greatestPattern : Nat := 2047 * Nat.pow 2 52

/-- The brightness that a bit pattern of the binary format stands for.  The
patterns that are no number are told apart by their sign and their other bits. -/
def ofBits (bits : UInt64) : Brightness Float :=
  let size := bits.toNat % Double.signBit
  if size ≤ greatestPattern then .reading (Float.ofBits bits)
  else if bits.toNat < Double.signBit then .above size
  else .below size

end Brightness

end PlateSolver
