import PlateSolver.Image.Pointing

/-!
# The spiral of candidate centers

A search tries the nominal position first and then the positions around it, on
hollow squares of growing size.  Positions are counted in steps of right
ascension and declination from the nominal one; a step is a fraction of the
image, stretched in right ascension so that it covers the same distance on the
sky.

* `ringOffsets`, `spiralOffsets` — the squares, in steps.
* `huntCenter` — the sky position a given offset away.
* `Plan` — step sizes and number of squares of one search.
* `Plan.ringCenters`, `Plan.firstCenters` — the positions, square by square.

## Design decisions

A plan may have billions of squares, of which a search visits as many as it
needs.  So no list of all positions is ever made: what visits them goes from
square to square, and only the positions of one square are a list.
-/

namespace PlateSolver

open Scalar

/-- A number of steps in right ascension and in declination. -/
abbrev Offset := Int × Int

/-- The whole numbers from `-n` to `n`. -/
def span (n : Nat) : List Int := (List.range (2 * n + 1)).map fun k : Nat => (k : Int) - n

/-- The offsets on a hollow square, by right ascension and then by declination:
both columns at its sides in full, and the two ends of every column between
them.  No square has a negative number. -/
def ringOffsets : Int → List Offset
  | .ofNat ring =>
    (span ring).flatMap fun i =>
      if i.natAbs = ring then (span ring).map fun j => (i, j)
      else [(i, -(ring : Int)), (i, (ring : Int))]
  | .negSucc _ => []

/-- The offsets of all squares up to one, from the inside out. -/
def spiralOffsets (rings : Nat) : List Offset :=
  (List.range (rings + 1)).flatMap fun ring : Nat => ringOffsets (ring : Int)

variable {α : Type}

/-- The position some distance away from another one, in right ascension and in
declination.  A declination past a pole comes down on the other side. -/
def huntCenter [Analytic α] (ra₀ dec₀ stepRa stepDec : α) : α × α :=
  let ra := ra₀ + stepRa
  let dec := dec₀ + stepDec
  if Analytic.pi / 2 < dec then
    (Angle.wrap (ra + Analytic.pi) Angle.turn, Analytic.pi - dec)
  else if dec < -(Analytic.pi / 2) then
    (Angle.wrap (ra + Analytic.pi) Angle.turn, -Analytic.pi - dec)
  else (Angle.wrap ra Angle.turn, dec)

/-- **Plan.** Step sizes and extent of one search, in radians. -/
structure Plan (α : Type) where
  /-- One step of right ascension. -/
  stepRa : α
  /-- One step of declination. -/
  stepDec : α
  /-- The number of the outermost square; the square numbered zero is the nominal
  position alone. -/
  rings : Nat

namespace Plan

/-- The greatest number of a square. -/
def ringLimit : Nat := Nat.pow 2 32 - 1

/-- How many squares reach as far as a number of steps; as many as there can be,
if that number is unbounded or undefined. -/
def ringCount [Scalar α] (steps : α) : Nat :=
  if steps < ofNat ringLimit then whole steps else ringLimit

/-- The plan that reaches a given distance in declination, by steps that are a
fraction of the image. -/
def make [Analytic α] (pointing : Pointing α) (width height : Nat) (fraction reach : α) : Plan α :=
  let stepDec := ofNat height * abs pointing.scaleY * fraction
  let stepRa := ofNat width * abs pointing.scaleX * fraction / Analytic.cos pointing.dec
  { stepRa := stepRa
    stepDec := stepDec
    rings := if 0 < stepDec ∧ 0 < reach then ringCount (reach / stepDec) else 0 }

/-- The greatest count of candidates. -/
def countLimit : Nat := Nat.pow 2 64 - 1

/-- A count, or the greatest one where it would go beyond that. -/
def saturate (count : Nat) : Nat := min count countLimit

/-- How many candidates a plan has: the square of the number on one side, each step of
the computation stopping at the greatest count. -/
def candidateCount (plan : Plan α) : Nat :=
  let side := saturate (saturate (plan.rings * 2) + 1)
  saturate (side * side)

/-- The position at an offset from the nominal one. -/
def center [Analytic α] (plan : Plan α) (ra dec : α) (offset : Offset) : α × α :=
  huntCenter ra dec (ofInt offset.1 * plan.stepRa) (ofInt offset.2 * plan.stepDec)

/-- The positions on one square. -/
def ringCenters [Analytic α] (plan : Plan α) (ra dec : α) (ring : Nat) : List (α × α) :=
  (ringOffsets (ring : Int)).map (plan.center ra dec)

/-- The first `count` positions from the square `ring` on, of which `more` further
squares follow. -/
def centersFrom [Analytic α] (plan : Plan α) (ra dec : α) (ring count : Nat) :
    (more : Nat) → List (α × α)
  | 0 => (plan.ringCenters ra dec ring).take count
  | more + 1 =>
    let here := (plan.ringCenters ra dec ring).take count
    if here.length < count then
      here ++ plan.centersFrom ra dec (ring + 1) (count - here.length) more
    else here

/-- The first `count` positions of a plan. -/
def firstCenters [Analytic α] (plan : Plan α) (ra dec : α) (count : Nat) : List (α × α) :=
  plan.centersFrom ra dec 0 count plan.rings

end Plan

end PlateSolver
