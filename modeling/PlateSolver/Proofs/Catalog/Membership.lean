import Mathlib
import PlateSolver.Proofs.Angle.Distance
import PlateSolver.Proofs.Zone.Atomic

/-!
# The entries of a cone

A catalog in memory measures the distance of every entry, so what it answers is what a cone is: the
entries whose unit vectors are within an angle of the one in the middle.  Nothing is special about
an entry across the zero of right ascension or beyond a pole.

* `Entry.exact`, `Cone.exact` — entries and cones given by real numbers.
* `Inside` — the entries of a cone, said with unit vectors.
* `Listed.contains_exact` — the test of the catalog.
* `Listed.fetch_great_circle` — so a query appends the entries of the cone, in their order.
-/

namespace PlateSolver

open Exact Angle

/-- An entry given by real numbers. -/
def Entry.exact (entry : Entry ℝ) : Entry Exact :=
  ⟨entry.name, real entry.ra, real entry.dec, real entry.mag, entry.isStar⟩

/-- A cone given by real numbers. -/
def Cone.exact (cone : Cone ℝ) : Cone Exact := ⟨real cone.ra, real cone.dec, real cone.radius⟩

/-- **Inside a cone** and no fainter than a limit. -/
def Inside (cone : Cone ℝ) (limit : ℝ) (entry : Entry ℝ) : Prop :=
  entry.mag ≤ limit ∧
    InnerProductGeometry.angle (unitVector cone.ra cone.dec) (unitVector entry.ra entry.dec) ≤
      cone.radius

noncomputable instance (cone : Cone ℝ) (limit : ℝ) : DecidablePred (Inside cone limit) :=
  Classical.decPred _

/-- A wider cone holds what a narrower one does, and a fainter limit lets more through. -/
theorem Inside.mono {ra dec radius radius' limit limit' : ℝ} {entry : Entry ℝ}
    (hradius : radius ≤ radius') (hlimit : limit ≤ limit')
    (h : Inside ⟨ra, dec, radius⟩ limit entry) : Inside ⟨ra, dec, radius'⟩ limit' entry :=
  ⟨h.1.trans hlimit, h.2.trans hradius⟩

namespace Listed

/-- **The test of an entry** is whether it is inside the cone. -/
theorem contains_exact (cone : Cone ℝ) (limit : ℝ) (entry : Entry ℝ) :
    contains cone.exact (real limit) entry.exact = decide (Inside cone limit entry) := by
  rw [Bool.eq_iff_iff, contains, Bool.and_eq_true, decide_eq_true_iff, decide_eq_true_iff,
    decide_eq_true_iff, Cone.exact, Entry.exact]
  dsimp only
  rw [separation_eq_angle, real_le, real_le, Inside]

/-- The entries that pass the test. -/
theorem filter_exact (cone : Cone ℝ) (limit : ℝ) (entries : List (Entry ℝ)) :
    (entries.map Entry.exact).filter (contains cone.exact (real limit)) =
      (entries.filter (Inside cone limit)).map Entry.exact := by
  rw [List.filter_map]
  congr 2
  funext entry
  exact contains_exact cone limit entry

/-- **The entries of a cone.**  The distance of two positions is the angle between their unit
vectors, with all that this brings, and the cap in the formula for it is never needed.  So a query
appends, in the order of the catalog, the entries no fainter than the limit whose angle from the
middle of the cone is at most its radius, and tells their number; it does so unless the allocator
refuses room, and then it appends none.  A wider cone or a fainter limit only adds entries. -/
theorem fetch_great_circle :
    IsMetric (2 * Real.pi) (fun ra₁ dec₁ ra₂ dec₂ =>
        separation (real ra₁) (real dec₁) (real ra₂) (real dec₂)) ∧
      (∀ ra₁ dec₁ ra₂ dec₂ : ℝ,
        let root := Analytic.sqrt (haversine (real ra₁) (real dec₁) (real ra₂) (real dec₂))
        Scalar.smaller root 1 = root ∧
          separation (real ra₁) (real dec₁) (real ra₂) (real dec₂) = 2 * Analytic.asin root) ∧
      (∀ (name : String) (entries : List (Entry ℝ)) (grants : Grants) (cone : Cone ℝ) (limit : ℝ)
        (acc : Accumulator Exact),
        let catalog : Listed Exact := ⟨name, entries.map Entry.exact⟩
        let inside := entries.filter (Inside cone limit)
        (∃ filled, catalog.fetch grants cone.exact (real limit) acc = (.ok inside.length, filled) ∧
            filled.toList = acc.toList ++ inside.map Entry.exact) ∨
          (∃ same, catalog.fetch grants cone.exact (real limit) acc =
              (.error (.scan .outOfMemory), same) ∧ same.entries = acc.entries) ∧
            ∃ size, grants size = false) ∧
      ∀ (entries : List (Entry ℝ)) (ra dec radius radius' limit limit' : ℝ),
        radius ≤ radius' → limit ≤ limit' →
          (entries.filter (Inside ⟨ra, dec, radius⟩ limit)).Sublist
            (entries.filter (Inside ⟨ra, dec, radius'⟩ limit')) := by
  refine ⟨isMetric, fun ra₁ dec₁ ra₂ dec₂ => ?_, fun name entries grants cone limit acc => ?_,
    fun entries ra dec radius radius' limit limit' hradius hlimit => ?_⟩
  · have hcap := smaller_sqrt_haversine ra₁ dec₁ ra₂ dec₂
    exact ⟨hcap, by rw [separation_eq_haversine, hcap]⟩
  · have hcases := fetch_cases ⟨name, entries.map Entry.exact⟩ grants cone.exact (real limit) acc
    rw [filter_exact, List.length_map] at hcases
    exact hcases
  · refine List.monotone_filter_right entries fun entry h => ?_
    rw [decide_eq_true_iff] at h ⊢
    exact h.mono hradius hlimit

end Listed

end PlateSolver
