import Mathlib
import PlateSolver.Proofs.Angle.Sphere
import PlateSolver.Proofs.Search.Spiral

/-!
# Candidates stay on the sky

A spiral counts its steps as if the sky were a plane without an end, and a step may lead past a
pole.  The candidate there is on the other side of the sky, half a turn away and as far below the
pole as the step has gone beyond it.  It is the same point of the sphere under another of
its names.

* `huntCenter_real` — a candidate, and the point it denotes.
* `OnSky` — right ascension within a turn, declination between the poles.
* `Plan.exists_reach` — how far a plan goes in declination.
* `huntCenter_denotes_offset` — a candidate denotes the offset point, and those of a plan are on
  the sky.

## Design decisions

A declination is reflected at one pole at most, so it is between the poles afterwards only if it
was no more than three quarters of a turn away from the equator.  That half a turn is the greatest
reach is what keeps a plan within that, and the number of squares is rounded down, so that no step
is beyond the reach.  At a pole the step of right ascension is a quotient by zero, and the position
it leads to is whatever that quotient is taken to be; so what is said there is said of any number.
-/

namespace PlateSolver

open Exact Scalar Angle

/-! ## One candidate -/

section Candidate

variable (ra₀ dec₀ stepRa stepDec : ℝ)

/-- Before it is wrapped, a candidate is the offset point under a name of its own: past a pole, the
one on the other side. -/
theorem exists_huntCenter_eq_wrap :
    ∃ ra dec : ℝ,
      huntCenter (real ra₀) (real dec₀) (real stepRa) (real stepDec) =
          (wrap (real ra) turn, real dec) ∧
        direction ra dec = direction (ra₀ + stepRa) (dec₀ + stepDec) ∧
        (|dec₀ + stepDec| ≤ 3 * Real.pi / 2 → |dec| ≤ Real.pi / 2) := by
  unfold huntCenter
  rw [quarter_real]
  simp only [real_add, real_neg, real_lt, pi_eq, real_sub, abs_le]
  split_ifs with hnorth hsouth
  · refine ⟨_, _, rfl, direction_beyond_north _ _, ?_⟩
    rintro ⟨-, hhigh⟩
    constructor <;> linarith
  · refine ⟨_, _, rfl, direction_beyond_south _ _, ?_⟩
    rintro ⟨hlow, -⟩
    constructor <;> linarith
  · exact ⟨_, _, rfl, rfl, fun _ => ⟨not_lt.mp hsouth, not_lt.mp hnorth⟩⟩

/-- **A candidate denotes the offset point**, with a right ascension within a turn, and with a
declination between the poles unless the offset leads past one pole and on past the other. -/
theorem huntCenter_real :
    ∃ ra dec : ℝ,
      huntCenter (real ra₀) (real dec₀) (real stepRa) (real stepDec) = (real ra, real dec) ∧
        direction ra dec = direction (ra₀ + stepRa) (dec₀ + stepDec) ∧
        (0 ≤ ra ∧ ra < 2 * Real.pi) ∧
        (|dec₀ + stepDec| ≤ 3 * Real.pi / 2 → |dec| ≤ Real.pi / 2) := by
  obtain ⟨ra, dec, hcenter, hsame, hdec⟩ := exists_huntCenter_eq_wrap ra₀ dec₀ stepRa stepDec
  refine ⟨toIcoMod Real.two_pi_pos 0 ra, dec, ?_, ?_,
    ⟨left_le_toIcoMod Real.two_pi_pos 0 ra, ?_⟩, hdec⟩
  · rw [hcenter, turn_real, wrap_real Real.two_pi_pos]
  · rw [direction_toIcoMod, hsame]
  · simpa using toIcoMod_lt_right Real.two_pi_pos 0 ra

end Candidate

/-- **A position on the sky**: a right ascension within a turn, and a declination between the
poles.  A position that lacks one of them is none. -/
def OnSky {α : Type} [Analytic α] (position : α × α) : Prop :=
  (0 ≤ position.1 ∧ position.1 < turn) ∧
    -(Analytic.pi / 2) ≤ position.2 ∧ position.2 ≤ Analytic.pi / 2

theorem onSky_real_iff {ra dec : ℝ} :
    OnSky (real ra, real dec) ↔ (0 ≤ ra ∧ ra < 2 * Real.pi) ∧ |dec| ≤ Real.pi / 2 := by
  rw [OnSky, quarter_real, turn_real, abs_le]
  simp only [zero_eq, real_neg, real_le, real_lt]

/-! ## The reach of a plan -/

namespace Plan

theorem ringCount_le {steps : ℝ} (hsteps : 0 ≤ steps) : (ringCount (real steps) : ℝ) ≤ steps := by
  rw [ringCount]
  split_ifs with hlimit
  · exact Nat.floor_le hsteps
  · exact not_lt.mp hlimit

section Make

variable {pointing : Pointing Exact} {width height : ℕ} {fraction reach : ℝ}

/-- **A plan does not go beyond its reach** in declination, and stays where it is without one. -/
theorem exists_reach {scaleY : ℝ} (hscale : pointing.scaleY = real scaleY) :
    ∃ stepDec : ℝ,
      (make pointing width height (real fraction) (real reach)).stepDec = real stepDec ∧
        (make pointing width height (real fraction) (real reach)).rings * |stepDec| ≤
          max reach 0 := by
  have hstep : (ofNat height * Scalar.abs (real scaleY) * real fraction : Exact) =
      real (height * |scaleY| * fraction) := rfl
  unfold make
  rw [hscale, hstep]
  refine ⟨height * |scaleY| * fraction, rfl, ?_⟩
  dsimp only
  split_ifs with hpos
  · rw [zero_eq, real_lt, real_lt] at hpos
    rw [real_div reach hpos.1.ne', abs_of_pos hpos.1]
    calc _ ≤ reach / (height * |scaleY| * fraction) * (height * |scaleY| * fraction) :=
          mul_le_mul_of_nonneg_right (ringCount_le (div_pos hpos.2 hpos.1).le) hpos.1.le
      _ = reach := div_mul_cancel₀ _ hpos.1.ne'
      _ ≤ max reach 0 := le_max_left _ _
  · rw [Nat.cast_zero, zero_mul]
    exact le_max_right _ _

/-- Away from the poles, the step of right ascension is a number. -/
theorem exists_stepRa {dec scaleX : ℝ} (hpointing : pointing.dec = real dec)
    (hdec : |dec| < Real.pi / 2) (hscale : pointing.scaleX = real scaleX) :
    ∃ stepRa : ℝ,
      (make pointing width height (real fraction) (real reach)).stepRa = real stepRa := by
  have hcos : Real.cos dec ≠ 0 := (Real.cos_pos_of_mem_Ioo (abs_lt.mp hdec)).ne'
  refine ⟨width * |scaleX| * fraction / Real.cos dec, ?_⟩
  rw [make, hpointing, hscale]
  exact real_div _ hcos

end Make

/-- The candidates of a plan whose steps are numbers are on the sky, if the squares end less than
half a turn away. -/
theorem onSky_of_mem_centers {plan : Plan Exact} {ra dec stepRa stepDec : ℝ}
    (hstepRa : plan.stepRa = real stepRa) (hstepDec : plan.stepDec = real stepDec)
    (hdec : |dec| ≤ Real.pi / 2) (hreach : plan.rings * |stepDec| ≤ Real.pi)
    {center : Exact × Exact} (hcenter : center ∈ plan.centers (real ra) (real dec)) :
    OnSky center := by
  obtain ⟨offset, hoffset, rfl⟩ := List.mem_map.mp hcenter
  have hring : |(offset.2 : ℝ)| ≤ plan.rings := by
    rw [← Int.cast_abs, ← Nat.cast_natAbs, Nat.cast_le]
    exact (Nat.le_max_right _ _).trans (mem_spiralOffsets_iff.mp hoffset)
  obtain ⟨ra', dec', heq, -, hra', hdec'⟩ :=
    huntCenter_real ra dec (offset.1 * stepRa) (offset.2 * stepDec)
  rw [center, hstepRa, hstepDec, ofInt_real, ofInt_real, real_mul, real_mul, heq, onSky_real_iff]
  refine ⟨hra', hdec' ?_⟩
  calc |dec + offset.2 * stepDec| ≤ |dec| + |(offset.2 : ℝ)| * |stepDec| := by
        rw [← abs_mul]
        exact abs_add_le _ _
    _ ≤ Real.pi / 2 + plan.rings * |stepDec| :=
        add_le_add hdec (mul_le_mul_of_nonneg_right hring (abs_nonneg _))
    _ ≤ 3 * Real.pi / 2 := by linarith

end Plan

/-- **A candidate denotes the offset point, and those of a plan are on the sky.**  Whatever the
offset is, the candidate is the same point of the sphere, with a right ascension within a turn; its
declination is between the poles if the offset leads past one of them at most.  That is so for all
squares of a plan that reaches half a turn or less: its candidates are on the sky.  The nominal
position may be a pole, where the step of right ascension is a quotient by zero: whatever number is
taken for it, there and elsewhere, the candidates are on the sky. -/
theorem huntCenter_denotes_offset :
    (∀ ra₀ dec₀ stepRa stepDec : ℝ, ∃ ra dec : ℝ,
      huntCenter (real ra₀) (real dec₀) (real stepRa) (real stepDec) = (real ra, real dec) ∧
        direction ra dec = direction (ra₀ + stepRa) (dec₀ + stepDec) ∧
        (0 ≤ ra ∧ ra < 2 * Real.pi) ∧
        (|dec₀ + stepDec| ≤ 3 * Real.pi / 2 → |dec| ≤ Real.pi / 2)) ∧
    ∀ (ra dec scaleX scaleY fraction reach : ℝ) (fieldOfView : Exact) (width height : ℕ),
      |dec| ≤ Real.pi / 2 → reach ≤ Real.pi →
        let plan := Plan.make ⟨real ra, real dec, fieldOfView, real scaleX, real scaleY⟩
          width height (real fraction) (real reach)
        (|dec| < Real.pi / 2 → ∀ center ∈ plan.centers (real ra) (real dec), OnSky center) ∧
          ∀ stepRa : ℝ, ∀ center ∈ { plan with stepRa := real stepRa }.centers (real ra) (real dec),
            OnSky center := by
  refine ⟨huntCenter_real, ?_⟩
  intro ra dec scaleX scaleY fraction reach fieldOfView width height hdec hreach plan
  obtain ⟨stepDec, hstepDec, hrings⟩ : ∃ stepDec : ℝ,
      plan.stepDec = real stepDec ∧ plan.rings * |stepDec| ≤ max reach 0 :=
    Plan.exists_reach rfl
  have hwithin : plan.rings * |stepDec| ≤ Real.pi := hrings.trans (max_le hreach Real.pi_pos.le)
  have hnumber : |dec| < Real.pi / 2 → ∃ stepRa : ℝ, plan.stepRa = real stepRa := fun hpole =>
    Plan.exists_stepRa rfl hpole rfl
  -- Nothing else about the plan is needed.
  clear_value plan
  constructor
  · intro hpole center hcenter
    obtain ⟨stepRa, hstepRa⟩ := hnumber hpole
    exact Plan.onSky_of_mem_centers hstepRa hstepDec hdec hwithin hcenter
  · intro stepRa center hcenter
    have hstepRa : { plan with stepRa := real stepRa }.stepRa = real stepRa := rfl
    exact Plan.onSky_of_mem_centers hstepRa hstepDec hdec hwithin hcenter

/-- From a position that is nearer than one step to the north pole, the northern candidates are
reflected. -/
theorem huntCenter_denotes_offset_near_pole :
    let plan := Plan.make ⟨real 0, real 1, real 0, real 1, real 1⟩ 1 1 (real 1) (real 1)
    (|(1 : ℝ)| < Real.pi / 2 ∧ (1 : ℝ) ≤ Real.pi) ∧
      (plan.stepDec = real 1 ∧ 0 < plan.rings ∧ Real.pi / 2 < 1 + 1) ∧
        ∀ center ∈ plan.centers (real 0) (real 1), OnSky center := by
  intro plan
  have hstepDec : plan.stepDec = real 1 := by
    show real ((1 : ℕ) * |1| * 1) = real 1
    norm_num
  have hdec : |(1 : ℝ)| < Real.pi / 2 := by
    rw [abs_one]
    linarith [Real.pi_gt_three]
  have hreach : (1 : ℝ) ≤ Real.pi := by linarith [Real.pi_gt_three]
  refine ⟨⟨hdec, hreach⟩, ⟨hstepDec, ?_, by linarith [Real.pi_lt_four]⟩, ?_⟩
  · have hlimit : real (1 / 1) < (ofNat Plan.ringLimit : Exact) := by
      rw [ofNat_eq, real_lt, Plan.ringLimit]
      norm_num
    have hpos : 0 < real 1 := by
      rw [zero_eq, real_lt]
      exact one_pos
    have hsteps : 0 < plan.stepDec ∧ 0 < real 1 := ⟨hstepDec ▸ hpos, hpos⟩
    have hrings : plan.rings = Plan.ringCount (real 1 / plan.stepDec) := if_pos hsteps
    rw [hrings, hstepDec, real_div _ one_ne_zero, Plan.ringCount, if_pos hlimit]
    norm_num
  · exact (huntCenter_denotes_offset.2 0 1 1 1 1 1 (real 0) 1 1 hdec.le hreach).1 hdec

end PlateSolver
