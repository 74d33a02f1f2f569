import Mathlib
import PlateSolver.Arithmetic
import PlateSolver.Decimal.Literal

/-!
# Exact arithmetic as a carrier

What a formula means is said over the real numbers, with one value more: the
result of an operation that has none, such as a quotient by zero.  Floating point
has that value too, and the library relies on how it compares — with nothing, not
even itself — where a half-width at a pole is a quotient by zero.  Over the real
numbers alone, where such a quotient is zero, the same text would mean something
else.

* `Exact` — a real number, or no number at all.
* The instances `Scalar Exact`, `Analytic Exact` and `Readable Exact`.
* `real_add`, `real_lt`, `larger_real`, … — on numbers, every operation is that of `ℝ`.
* `nearest` — rounding, as a natural number.

## Design decisions

There are no infinities.  A magnitude limit that lets everything through is any
large number, and a quotient by zero, which may be infinite or undefined where
numbers are rounded, is undefined here in both cases.
-/

namespace PlateSolver

/-- **Exact.** A real number, or the result of an operation that has none. -/
inductive Exact where
  /-- A number. -/
  | real (value : ℝ)
  /-- No number. -/
  | undefined

namespace Exact

open Scalar

/-- An operation on numbers, which may have no result. -/
noncomputable def lift (f : ℝ → Exact) : Exact → Exact
  | real x => f x
  | undefined => undefined

/-- An operation on two numbers, which may have no result. -/
noncomputable def lift₂ (f : ℝ → ℝ → Exact) : Exact → Exact → Exact
  | real x, real y => f x y
  | _, _ => undefined

/-- A comparison of numbers, which holds of nothing else. -/
def Both (related : ℝ → ℝ → Prop) : Exact → Exact → Prop
  | real x, real y => related x y
  | _, _ => False

/-- The whole part of a number, which is what truncation toward zero leaves of it. -/
noncomputable def truncated (x : ℝ) : ℤ := if 0 ≤ x then ⌊x⌋ else ⌈x⌉

open Classical in
noncomputable instance : Scalar Exact where
  add := lift₂ fun x y => real (x + y)
  sub := lift₂ fun x y => real (x - y)
  mul := lift₂ fun x y => real (x * y)
  div := lift₂ fun x y => if y = 0 then undefined else real (x / y)
  neg := lift fun x => real (-x)
  lt := Both (· < ·)
  le := Both (· ≤ ·)
  ofNat n := real n
  decLt _ _ := propDecidable _
  decLe _ _ := propDecidable _
  abs := lift fun x => real |x|
  floor := lift fun x => real ⌊x⌋
  round := lift fun x => real (if 0 ≤ x then round x else -round (-x) : ℤ)
  whole
    | real x => ⌊x⌋₊
    | undefined => 0
  remainder := lift₂ fun x y =>
    if y = 0 then undefined else real (x - y * truncated (x / y))
  precedes
    | real x, real y => decide (x ≤ y)
    | undefined, real _ => false
    | _, undefined => true

open Classical in
noncomputable instance : Analytic Exact where
  pi := real Real.pi
  sqrt := lift fun x => if 0 ≤ x then real √x else undefined
  sin := lift fun x => real (Real.sin x)
  cos := lift fun x => real (Real.cos x)
  asin := lift fun x => if -1 ≤ x ∧ x ≤ 1 then real (Real.arcsin x) else undefined

/-- A literal denotes its number; one that is beyond every bound, or undefined, denotes none. -/
noncomputable instance : Readable Exact where
  ofLiteral?
    | .number negative digits exponent =>
      some (real ((if negative then -(digits : ℝ) else digits) * 10 ^ exponent))
    | .unbounded _ | .undefined => some undefined

variable {x y : ℝ} {a b : Exact}

/-! ## Numerals -/

@[simp] theorem ofNat_eq (n : ℕ) : (Scalar.ofNat n : Exact) = real n := rfl

@[simp] theorem zero_eq : (0 : Exact) = real 0 := congrArg real Nat.cast_zero

@[simp] theorem one_eq : (1 : Exact) = real 1 := congrArg real Nat.cast_one

@[simp] theorem numeral_eq (n : ℕ) [n.AtLeastTwo] :
    (OfNat.ofNat n : Exact) = real (OfNat.ofNat n) := rfl

theorem ofInt_real (i : ℤ) : (ofInt i : Exact) = real i := by
  cases i with
  | ofNat n => rfl
  | negSucc n =>
      rw [Int.cast_negSucc]
      rfl

/-! ## Operations on numbers -/

@[simp] theorem real_add (x y : ℝ) : real x + real y = real (x + y) := rfl

@[simp] theorem real_sub (x y : ℝ) : real x - real y = real (x - y) := rfl

@[simp] theorem real_mul (x y : ℝ) : real x * real y = real (x * y) := rfl

@[simp] theorem real_neg (x : ℝ) : -real x = real (-x) := rfl

@[simp] theorem real_div (x : ℝ) (hy : y ≠ 0) : real x / real y = real (x / y) := if_neg hy

/-- A number may be the first factor or the second, even where the other one is no number. -/
theorem mul_real_comm (a : Exact) (x : ℝ) : a * real x = real x * a := by
  cases a with
  | real y => exact congrArg real (mul_comm y x)
  | undefined => rfl

theorem real_div_zero (x : ℝ) : real x / real 0 = undefined := if_pos rfl

@[simp] theorem real_lt : real x < real y ↔ x < y := Iff.rfl

@[simp] theorem real_le : real x ≤ real y ↔ x ≤ y := Iff.rfl

/-- Only numbers compare. -/
theorem exists_of_le : a ≤ b → ∃ x y, a = real x ∧ b = real y ∧ x ≤ y := by
  intro h
  match a, b with
  | real x, real y => exact ⟨x, y, rfl, rfl, h⟩
  | real _, undefined | undefined, real _ | undefined, undefined => exact h.elim

theorem lt_of_le_of_lt {c : Exact} (hle : a ≤ b) (hlt : b < c) : a < c := by
  obtain ⟨x, y, rfl, rfl, hxy⟩ := exists_of_le hle
  cases c with
  | real z => exact hxy.trans_lt hlt
  | undefined => exact hlt

theorem lt_of_lt_of_le {c : Exact} (hlt : a < b) (hle : b ≤ c) : a < c := by
  obtain ⟨y, z, rfl, rfl, hyz⟩ := exists_of_le hle
  cases a with
  | real x => exact (real_lt.mp hlt).trans_le hyz
  | undefined => exact hlt

@[simp] theorem whole_real (x : ℝ) : whole (real x) = ⌊x⌋₊ := rfl

@[simp] theorem abs_real (x : ℝ) : abs (real x) = real |x| := rfl

/-- A count that is a signed 64-bit one is its whole part. -/
theorem wholeInt_natCast {n : ℕ} (h : n ≤ Nat.pow 2 63 - 1) : wholeInt (real n) = n := by
  have hnonneg : ¬ real n < 0 := by
    rw [zero_eq, real_lt, not_lt]
    exact n.cast_nonneg
  rw [wholeInt, if_neg hnonneg, whole_real, Nat.floor_natCast, Nat.min_eq_left h]

theorem powerFrom_real (scale base : ℝ) (n : ℕ) :
    powerFrom (real scale) (real base) n = real (scale * base ^ n) := by
  induction n using Nat.strong_induction_on generalizing scale base with
  | h n ih =>
      have hbits : n % 2 + 2 * (n / 2) = n := Nat.mod_add_div n 2
      have hscaled : (if n % 2 = 1 then real scale * real base else real scale) =
          real (scale * base ^ (n % 2)) := by
        rcases Nat.mod_two_eq_zero_or_one n with hbit | hbit
        · rw [hbit, if_neg zero_ne_one, pow_zero, mul_one]
        · rw [hbit, if_pos rfl, pow_one, real_mul]
      rw [powerFrom, hscaled]
      split_ifs with hlast
      · rw [hlast, mul_zero, add_zero] at hbits
        rw [hbits]
      · rw [real_mul, ih (n / 2) (by omega), ← pow_two, ← pow_mul, mul_assoc, ← pow_add, hbits]

/-- **Powers are powers**, in whatever order their factors are taken. -/
@[simp] theorem power_real (base : ℝ) (n : ℕ) : power (real base) n = real (base ^ n) := by
  rw [power, one_eq, powerFrom_real, one_mul]

/-- What is cut off from a number is less than one, on either side of zero. -/
theorem abs_sub_truncated_lt (x : ℝ) : |x - truncated x| < 1 := by
  rw [truncated]
  split_ifs with hx
  · rw [Int.self_sub_floor, abs_of_nonneg (Int.fract_nonneg x)]
    exact Int.fract_lt_one x
  · rw [abs_sub_comm, abs_of_nonneg (sub_nonneg.mpr (Int.le_ceil x))]
    linarith [Int.ceil_lt_add_one x]

@[simp] theorem larger_real (x y : ℝ) : larger (real x) (real y) = real (max x y) := by
  rcases lt_or_ge y x with h | h
  · rw [larger, if_pos (real_lt.mpr h), max_eq_left h.le]
  · rw [larger, if_neg (real_lt.not.mpr h.not_gt), if_pos (real_le.mpr le_rfl), max_eq_right h]

@[simp] theorem smaller_real (x y : ℝ) : smaller (real x) (real y) = real (min x y) := by
  rcases lt_or_ge x y with h | h
  · rw [smaller, if_pos (real_lt.mpr h), min_eq_left h.le]
  · rw [smaller, if_neg (real_lt.not.mpr h.not_gt), if_pos (real_le.mpr le_rfl), min_eq_right h]

/-! ## Rounding -/

/-- **The nearest whole number**; a half goes up, which is away from zero, and a number below zero
has none but zero. -/
noncomputable def nearest (x : ℝ) : ℕ := (round x).toNat

theorem nearest_eq_floor (x : ℝ) : nearest x = ⌊x + 1 / 2⌋₊ := by
  rw [nearest, round_eq, Int.floor_toNat]

@[simp] theorem nearest_natCast (n : ℕ) : nearest n = n := by
  rw [nearest, round_natCast, Int.toNat_natCast]

theorem nearest_mono : Monotone nearest := by
  intro x y h
  rw [nearest_eq_floor, nearest_eq_floor]
  exact Nat.floor_mono (by linarith)

theorem natCast_nearest (hx : 0 ≤ x) : (nearest x : ℝ) = round x := by
  have hround : 0 ≤ round x := by
    rw [round_eq]
    exact Int.floor_nonneg.mpr (by linarith)
  exact_mod_cast Int.toNat_of_nonneg hround

theorem abs_sub_nearest (hx : 0 ≤ x) : |x - nearest x| ≤ 1 / 2 := by
  rw [natCast_nearest hx]
  exact abs_sub_round x

/-- A number, rounded to a whole count of units, is off by no more than half a unit. -/
theorem abs_nearest_div_sub (x : ℝ) {scale : ℝ} (hscale : 0 < scale) (hx : 0 ≤ x * scale) :
    |nearest (x * scale) / scale - x| ≤ 1 / scale / 2 := by
  have hdiv : nearest (x * scale) / scale - x = (nearest (x * scale) - x * scale) / scale := by
    field_simp
  rw [hdiv, abs_div, abs_of_pos hscale, div_right_comm, abs_sub_comm]
  exact (div_le_div_iff_of_pos_right hscale).mpr (abs_sub_nearest hx)

theorem round_real (hx : 0 ≤ x) : Scalar.round (real x) = real (nearest x) := by
  rw [natCast_nearest hx]
  exact congrArg (fun n : ℤ => real n) (if_pos hx)

/-- The whole part of a quotient of counts. -/
theorem floor_natCast_div (m n : ℕ) : floor (real (m / n)) = real (m / n : ℕ) := by
  have hnonneg : (0 : ℝ) ≤ m / n := by positivity
  show real ⌊(m / n : ℝ)⌋ = real (m / n : ℕ)
  rw [← natCast_floor_eq_intCast_floor hnonneg, Nat.floor_div_eq_div]

@[simp] theorem whole_round_real (x : ℝ) : whole (Scalar.round (real x)) = nearest x := by
  rcases le_or_gt 0 x with hpos | hneg
  · rw [round_real hpos, whole_real, Nat.floor_natCast]
  · have hround : 0 ≤ round (-x) := by
      rw [round_eq]
      exact Int.floor_nonneg.mpr (by linarith)
    have hwhole : whole (Scalar.round (real x)) = ⌊((-round (-x) : ℤ) : ℝ)⌋₊ :=
      congrArg (fun n : ℤ => ⌊(n : ℝ)⌋₊) (if_neg hneg.not_ge)
    rw [hwhole, nearest_eq_floor, Nat.floor_of_nonpos (by exact_mod_cast neg_nonpos.mpr hround),
      Nat.floor_eq_zero.mpr (by linarith)]

/-! ## Functions of angles -/

@[simp] theorem pi_eq : (Analytic.pi : Exact) = real Real.pi := rfl

@[simp] theorem sin_real (x : ℝ) : Analytic.sin (real x) = real (Real.sin x) := rfl

@[simp] theorem cos_real (x : ℝ) : Analytic.cos (real x) = real (Real.cos x) := rfl

@[simp] theorem sqrt_real (hx : 0 ≤ x) : Analytic.sqrt (real x) = real √x := if_pos hx

@[simp] theorem asin_real (hlow : -1 ≤ x) (hhigh : x ≤ 1) :
    Analytic.asin (real x) = real (Real.arcsin x) := if_pos ⟨hlow, hhigh⟩

end Exact

end PlateSolver
