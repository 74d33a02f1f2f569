import PlateSolver.Detection.Level
import PlateSolver.Proofs.Arithmetic.Exact

/-!
# Mean and standard deviation of a raster

The level of the sky is computed in one pass, from the sum of all pixels and the sum of
their squares.  Over the real numbers that is what the textbook says: the mean, and the
root of the mean square of what the pixels differ from it.

* `Raster.values`, `Raster.mean`, `Raster.deviation` — the definitions of the textbook.
* `meanSquare_sub_sq` — the mean of the squares less the square of the mean.
* `background_real`, `threshold_real` — the one pass gives the same.
-/

namespace PlateSolver

open Exact

/-- The values of all pixels, row by row. -/
noncomputable def Raster.values (raster : Raster) : List ℝ :=
  raster.pixels.toList.map fun pixel => (pixel.toNat : ℝ)

/-- The mean of all pixels. -/
noncomputable def Raster.mean (raster : Raster) : ℝ := raster.values.sum / raster.values.length

/-- The standard deviation of all pixels. -/
noncomputable def Raster.deviation (raster : Raster) : ℝ :=
  √((raster.values.map fun value => (value - raster.mean) ^ 2).sum / raster.values.length)

namespace Detection

/-- What values differ from a number, squared and added up. -/
theorem sum_sub_sq (values : List ℝ) (centre : ℝ) :
    (values.map fun value => (value - centre) ^ 2).sum =
      (values.map fun value => value * value).sum - 2 * centre * values.sum +
        values.length * centre ^ 2 := by
  induction values with
  | nil => simp
  | cons value rest ih =>
      simp only [List.map_cons, List.sum_cons, List.length_cons, ih]
      push_cast
      ring

/-- **The mean of the squares less the square of the mean** is the mean square of what the
values differ from their mean. -/
theorem meanSquare_sub_sq {values : List ℝ} (hvalues : values ≠ []) :
    (values.map fun value => value * value).sum / values.length -
        values.sum / values.length * (values.sum / values.length) =
      (values.map fun value => (value - values.sum / values.length) ^ 2).sum / values.length := by
  have hcount : (values.length : ℝ) ≠ 0 := by simpa using hvalues
  rw [sum_sub_sq]
  field_simp
  ring

theorem moments_real (raster : Raster) :
    (moments raster : Exact × Exact) =
      (real raster.values.sum, real (raster.values.map fun value => value * value).sum) := by
  have hfold (pixels : List UInt16) (sum squares : ℝ) :
      pixels.foldl (fun (state : Exact × Exact) pixel =>
          (state.1 + Scalar.ofNat pixel.toNat,
            state.2 + Scalar.ofNat pixel.toNat * Scalar.ofNat pixel.toNat))
          (real sum, real squares) =
        (real (sum + (pixels.map fun pixel => (pixel.toNat : ℝ)).sum),
          real (squares + (pixels.map fun pixel => (pixel.toNat : ℝ) * pixel.toNat).sum)) := by
    induction pixels generalizing sum squares with
    | nil => simp
    | cons pixel rest ih =>
        simp only [List.foldl_cons, ofNat_eq, real_mul, real_add] at ih ⊢
        rw [ih]
        simp only [List.map_cons, List.sum_cons, add_assoc]
  rw [moments, ← Array.foldl_toList]
  have hstart := hfold raster.pixels.toList 0 0
  simpa [Raster.values, Function.comp_def] using hstart

/-- **The level of the sky and how much pixels differ from it**, by the textbook. -/
theorem background_real {raster : Raster} (hpixels : raster.pixels.size ≠ 0) :
    (background raster : Exact × Exact) = (real raster.mean, real raster.deviation) := by
  have hlength : raster.values.length = raster.pixels.size := by simp [Raster.values]
  have hvalues : raster.values ≠ [] := by
    rw [← List.length_pos_iff, hlength]
    omega
  have hcount : (raster.values.length : ℝ) ≠ 0 := by simpa using hvalues
  have hvariance : (0 : ℝ) ≤
      (raster.values.map fun value => (value - raster.mean) ^ 2).sum / raster.values.length := by
    refine div_nonneg (List.sum_nonneg ?_) (Nat.cast_nonneg _)
    simp only [List.forall_mem_map]
    exact fun value _ => sq_nonneg _
  rw [background, if_neg hpixels, moments_real, ← hlength]
  simp only [ofNat_eq, real_div _ hcount, real_mul, real_sub, zero_eq, larger_real,
    meanSquare_sub_sq hvalues]
  rw [← Raster.mean, max_eq_left hvariance, sqrt_real hvariance, Raster.deviation]

/-- **The level above which a pixel is lit**: so many standard deviations above the mean. -/
theorem threshold_real {raster : Raster} (hpixels : raster.pixels.size ≠ 0) (sigma : ℝ) :
    threshold raster (real sigma) = real (raster.mean + sigma * raster.deviation) := by
  simp only [threshold, background_real hpixels, real_mul, real_add]

/-- Without a number of standard deviations there is no level. -/
theorem threshold_undefined (raster : Raster) : threshold raster undefined = undefined := by
  rcases hbackground : (background raster : Exact × Exact) with ⟨mean, deviation⟩
  simp only [threshold, hbackground]
  cases mean <;> rfl

end Detection

end PlateSolver
