import PlateSolver.Arithmetic.Double
import PlateSolver.Image.Raster

/-!
# The level of the sky

Stars are pixels that stand out from the sky by some standard deviations, both
taken over the whole raster in one pass.

* `background` — mean and population standard deviation of all pixels.
* `threshold` — the level above which a pixel is lit.
-/

namespace PlateSolver.Detection

open Scalar

variable {α : Type}

/-- The sum of all pixels and the sum of their squares. -/
def moments [Scalar α] (raster : Raster) : α × α :=
  raster.pixels.foldl (fun (sum, squares) pixel =>
    let value : α := ofNat pixel.toNat
    (sum + value, squares + value * value)) (0, 0)

/-- Mean and population standard deviation of the pixels; both are zero for a
raster without pixels. -/
def background [Analytic α] (raster : Raster) : α × α :=
  if raster.pixels.size = 0 then (0, 0)
  else
    let (sum, squares) : α × α := moments raster
    let count := ofNat raster.pixels.size
    let mean := sum / count
    (mean, Analytic.sqrt (larger (squares / count - mean * mean) 0))

/-- The mean of the pixels plus some standard deviations. -/
def threshold [Analytic α] (raster : Raster) (sigma : α) : α :=
  let (mean, deviation) : α × α := background raster
  mean + sigma * deviation

end PlateSolver.Detection
