import Mathlib
import PlateSolver.Proofs.Detection.Fill
import PlateSolver.Proofs.Detection.Level
import PlateSolver.Proofs.Detection.Measure

/-!
# Detection does not depend on the pedestal

A camera adds the same number to every pixel, and what is detected must not depend on it.  The
mean of the sky moves with the pedestal and the deviation from it does not, so the same pixels are
lit; the same groups are filled from them, their peaks are the same pixels, and they are in the
same order.  Around a star the rim moves with the pedestal as well, so the same pixels stand out
from it by as much as before.

* `Raster.raise`, `Raster.HasRoom` — a raster with a pedestal, and pedestals that are not too much.
* `threshold_raise`, `lit_raise` — the same pixels are lit.
* `spread_raise`, `Blob.ofPixels_raise`, `collect_raise` — the same groups are filled.
* `starStats_raise` — the same centroid is measured.
* `findStars_uniform` — nothing is detected on a raster of one value.
* `detection_raise` — all of it.
-/

namespace PlateSolver

open Exact

/-! ## Rasters with a pedestal -/

namespace Raster

/-- **A raster with a pedestal**: the same number, which may be negative, added to all pixels. -/
def raise (raster : Raster) (pedestal : ℤ) : Raster where
  width := raster.width
  height := raster.height
  pixels := raster.pixels.map fun pixel => UInt16.ofNat (pixel.toNat + pedestal).toNat
  size_pixels := by rw [Array.size_map, raster.size_pixels]

/-- **Room for a pedestal**: every pixel keeps a value that a pixel can have. -/
def HasRoom (raster : Raster) (pedestal : ℤ) : Prop :=
  ∀ pixel ∈ raster.pixels, 0 ≤ pixel.toNat + pedestal ∧ pixel.toNat + pedestal ≤ 65535

variable {raster : Raster} {pedestal : ℤ} {spot : Position}

theorem exists_getElem? (hspot : raster.holds spot = true) :
    ∃ pixel, raster.pixels[raster.index spot]? = some pixel := by
  have hindex : raster.index spot < raster.pixels.size := raster.size_pixels ▸ index_lt hspot
  exact ⟨_, Array.getElem?_eq_getElem hindex⟩

theorem exists_pixel (hspot : raster.holds spot = true) :
    ∃ pixel ∈ raster.pixels, raster.value spot = pixel.toNat := by
  obtain ⟨pixel, hpixel⟩ := exists_getElem? hspot
  refine ⟨pixel, Array.mem_of_getElem? hpixel, ?_⟩
  rw [value, if_pos hspot, hpixel]
  rfl

theorem toNat_raise {pixel : UInt16}
    (h : 0 ≤ pixel.toNat + pedestal ∧ pixel.toNat + pedestal ≤ 65535) :
    ((UInt16.ofNat (pixel.toNat + pedestal).toNat).toNat : ℤ) = pixel.toNat + pedestal := by
  rw [UInt16.toNat_ofNat']
  omega

/-- On the raster, every value is raised. -/
theorem value_raise (hroom : raster.HasRoom pedestal) (hspot : raster.holds spot = true) :
    ((raster.raise pedestal).value spot : ℤ) = raster.value spot + pedestal := by
  obtain ⟨pixel, hpixel⟩ := exists_getElem? hspot
  have hraised : (raster.raise pedestal).pixels[(raster.raise pedestal).index spot]? =
      some (UInt16.ofNat (pixel.toNat + pedestal).toNat) := by
    show (raster.pixels.map _)[raster.index spot]? = _
    rw [Array.getElem?_map, hpixel]
    rfl
  have hholds : (raster.raise pedestal).holds spot = true := hspot
  rw [value, value, if_pos hholds, if_pos hspot, hraised, hpixel]
  exact toNat_raise (hroom pixel (Array.mem_of_getElem? hpixel))

theorem values_raise (hroom : raster.HasRoom pedestal) :
    (raster.raise pedestal).values = raster.values.map (· + (pedestal : ℝ)) := by
  unfold values
  rw [raise, Array.toList_map, List.map_map, List.map_map]
  refine List.map_congr_left fun pixel hpixel => ?_
  have hvalue := toNat_raise (hroom pixel (Array.mem_toList_iff.mp hpixel))
  dsimp only [Function.comp_apply]
  exact_mod_cast congrArg (Int.cast : ℤ → ℝ) hvalue

/-- **The mean moves with the pedestal.** -/
theorem mean_raise (hroom : raster.HasRoom pedestal) (hpixels : raster.values ≠ []) :
    (raster.raise pedestal).mean = raster.mean + pedestal := by
  have hcount : (raster.values.length : ℝ) ≠ 0 := by simpa using hpixels
  rw [mean, mean, values_raise hroom, List.length_map, List.sum_map_add, List.map_id',
    List.map_const', List.sum_replicate, nsmul_eq_mul, add_div, mul_div_cancel_left₀ _ hcount]

/-- **The deviation does not depend on the pedestal.** -/
theorem deviation_raise (hroom : raster.HasRoom pedestal) (hpixels : raster.values ≠ []) :
    (raster.raise pedestal).deviation = raster.deviation := by
  rw [deviation, deviation, mean_raise hroom hpixels, values_raise hroom, List.length_map,
    List.map_map]
  simp only [Function.comp_def, add_sub_add_right_eq_sub]

end Raster

namespace Exact

/-- Adding a number changes no comparison. -/
theorem add_real_lt_add_real {a b : Exact} (x : ℝ) : a + real x < b + real x ↔ a < b := by
  cases a with
  | undefined => exact Iff.rfl
  | real a =>
      cases b with
      | undefined => exact Iff.rfl
      | real b => rw [real_add, real_add, real_lt, real_lt, add_lt_add_iff_right]

end Exact

namespace Detection

open Scalar

variable {raster : Raster} {pedestal : ℤ} {spot : Position} {sigma : Exact}

/-! ## The same pixels are lit -/

theorem threshold_raise (hroom : raster.HasRoom pedestal) (hpixels : raster.pixels.size ≠ 0)
    (sigma : Exact) :
    threshold (raster.raise pedestal) sigma = threshold raster sigma + real pedestal := by
  have hraised : (raster.raise pedestal).pixels.size ≠ 0 := by
    rwa [Raster.raise, Array.size_map]
  have hvalues : raster.values ≠ [] := by
    rw [← List.length_pos_iff, Raster.values, List.length_map, Array.length_toList]
    omega
  cases sigma with
  | undefined =>
      rw [threshold_undefined, threshold_undefined]
      rfl
  | real sigma =>
      rw [threshold_real hraised, threshold_real hpixels, Raster.mean_raise hroom hvalues,
        Raster.deviation_raise hroom hvalues, real_add, add_right_comm]

/-- **The same pixels are lit.** -/
theorem lit_raise (hroom : raster.HasRoom pedestal) (sigma : Exact) (spot : Position) :
    lit (raster.raise pedestal) (threshold (raster.raise pedestal) sigma) spot =
      lit raster (threshold raster sigma) spot := by
  have hholds : (raster.raise pedestal).holds spot = raster.holds spot := rfl
  unfold lit
  rw [hholds]
  cases hspot : raster.holds spot with
  | false => rfl
  | true =>
      have hsize : raster.pixels.size ≠ 0 := by
        rw [raster.size_pixels]
        exact (Nat.zero_le _).trans_lt (Raster.index_lt hspot) |>.ne'
      have hvalue : (ofNat ((raster.raise pedestal).value spot) : Exact) =
          ofNat (raster.value spot) + real pedestal := by
        rw [ofNat_eq, ofNat_eq, real_add]
        exact_mod_cast congrArg (fun n : ℤ => real n) (Raster.value_raise hroom hspot)
      rw [Bool.true_and, Bool.true_and, threshold_raise hroom hsize, hvalue]
      exact decide_eq_decide.mpr (add_real_lt_add_real _)

/-! ## The same groups are filled -/

/-- What the program sees of a raster when it spreads is where pixels are lit. -/
theorem discover_raise (hroom : raster.HasRoom pedestal) (sigma : Exact) :
    discover (raster.raise pedestal) (threshold (raster.raise pedestal) sigma) =
      discover raster (threshold raster sigma) := by
  funext s spot
  unfold discover
  rw [lit_raise hroom]
  rfl

theorem spread_raise (hroom : raster.HasRoom pedestal) (sigma : Exact) (fuel next : ℕ)
    (s : Spread) :
    spread (raster.raise pedestal) (threshold (raster.raise pedestal) sigma) fuel next s =
      spread raster (threshold raster sigma) fuel next s := by
  induction fuel generalizing next s with
  | zero => rfl
  | succ fuel ih =>
      unfold spread
      rw [discover_raise hroom]
      cases s.found[next]? with
      | none => rfl
      | some spot => exact ih _ _

section Holds

variable {level : Exact} {s : Spread}

/-- Only pixels of the raster are taken in. -/
theorem holds_of_mem_discover (hs : ∀ spot ∈ s.found, raster.holds spot = true) (spot : Position) :
    ∀ other ∈ (discover raster level s spot).found, raster.holds other = true := by
  rcases discover_cases raster level s spot with ⟨hlit, -, heq⟩ | ⟨-, heq⟩
  · rw [heq]
    intro other hother
    rcases Array.mem_push.mp hother with hold | rfl
    · exact hs other hold
    · exact holds_of_lit hlit
  · rwa [heq]

theorem holds_of_mem_look (hs : ∀ spot ∈ s.found, raster.holds spot = true)
    (spots : List Position) :
    ∀ other ∈ (spots.foldl (discover raster level) s).found, raster.holds other = true := by
  induction spots generalizing s with
  | nil => exact hs
  | cons spot rest ih => exact ih (holds_of_mem_discover hs spot)

theorem holds_of_mem_spread (hs : ∀ spot ∈ s.found, raster.holds spot = true) (fuel next : ℕ) :
    ∀ spot ∈ (spread raster level fuel next s).found, raster.holds spot = true := by
  induction fuel generalizing next s with
  | zero => exact hs
  | succ fuel ih =>
      unfold spread
      cases s.found[next]? with
      | none => exact hs
      | some spot => exact ih (holds_of_mem_look hs (neighbours spot)) (next + 1)

end Holds

/-- A blob with a pedestal under its peak. -/
def Blob.raise (pedestal : ℤ) (blob : Blob) : Blob :=
  { blob with peakValue := (blob.peakValue + pedestal).toNat }

/-- The peak of a blob does not go below zero with a pedestal. -/
def Blob.HasRoom (pedestal : ℤ) (blob : Blob) : Prop := 0 ≤ blob.peakValue + pedestal

/-- **One more pixel.**  Which of two pixels is brighter does not depend on the pedestal. -/
theorem Blob.add_raise (hroom : raster.HasRoom pedestal) (hspot : raster.holds spot = true)
    {blob : Blob} (hblob : blob.HasRoom pedestal) :
    (blob.raise pedestal).add (raster.raise pedestal) spot = (blob.add raster spot).raise pedestal ∧
      (blob.add raster spot).HasRoom pedestal := by
  unfold Blob.HasRoom at *
  have hvalue := Raster.value_raise hroom hspot
  have hraised : (raster.raise pedestal).value spot = (raster.value spot + pedestal).toNat := by
    omega
  have hbrighter : (blob.raise pedestal).peakValue < (raster.value spot + pedestal).toNat ↔
      blob.peakValue < raster.value spot := by
    dsimp only [Blob.raise]
    omega
  unfold Blob.add
  simp only [hraised, hbrighter]
  split_ifs
  · exact ⟨rfl, by omega⟩
  · exact ⟨rfl, hblob⟩

/-- **A whole group.** -/
theorem Blob.ofPixels_raise (hroom : raster.HasRoom pedestal) {first : Position}
    (hfirst : raster.holds first = true) {pixels : List Position}
    (hpixels : ∀ spot ∈ pixels, raster.holds spot = true) :
    Blob.ofPixels (raster.raise pedestal) first pixels =
        (Blob.ofPixels raster first pixels).raise pedestal ∧
      (Blob.ofPixels raster first pixels).HasRoom pedestal := by
  have hvalue := Raster.value_raise hroom hfirst
  have hseed : Blob.seed (raster.raise pedestal) first =
      (Blob.seed raster first).raise pedestal := by
    unfold Blob.seed Blob.raise
    congr 1
    dsimp only
    omega
  have hstart : (Blob.seed raster first).HasRoom pedestal := by
    show (0 : ℤ) ≤ raster.value first + pedestal
    omega
  unfold Blob.ofPixels
  rw [hseed]
  generalize Blob.seed raster first = blob at hstart
  induction pixels generalizing blob with
  | nil => exact ⟨rfl, hstart⟩
  | cons spot rest ih =>
      obtain ⟨hspot, hrest⟩ := List.forall_mem_cons.mp hpixels
      obtain ⟨hadd, hnext⟩ := Blob.add_raise hroom hspot hstart
      rw [List.foldl_cons, List.foldl_cons, hadd]
      exact ih hrest _ hnext

/-- **One more position of the raster**, where peaks have room for the pedestal. -/
theorem collectAt_raise (hroom : raster.HasRoom pedestal) (hspot : raster.holds spot = true)
    (sigma : Exact) (seen : Array Bool) {done : List Blob}
    (hdone : ∀ blob ∈ done, blob.HasRoom pedestal) :
    let next := collectAt raster (threshold raster sigma) (seen, done) spot
    collectAt (raster.raise pedestal) (threshold (raster.raise pedestal) sigma)
        (seen, done.map (Blob.raise pedestal)) spot = (next.1, next.2.map (Blob.raise pedestal)) ∧
      ∀ blob ∈ next.2, blob.HasRoom pedestal := by
  intro next
  have hstart : ∀ other ∈ (discover raster (threshold raster sigma) ⟨seen, #[]⟩ spot).found,
      raster.holds other = true := holds_of_mem_discover (by simp) spot
  have hgroup : ∀ other ∈ (spread raster (threshold raster sigma) (raster.height * raster.width) 0
      (discover raster (threshold raster sigma) ⟨seen, #[]⟩ spot)).found.toList,
      raster.holds other = true := fun other hother =>
    holds_of_mem_spread hstart _ _ other (Array.mem_toList_iff.mp hother)
  obtain ⟨hblob, hpeak⟩ := Blob.ofPixels_raise hroom hspot hgroup
  have hsize : (raster.raise pedestal).height * (raster.raise pedestal).width =
      raster.height * raster.width := rfl
  unfold next collectAt
  dsimp only
  rw [discover_raise hroom, hsize, spread_raise hroom, hblob]
  split_ifs
  · exact ⟨rfl, hdone⟩
  · exact ⟨rfl, List.forall_mem_cons.mpr ⟨hpeak, hdone⟩⟩

/-- **All positions of the raster.** -/
theorem collect_raise (hroom : raster.HasRoom pedestal) (sigma : Exact) :
    collect (raster.raise pedestal) (threshold (raster.raise pedestal) sigma) =
        (collect raster (threshold raster sigma)).map (Blob.raise pedestal) ∧
      ∀ blob ∈ collect raster (threshold raster sigma), blob.HasRoom pedestal := by
  have hfold (spots : List Position) (hspots : ∀ spot ∈ spots, raster.holds spot = true)
      (seen : Array Bool) (done : List Blob)
      (hdone : ∀ blob ∈ done, blob.HasRoom pedestal) :
      (spots.foldl (collectAt (raster.raise pedestal) (threshold (raster.raise pedestal) sigma))
          (seen, done.map (Blob.raise pedestal))).2 =
        (spots.foldl (collectAt raster (threshold raster sigma)) (seen, done)).2.map
          (Blob.raise pedestal) ∧
      ∀ blob ∈ (spots.foldl (collectAt raster (threshold raster sigma)) (seen, done)).2,
        blob.HasRoom pedestal := by
    induction spots generalizing seen done with
    | nil => exact ⟨rfl, hdone⟩
    | cons spot rest ih =>
        obtain ⟨hspot, hrest⟩ := List.forall_mem_cons.mp hspots
        obtain ⟨hnext, hpeaks⟩ := collectAt_raise hroom hspot sigma seen hdone
        rw [List.foldl_cons, List.foldl_cons, hnext]
        exact ih hrest _ _ hpeaks
  obtain ⟨hblobs, hpeaks⟩ := hfold raster.positions (fun spot => Raster.mem_positions_iff.mp)
    (Array.replicate (raster.height * raster.width) false) [] nofun
  refine ⟨?_, fun blob hblob => hpeaks blob (List.mem_reverse.mp hblob)⟩
  unfold collect
  rw [List.map_reverse]
  exact congrArg List.reverse hblobs

/-- **The same blobs in the same order**, each of them with the pedestal under its peak. -/
theorem blobs_raise (hroom : raster.HasRoom pedestal) (sigma : Exact) :
    blobs (raster.raise pedestal) (threshold (raster.raise pedestal) sigma) =
        (blobs raster (threshold raster sigma)).map (Blob.raise pedestal) ∧
      ∀ blob ∈ blobs raster (threshold raster sigma), blob.HasRoom pedestal := by
  obtain ⟨hcollect, hpeaks⟩ := collect_raise hroom sigma
  unfold blobs
  refine ⟨?_, fun blob hblob => hpeaks blob (List.mem_mergeSort.mp hblob)⟩
  rw [hcollect, List.map_mergeSort]
  intro a ha b hb
  have hroomA : 0 ≤ (a.peakValue : ℤ) + pedestal := hpeaks a ha
  have hroomB : 0 ≤ (b.peakValue : ℤ) + pedestal := hpeaks b hb
  refine decide_eq_decide.mpr ?_
  dsimp only [Blob.raise]
  omega

end Detection

/-- A brightness with a pedestal under it. -/
noncomputable def Brightness.raise (pedestal : ℤ) : Brightness Exact → Brightness Exact
  | .below rank => .below rank
  | .reading value => .reading (value + real pedestal)
  | .above rank => .above rank

/-- A star with a pedestal under it. -/
noncomputable def DetectedStar.raise (pedestal : ℤ) (star : DetectedStar Exact) :
    DetectedStar Exact :=
  { star with brightness := star.brightness.raise pedestal }

/-- A measurement with a pedestal under it. -/
noncomputable def StarStats.raise (pedestal : ℤ) (stats : StarStats Exact) : StarStats Exact :=
  { stats with peak := stats.peak + real pedestal, sky := stats.sky + real pedestal }

namespace Detection

variable {raster : Raster} {pedestal : ℤ} {pixels : Finset Position} {level : ℝ}

/-- **The same stars in the same order**, each of them brighter by the pedestal. -/
theorem findStars_raise (hroom : raster.HasRoom pedestal) (settings : DetectionSettings Exact) :
    findStars settings (raster.raise pedestal) =
      (findStars settings raster).map (DetectedStar.raise pedestal) := by
  obtain ⟨hblobs, hpeaks⟩ := blobs_raise hroom settings.sigma
  unfold findStars starBlobs
  rw [hblobs, List.filter_map, List.map_map, List.map_map]
  refine List.map_congr_left fun blob hblob => ?_
  have hpeak := hpeaks blob (List.mem_filter.mp hblob).1
  have hvalue : ((blob.peakValue + pedestal).toNat : ℝ) = blob.peakValue + pedestal := by
    exact_mod_cast congrArg (Int.cast : ℤ → ℝ) (Int.toNat_of_nonneg hpeak)
  simp [starOf, Blob.raise, DetectedStar.raise, Brightness.raise, hvalue]

/-! ## The same centroid is measured -/

section Pixels

variable (hroom : raster.HasRoom pedestal) (hholds : ∀ spot ∈ pixels, raster.holds spot = true)
include hroom hholds

theorem value_raise_real {spot : Position} (hspot : spot ∈ pixels) :
    ((raster.raise pedestal).value spot : ℝ) = raster.value spot + pedestal := by
  exact_mod_cast congrArg (Int.cast : ℤ → ℝ) (Raster.value_raise hroom (hholds spot hspot))

/-- **The rim moves with the pedestal.** -/
theorem rimMean_raise (hpixels : pixels.Nonempty) :
    rimMean (raster.raise pedestal) pixels = rimMean raster pixels + pedestal := by
  have hcard : ((rim pixels).card : ℝ) ≠ 0 := by
    exact_mod_cast (Finset.card_pos.mpr (rim_nonempty hpixels)).ne'
  have hvalues : ∀ spot ∈ rim pixels,
      ((raster.raise pedestal).value spot : ℝ) = raster.value spot + pedestal := fun spot hspot =>
    value_raise_real hroom hholds (Finset.mem_filter.mp hspot).1
  rw [rimMean, rimMean, Finset.sum_congr rfl hvalues, Finset.sum_add_distrib, Finset.sum_const,
    nsmul_eq_mul, add_div, mul_div_cancel_left₀ _ hcard]

/-- The same pixels stand out. -/
theorem standouts_raise (level : ℝ) :
    standouts (raster.raise pedestal) pixels (level + pedestal) = standouts raster pixels level :=
  Finset.filter_congr fun spot hspot => by
    rw [value_raise_real hroom hholds hspot, add_lt_add_iff_right]

/-- They stand out by as much as before. -/
theorem centroid_raise (level : ℝ) (axis : Position → ℕ) :
    centroid (raster.raise pedestal) pixels (level + pedestal) axis =
      centroid raster pixels level axis := by
  have hexcess : ∀ spot ∈ standouts raster pixels level,
      ((raster.raise pedestal).value spot : ℝ) - (level + pedestal) =
        raster.value spot - level := by
    intro spot hspot
    rw [value_raise_real hroom hholds (Finset.mem_filter.mp hspot).1, add_sub_add_right_eq_sub]
  rw [centroid, centroid, standouts_raise hroom hholds, Finset.sum_congr rfl hexcess]
  congr 1
  exact Finset.sum_congr rfl fun spot hspot => congrArg ((axis spot : ℝ) * ·) (hexcess spot hspot)

/-- The greatest value moves with the pedestal. -/
theorem sup_raise (hpixels : pixels.Nonempty) :
    ((pixels.sup (raster.raise pedestal).value : ℕ) : ℝ) =
      (pixels.sup raster.value : ℕ) + pedestal := by
  obtain ⟨peak, hpeak, hsup⟩ := pixels.exists_mem_eq_sup hpixels raster.value
  have hvalue {spot : Position} (hspot : spot ∈ pixels) :=
    Raster.value_raise hroom (hholds spot hspot)
  have hraised : pixels.sup (raster.raise pedestal).value = (raster.raise pedestal).value peak := by
    refine le_antisymm (Finset.sup_le fun spot hspot => ?_) (Finset.le_sup hpeak)
    have hle : raster.value spot ≤ raster.value peak := hsup ▸ Finset.le_sup hspot
    have hspotValue := hvalue hspot
    have hpeakValue := hvalue hpeak
    omega
  rw [hraised, hsup, value_raise_real hroom hholds hpeak]

end Pixels

/-- The measurement in a box moves with the pedestal. -/
theorem measureIn_raise (hroom : raster.HasRoom pedestal) {box : Box}
    (hbox : box.positions.toFinset.Nonempty)
    (hholds : ∀ spot ∈ box.positions.toFinset, raster.holds spot = true) (x y : ℕ) :
    measureIn (raster.raise pedestal) x y box =
      (measureIn raster x y box).map (StarStats.raise pedestal) := by
  rw [measureIn_eq rfl hbox (rimMean_raise hroom hholds hbox), measureIn_eq rfl hbox rfl,
    standouts_raise hroom hholds]
  split_ifs
  · rw [centroid_raise hroom hholds, centroid_raise hroom hholds, sup_raise hroom hholds hbox]
    rfl
  · rfl

/-- **The same centroid**, and a peak and a sky that are greater by the pedestal; or the same
failure. -/
theorem starStats_raise (hroom : raster.HasRoom pedestal) (settings : DetectionSettings Exact)
    (x y : ℕ) :
    starStats settings (raster.raise pedestal) x y =
      (starStats settings raster x y).map (Except.map (StarStats.raise pedestal)) := by
  by_cases hinside : x < raster.width ∧ y < raster.height
  · have hboxes : Box.around? (raster.raise pedestal) x y settings.centroidRadius =
        Box.around? raster x y settings.centroidRadius := rfl
    have hinside' : x < (raster.raise pedestal).width ∧ y < (raster.raise pedestal).height :=
      hinside
    rw [starStats, starStats, if_pos hinside, if_pos hinside', hboxes, Option.map_map]
    refine Option.map_congr fun box hbox => ?_
    have hpixels := Box.toFinset_positions hinside.1 hinside.2 hbox
    refine measureIn_raise hroom ?_ (fun spot hspot => ?_) x y
    · exact hpixels ▸ ⟨(y, x), mem_vicinity_self hinside.1 hinside.2⟩
    · exact (mem_vicinity_iff.mp (hpixels ▸ hspot)).1
  · have houtside (other : Raster) (h : ¬ (x < other.width ∧ y < other.height)) :
        starStats settings other x y = some (.error (.outOfBounds x y other.width other.height)) :=
      if_neg h
    rw [houtside raster hinside, houtside (raster.raise pedestal) hinside]
    rfl

/-! ## Rasters of one value -/

/-- Where nothing is lit, no blob is found. -/
theorem collect_of_dark {level : Exact} (hdark : ∀ spot, lit raster level spot = false) :
    collect raster level = [] := by
  have hfold (spots : List Position) (seen : Array Bool) :
      spots.foldl (collectAt raster level) (seen, []) = (seen, []) := by
    induction spots with
    | nil => rfl
    | cons spot rest ih =>
        have hskip : discover raster level ⟨seen, #[]⟩ spot = ⟨seen, #[]⟩ := by
          rw [discover, hdark spot, Bool.false_and, if_neg Bool.false_ne_true]
        rw [List.foldl_cons, collectAt, hskip]
        exact ih
  rw [collect, hfold, List.reverse_nil]

/-- The mean of pixels of one value is that value. -/
theorem mean_uniform {level : UInt16} (hlevel : ∀ pixel ∈ raster.pixels, pixel = level)
    (hpixels : raster.pixels.size ≠ 0) : raster.mean = level.toNat := by
  have hvalues : raster.values = List.replicate raster.pixels.size (level.toNat : ℝ) := by
    rw [List.eq_replicate_iff, Raster.values, List.length_map, Array.length_toList]
    refine ⟨rfl, fun value hvalue => ?_⟩
    obtain ⟨pixel, hpixel, rfl⟩ := List.mem_map.mp hvalue
    rw [hlevel pixel (Array.mem_toList_iff.mp hpixel)]
  rw [Raster.mean, hvalues, List.sum_replicate, List.length_replicate, nsmul_eq_mul,
    mul_div_cancel_left₀ _ (Nat.cast_ne_zero.mpr hpixels)]

/-- **Nothing is detected on a raster of one value**, whatever the value is. -/
theorem findStars_uniform {level : UInt16} (hlevel : ∀ pixel ∈ raster.pixels, pixel = level)
    (settings : DetectionSettings Exact) (hsigma : 0 ≤ settings.sigma) :
    findStars settings raster = [] := by
  obtain ⟨zero, sigma, hzero, hsigmaReal, hle⟩ := exists_of_le hsigma
  obtain rfl : 0 = zero := by simpa using hzero
  have hdark : ∀ spot, lit raster (threshold raster settings.sigma) spot = false := by
    intro spot
    by_contra hlit
    rw [Bool.not_eq_false] at hlit
    have hspot := holds_of_lit hlit
    obtain ⟨pixel, hpixel, hvalue⟩ := Raster.exists_pixel hspot
    have hsize : raster.pixels.size ≠ 0 := (Array.size_pos_of_mem hpixel).ne'
    have hdeviation : 0 ≤ sigma * raster.deviation := mul_nonneg hle (Real.sqrt_nonneg _)
    rw [lit, hspot, Bool.true_and, decide_eq_true_iff, hsigmaReal, threshold_real hsize, ofNat_eq,
      real_lt, hvalue, hlevel pixel hpixel, mean_uniform hlevel hsize] at hlit
    linarith
  rw [findStars, starBlobs, blobs, collect_of_dark hdark, List.mergeSort_nil, List.filter_nil,
    List.map_nil]

/-- **Detection does not depend on the pedestal.**  With the same number added to every pixel, as
long as each keeps a value that a pixel can have, the same stars are found in the same order, each
at the same position and brighter by that number; and a measurement at any position has the same
centroid, with a peak and a sky that are greater by that number, or it fails or breaks off in the
same way.  On a raster of one value no star is found, whatever the value, the level being no lower
than it. -/
theorem detection_raise (settings : DetectionSettings Exact) :
    (∀ (raster : Raster) (pedestal : ℤ), raster.HasRoom pedestal →
      findStars settings (raster.raise pedestal) =
        (findStars settings raster).map (DetectedStar.raise pedestal) ∧
      ∀ x y, starStats settings (raster.raise pedestal) x y =
        (starStats settings raster x y).map (Except.map (StarStats.raise pedestal))) ∧
    (0 ≤ settings.sigma → ∀ (raster : Raster) (level : UInt16),
      (∀ pixel ∈ raster.pixels, pixel = level) → findStars settings raster = []) := by
  refine ⟨fun raster pedestal hroom => ⟨findStars_raise hroom settings, ?_⟩, ?_⟩
  · exact starStats_raise hroom settings
  · exact fun hsigma raster level hlevel => findStars_uniform hlevel settings hsigma

/-- The blobs of a raster depend on which pixels are lit, and on nothing else of a level. -/
theorem collect_congr {α β : Type} [Scalar α] [Scalar β] {level : α} {other : β}
    (h : ∀ spot, lit raster level spot = lit raster other spot) :
    collect raster level = collect raster other := by
  have hdiscover : discover raster level = discover raster other := by
    funext s spot
    rw [discover, discover, h]
  have hspread (fuel next : ℕ) (s : Spread) :
      spread raster level fuel next s = spread raster other fuel next s := by
    induction fuel generalizing next s with
    | zero => rfl
    | succ fuel ih =>
        unfold spread
        rw [hdiscover]
        split
        · rfl
        · exact ih _ _
  have hcollectAt : collectAt raster level = collectAt raster other := by
    funext state spot
    unfold collectAt
    simp only [hdiscover, hspread]
  rw [collect, collect, hcollectAt]

/-- One bright pixel among eight dark ones is a standard deviation above their mean. -/
theorem lit_spike (spot : Position) :
    lit (spike 3 3 (1, 1)) (threshold (spike 3 3 (1, 1)) (real 1)) spot =
      lit (spike 3 3 (1, 1)) (0 : Float) spot := by
  have hvalues : (spike 3 3 (1, 1)).values = [0, 0, 0, 0, 1, 0, 0, 0, 0] := by
    have hpixels : (spike 3 3 (1, 1)).pixels.toList = [0, 0, 0, 0, 1, 0, 0, 0, 0] := by decide
    simp [Raster.values, hpixels]
  have hmean : (spike 3 3 (1, 1)).mean = 1 / 9 := by
    rw [Raster.mean, hvalues]
    norm_num
  have hdeviation : (spike 3 3 (1, 1)).deviation = √(8 / 81) := by
    rw [Raster.deviation, hvalues, hmean]
    norm_num
  have hbelow : √(8 / 81 : ℝ) < 8 / 9 := by
    rw [Real.sqrt_lt' (by norm_num)]
    norm_num
  have hroot := Real.sqrt_nonneg (8 / 81)
  unfold lit
  cases hspot : (spike 3 3 (1, 1)).holds spot with
  | false => rfl
  | true =>
      rw [threshold_real (by decide), hmean, hdeviation, value_spike hspot, ofNat_eq,
        Bool.true_and, Bool.true_and]
      split_ifs
      · have hbright : 1 / 9 + 1 * √(8 / 81) < ((1 : ℕ) : ℝ) := by
          push_cast
          linarith
        rw [decide_eq_true (real_lt.mpr hbright)]
        exact (decide_eq_true (by decide +kernel)).symm
      · have hdark : ¬ 1 / 9 + 1 * √(8 / 81) < ((0 : ℕ) : ℝ) := by
          push_cast
          linarith
        rw [decide_eq_false (real_lt.not.mpr hdark)]
        exact (decide_eq_false (by decide +kernel)).symm

/-- A pedestal of a thousand under one bright pixel, which is found as a star with and without
it, and a raster that is as bright everywhere. -/
theorem detection_raise_spike :
    let settings : DetectionSettings Exact := ⟨real 1, 1, 0, 1⟩
    (spike 3 3 (1, 1)).HasRoom 1000 ∧ 0 ≤ settings.sigma ∧
      findStars settings (spike 3 3 (1, 1)) = [⟨real 1, real 1, .reading (real 1)⟩] ∧
      findStars settings ((spike 3 3 (1, 1)).raise 1000) =
        [⟨real 1, real 1, .reading (real 1001)⟩] ∧
      starStats settings ((spike 3 3 (1, 1)).raise 1000) 1 1 =
        (starStats settings (spike 3 3 (1, 1)) 1 1).map (Except.map (StarStats.raise 1000)) ∧
      findStars settings (.ofFn 3 3 fun _ _ => 1000) = [] := by
  intro settings
  have hroom : (spike 3 3 (1, 1)).HasRoom 1000 := by
    intro pixel hpixel
    obtain ⟨i, rfl⟩ := Array.mem_ofFn.mp hpixel
    dsimp only
    split_ifs <;> decide
  have hsigma : 0 ≤ settings.sigma := by
    rw [zero_eq]
    exact real_le.mpr (by norm_num)
  have hblobs : (starBlobs settings (spike 3 3 (1, 1))).map starOf =
      [(⟨real 1, real 1, .reading (real 1)⟩ : DetectedStar Exact)] := by
    have hcollect : collect (spike 3 3 (1, 1)) (0 : Float) = [⟨1, 1, 1, 1, 1, (1, 1), 1⟩] :=
      rfl
    rw [starBlobs, blobs, collect_congr lit_spike, hcollect, List.mergeSort_singleton]
    simp [awayFromEdges, settings, starOf, spike, Raster.ofFn]
  obtain ⟨hraise, huniform⟩ := detection_raise settings
  obtain ⟨hstars, hstats⟩ := hraise (spike 3 3 (1, 1)) 1000 hroom
  refine ⟨hroom, hsigma, hblobs, ?_, hstats 1 1, huniform hsigma _ 1000 fun pixel hpixel => ?_⟩
  · rw [hstars, findStars, hblobs, List.map_singleton, DetectedStar.raise, Brightness.raise,
      real_add]
    norm_num
  · obtain ⟨_, rfl⟩ := Array.mem_ofFn.mp hpixel
    rfl

end Detection

end PlateSolver
