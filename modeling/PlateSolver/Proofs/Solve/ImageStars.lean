import PlateSolver.Proofs.Detection.Blobs
import PlateSolver.Proofs.Detection.Centroid
import PlateSolver.Proofs.Detection.Level
import PlateSolver.Proofs.Solve.HandOver
import PlateSolver.Search.Team

/-!
# Image stars are stars of the image

With the shipped detector, what a solve asks the registrar about comes from the image: every
image star stands for a component of lit pixels of its own, lies near the peak of that
component, and lies on the image.

* `StarOf` — what an image star has to do with a component of lit pixels.
* `Group.Counts`, `exists_starGroups`, `exists_chosenGroups` — the stars that are found, and
  those that are chosen, as components.
* `Counts.starOf` — a component that counts as a star is placed near its peak.
* `Search.Course.ofDetector`, `Search.Breakdown.ofDetector` — a search does not call the detector.
* `Measured.forall₂_starOf`, `Stages.fromImage` — the stages of a solve.
* `Solver.solve_fromImage` — every request of every solve.

The star detector, the choice of stars and the two stages of the search each drop stars, or
put them in order.  None of them makes one up: from components to image stars it is one list
throughout, of which each step takes a part.
-/

namespace PlateSolver

open Exact SearchM

namespace Detection

/-- **An image star that stands for a component** of lit pixels. -/
structure StarOf (settings : DetectionSettings Exact) (raster : Raster) (point : ImagePoint Exact)
    (group : Group) : Prop where
  /-- The component is one of the pixels that are some standard deviations above the mean. -/
  component : ∃ sigma : ℝ, settings.sigma = real sigma ∧
    group.Component raster (real (raster.mean + sigma * raster.deviation))
  /-- It has enough pixels. -/
  min_area : settings.minArea ≤ group.pixels.length
  /-- Its peak is one of them, and none is brighter. -/
  peak : (group.blob raster).peak ∈ group.pixels ∧
    ∀ spot ∈ group.pixels, raster.value spot ≤ raster.value (group.blob raster).peak
  /-- The peak is away from every edge. -/
  away : (settings.border ≤ (group.blob raster).peak.1 ∧
      settings.border ≤ (group.blob raster).peak.2) ∧
    (group.blob raster).peak.1 + settings.border < raster.height ∧
      (group.blob raster).peak.2 + settings.border < raster.width
  /-- The image star is on the image and near the peak. -/
  near : ∃ x y : ℝ, point = ⟨real x, real y⟩ ∧
    (0 ≤ x ∧ x ≤ raster.width - 1) ∧ (0 ≤ y ∧ y ≤ raster.height - 1) ∧
    |x - (group.blob raster).peak.2| ≤ settings.centroidRadius ∧
    |y - (group.blob raster).peak.1| ≤ settings.centroidRadius

section Stars

variable {settings : DetectionSettings Exact} {raster : Raster} {group : Group}

/-! ## Stars as components -/

/-- The blobs of a raster, in their order, are the components. -/
theorem exists_partition (hwords : raster.InWords) (level : Exact) :
    ∃ groups : List Group, blobs raster level = groups.map (Group.blob raster) ∧
      Partition raster level groups := by
  obtain ⟨seen, found, groups, hcollect, hcollected⟩ := exists_collected hwords level
  let le (a b : Group) : Bool := (b.blob raster).peakValue ≤ (a.blob raster).peakValue
  have hmap : (groups.mergeSort le).map (Group.blob raster) =
      (groups.map (Group.blob raster)).mergeSort fun a b => b.peakValue ≤ a.peakValue :=
    List.map_mergeSort fun _ _ _ _ => rfl
  refine ⟨groups.mergeSort le, ?_, hcollected.partition.perm (List.mergeSort_perm groups le)⟩
  rw [hmap, blobs, hcollect, hcollected.blobs]

/-- A raster with lit pixels has a level. -/
theorem level_of_component (h : group.Component raster (threshold raster settings.sigma)) :
    ∃ sigma : ℝ, settings.sigma = real sigma ∧
      group.Component raster (real (raster.mean + sigma * raster.deviation)) := by
  have hlit := h.lit_first
  have hpixels : raster.pixels.size ≠ 0 := by
    obtain ⟨hrow, hcol⟩ := Raster.holds_iff.mp (holds_of_lit hlit)
    rw [raster.size_pixels]
    exact (Nat.mul_pos (Nat.zero_lt_of_lt hrow) (Nat.zero_lt_of_lt hcol)).ne'
  cases hsigma : settings.sigma with
  | undefined =>
      rw [hsigma, threshold_undefined, lit, Bool.and_eq_true] at hlit
      exact (of_decide_eq_true hlit.2).elim
  | real sigma =>
      rw [hsigma, threshold_real hpixels] at h
      exact ⟨sigma, rfl, h⟩

/-- The peak of a component is on the raster. -/
theorem Group.Component.peak_lt {level : Exact} (h : group.Component raster level) :
    (group.blob raster).peak.1 < raster.height ∧ (group.blob raster).peak.2 < raster.width := by
  have hlinked := (h.mem_iff _).mp (group.blob_measures raster).peak_mem
  exact Raster.holds_iff.mp (holds_of_lit (hlinked.lit h.lit_first))

/-- **A component that counts as a star**: large enough, and away from the edges. -/
structure Group.Counts (settings : DetectionSettings Exact) (raster : Raster) (group : Group) :
    Prop where
  /-- It is a component of the lit pixels. -/
  component : group.Component raster (threshold raster settings.sigma)
  /-- It has enough pixels. -/
  min_area : settings.minArea ≤ (group.blob raster).area
  /-- Its peak is away from every edge. -/
  away : awayFromEdges raster settings.border (group.blob raster) = true

/-- The star that a component is found as. -/
noncomputable def Group.star (raster : Raster) (group : Group) : DetectedStar Exact :=
  starOf (group.blob raster)

/-- A lit pixel is enough for a star, where nothing is too small and nothing too near an edge. -/
theorem findStars_ne_nil (hwords : raster.InWords) (harea : settings.minArea = 0)
    (hborder : settings.border = 0) {spot : Position}
    (hlit : lit raster (threshold raster settings.sigma) spot = true) :
    findStars settings raster ≠ [] := by
  obtain ⟨groups, hblobs, hpartition⟩ :=
    exists_partition hwords (threshold raster settings.sigma)
  obtain ⟨group, hgroup, -⟩ := List.mem_flatMap.mp ((hpartition.mem_iff spot).mpr hlit)
  have hpeak := (hpartition.component group hgroup).peak_lt
  have hmem : group.blob raster ∈ starBlobs settings raster := by
    rw [starBlobs, hblobs, List.mem_filter]
    exact ⟨List.mem_map_of_mem hgroup, by simp [harea, hborder, awayFromEdges, hpeak]⟩
  exact List.ne_nil_of_mem (List.mem_map_of_mem hmem)

/-- **The stars that are found are components**, no two the same. -/
theorem exists_starGroups (hwords : raster.InWords) (settings : DetectionSettings Exact) :
    ∃ groups : List Group, findStars settings raster = groups.map (Group.star raster) ∧
      groups.Pairwise (fun a b => a.pixels.Disjoint b.pixels) ∧
      ∀ group ∈ groups, group.Counts settings raster := by
  obtain ⟨groups, hblobs, hpartition⟩ :=
    exists_partition hwords (threshold raster settings.sigma)
  let counts (group : Group) : Bool := settings.minArea ≤ (group.blob raster).area &&
    awayFromEdges raster settings.border (group.blob raster)
  refine ⟨groups.filter counts, ?_, ?_, ?_⟩
  · rw [findStars, starBlobs, hblobs, List.filter_map, List.map_map]
    rfl
  · exact ((List.nodup_flatMap.mp hpartition.nodup).2).filter _
  · intro group hgroup
    obtain ⟨hmem, hcounts⟩ := List.mem_filter.mp hgroup
    obtain ⟨harea, haway⟩ := Bool.and_eq_true_iff.mp hcounts
    exact ⟨hpartition.component group hmem, of_decide_eq_true harea, haway⟩

/-- **The stars that are chosen are components**, no two the same. -/
theorem exists_chosenGroups (hwords : raster.InWords) (settings : DetectionSettings Exact)
    (limits : Settings Exact) :
    ∃ groups : List Group,
      chooseStars limits (findStars settings raster) = groups.map (Group.star raster) ∧
      groups.Pairwise (fun a b => a.pixels.Disjoint b.pixels) ∧
      ∀ group ∈ groups, group.Counts settings raster := by
  obtain ⟨groups, hfound, hdisjoint, hcounts⟩ := exists_starGroups hwords settings
  let le (a b : Group) : Bool := (b.star raster).brightness.precedes (a.star raster).brightness
  have hperm : (groups.mergeSort le).Perm groups := List.mergeSort_perm groups le
  have hmap : (groups.mergeSort le).map (Group.star raster) =
      (groups.map (Group.star raster)).mergeSort fun a b => b.brightness.precedes a.brightness :=
    List.map_mergeSort fun _ _ _ _ => rfl
  refine ⟨(groups.mergeSort le).take limits.imageStarLimit, ?_, ?_, ?_⟩
  · rw [chooseStars, hfound, List.map_take, hmap]
  · exact (hperm.symm.pairwise hdisjoint List.Disjoint.symm).sublist (List.take_sublist _ _)
  · intro group hgroup
    exact hcounts group (hperm.mem_iff.mp (List.mem_of_mem_take hgroup))

/-! ## Where a star is placed -/

/-- A number of pixels and a half is rounded down to that number. -/
theorem whole_add_half (n : ℕ) : Scalar.whole ((Scalar.ofNat n : Exact) + 1 / 2) = n := by
  have hfloor : ⌊(n : ℝ) + 1 / 2⌋₊ = n := by
    rw [Nat.floor_eq_iff (by positivity)]
    constructor <;> linarith
  simpa using hfloor

/-- A component is measured at its peak. -/
theorem Group.whole_star (raster : Raster) (group : Group) :
    Scalar.whole ((group.star raster).x + 1 / 2) = (group.blob raster).peak.2 ∧
      Scalar.whole ((group.star raster).y + 1 / 2) = (group.blob raster).peak.1 :=
  ⟨whole_add_half _, whole_add_half _⟩

/-- **A component that counts as a star is placed near its peak**, measured or not. -/
theorem Group.Counts.starOf (h : group.Counts settings raster)
    {answer : Except DetectionError (StarStats Exact)}
    (hanswer : starStats settings raster (group.blob raster).peak.2 (group.blob raster).peak.1 =
      some answer) :
    StarOf settings raster (placed (group.star raster) answer) group := by
  have hmeasures := group.blob_measures raster
  obtain ⟨hrow, hcol⟩ := h.component.peak_lt
  refine ⟨level_of_component h.component, hmeasures.area ▸ h.min_area, ⟨hmeasures.peak_mem, ?_⟩,
    ?_, ?_⟩
  · intro spot hspot
    rw [hmeasures.value_peak]
    exact hmeasures.peakValue.2 (List.mem_map_of_mem hspot)
  · simpa [awayFromEdges, and_assoc] using h.away
  · cases answer with
    | ok stats =>
        obtain ⟨x, y, hx, hy, hnear⟩ := starStats_near hanswer hcol hrow
        exact ⟨x, y, by rw [placed, hx, hy], hnear⟩
    | error e =>
        -- What cannot be measured stays at the peak itself.
        have hlast {m n : ℕ} (hlt : m < n) : (m : ℝ) ≤ n - 1 :=
          le_sub_iff_add_le.mpr (by exact_mod_cast hlt)
        exact ⟨_, _, rfl, ⟨Nat.cast_nonneg _, hlast hcol⟩, ⟨Nat.cast_nonneg _, hlast hrow⟩,
          by simp, by simp⟩

end Stars

end Detection

/-! ## The calls of a solve -/

section Calls

variable {σ α : Type}

namespace Search

variable [Analytic α] {s : Search σ α} {candidate : Candidate α} {pass : Pass}
  {pointing : Pointing α} {stars : List (ImagePoint α)} {radius : α} {w w' : σ}
  {calls : List (Event α)}

omit [Analytic α] in
theorem not_ofDetector_of_isFetch (h : ∀ event ∈ calls, event.isFetch = true) :
    ∀ event ∈ calls, event.ofDetector = false := by
  intro event hmem
  cases event with
  | found | measured => exact absurd (h _ hmem) Bool.false_ne_true
  | _ => rfl

theorem Trial.ofDetector {result : Except (Setback α) (Fit α)}
    (h : Trial s candidate stars pass w calls result w') :
    ∀ event ∈ calls, event.ofDetector = false := by
  obtain ⟨answer?, hround, -⟩ := h.exists_round
  cases hround with
  | cutShort => simp [Event.ofDetector]
  | unregistered hfetched => exact not_ofDetector_of_isFetch hfetched.isFetch
  | registered hregistered =>
      obtain ⟨hfetched, -, -⟩ := hregistered
      exact List.forall_mem_append.mpr ⟨not_ofDetector_of_isFetch hfetched.isFetch, by
        simp [Event.ofDetector]⟩

theorem Turn.ofDetector {center : α × α} {result : Except (Setback α) (Fit α)}
    (h : Turn s pointing stars center w calls result w') :
    ∀ event ∈ calls, event.ofDetector = false := by
  obtain ⟨-, htrial⟩ := h
  exact List.forall_mem_cons.mpr ⟨rfl, htrial.ofDetector⟩

theorem Rejections.ofDetector {centers : List (α × α)}
    (h : Rejections s pointing stars centers w calls w') :
    ∀ event ∈ calls, event.ofDetector = false := by
  induction h with
  | nil => simp
  | cons hturn _ ih => exact List.forall_mem_append.mpr ⟨hturn.ofDetector, ih⟩

/-- **A search does not call the detector.** -/
theorem Course.ofDetector {outcome : Outcome α}
    (h : Course s pointing stars radius w calls outcome w') :
    ∀ event ∈ calls, event.ofDetector = false := by
  cases h with
  | accepted _ hbefore hturn hnail =>
      exact List.forall_mem_append.mpr ⟨hbefore.ofDetector,
        List.forall_mem_append.mpr ⟨hturn.ofDetector, hnail.ofDetector⟩⟩
  | aborted _ hbefore hturn =>
      exact List.forall_mem_append.mpr ⟨hbefore.ofDetector, hturn.ofDetector⟩
  | cancelled _ hbefore _ =>
      exact List.forall_mem_append.mpr ⟨hbefore.ofDetector, by simp [Event.ofDetector]⟩
  | exhausted hall => exact hall.ofDetector

theorem Breakdown.ofDetector (h : Breakdown s pointing stars radius w calls w') :
    ∀ event ∈ calls, event.ofDetector = false := by
  obtain ⟨htaken, hbroken⟩ := h
  refine List.forall_mem_append.mpr ⟨?_, not_ofDetector_of_isFetch hbroken.isFetch⟩
  cases htaken with
  | hunt _ hbefore _ =>
      exact List.forall_mem_append.mpr ⟨hbefore.ofDetector, by simp [Event.ofDetector]⟩
  | nail _ hbefore hturn =>
      exact List.forall_mem_append.mpr ⟨hbefore.ofDetector, hturn.ofDetector⟩

end Search

open Detection

section Measured

variable {settings : DetectionSettings Exact} {raster : Raster} {w w' : σ}
  {calls : List (Event Exact)} {stars : List (ImagePoint Exact)} {groups : List Detection.Group}

/-- **Measurements on a raster**: every pixel that was measured is one of its pixels. -/
def MeasuredOn (raster : Raster) (calls : List (Event Exact)) : Prop :=
  ∀ x y answer, .measured x y answer ∈ calls → x < raster.width ∧ y < raster.height

theorem MeasuredOn.cons {group : Detection.Group} {answer : Except DetectionError (StarStats Exact)}
    (hcounts : group.Counts settings raster) (h : MeasuredOn raster calls) :
    MeasuredOn raster (.measured (Scalar.whole ((group.star raster).x + 1 / 2))
      (Scalar.whole ((group.star raster).y + 1 / 2)) answer :: calls) := by
  intro x y other hmem
  rcases List.mem_cons.mp hmem with heq | hmem
  · obtain ⟨hx, hy⟩ := group.whole_star raster
    obtain ⟨hrow, hcol⟩ := hcounts.component.peak_lt
    cases heq
    exact ⟨hx ▸ hcol, hy ▸ hrow⟩
  · exact h x y other hmem

/-- **The stars that are measured stand for components**, and are measured on the raster. -/
theorem Measured.forall₂_starOf (hcounts : ∀ group ∈ groups, group.Counts settings raster)
    (h : Measured settings.detector raster (groups.map (Group.star raster)) w calls stars w') :
    List.Forall₂ (StarOf settings raster) stars groups ∧ MeasuredOn raster calls := by
  induction groups generalizing w calls stars with
  | nil =>
      cases h
      exact ⟨.nil, nofun⟩
  | cons group rest ih =>
      obtain ⟨hgroup, hrest⟩ := List.forall_mem_cons.mp hcounts
      cases h with
      | cons hmeasure hmore =>
          obtain ⟨hstars, hon⟩ := ih hrest hmore
          obtain ⟨hx, hy⟩ := group.whole_star raster
          have hanswer := congrArg Prod.fst hmeasure
          refine ⟨.cons (hgroup.starOf ?_) hstars, hon.cons hgroup⟩
          rw [← hx, ← hy]
          exact hanswer

theorem Unmeasured.measuredOn (hcounts : ∀ group ∈ groups, group.Counts settings raster)
    (h : Unmeasured settings.detector raster (groups.map (Group.star raster)) w calls w') :
    MeasuredOn raster calls := by
  induction groups generalizing w calls with
  | nil => cases h
  | cons group rest ih =>
      obtain ⟨hgroup, hrest⟩ := List.forall_mem_cons.mp hcounts
      cases h with
      | here => exact nofun
      | later _ hmore => exact (ih hrest hmore).cons hgroup

end Measured

end Calls

namespace Solver

open Detection

variable {σ : Type}

/-- **Calls about stars of the image**: the detector is asked about positions on the image only,
and the image stars of a request stand for components, of which no two have a pixel in common. -/
structure FromImage (settings : DetectionSettings Exact) (raster : Raster)
    (calls : List (Event Exact)) : Prop where
  /-- What is measured is on the image. -/
  measured_lt : ∀ x y answer, .measured x y answer ∈ calls → x < raster.width ∧ y < raster.height
  /-- Image stars stand for components, one each. -/
  imageStars : ∀ request answer, .registered request answer ∈ calls →
    ∃ groups : List Detection.Group, groups.Pairwise (fun a b => a.pixels.Disjoint b.pixels) ∧
      List.Forall₂ (StarOf settings raster) request.imageStars groups

variable {solver : Solver σ Exact} {settings : DetectionSettings Exact}
  {options : SolveOptions Exact} {plate : Plate Exact} {w w' : σ} {calls : List (Event Exact)}
  {result : Option (Except (SolveError Exact) (Summary Exact))}

/-- Without a search, there are no requests. -/
theorem fromImage_of_ofDetector {raster : Raster}
    (hmeasured : MeasuredOn raster calls)
    (hdetector : ∀ event ∈ calls, event.ofDetector) : FromImage settings raster calls where
  measured_lt := hmeasured
  imageStars _ _ hmem := absurd (hdetector _ hmem) Bool.false_ne_true

/-- The image stars of a request of a search are the first that it was given. -/
theorem exists_imageStars_eq_take {s : Search σ Exact} {pointing : Pointing Exact}
    {stars : List (ImagePoint Exact)} {centers : List (Exact × Exact)}
    {earlier : List (Event Exact)} {request : FitRequest Exact}
    (h : s.Requested pointing stars centers w earlier request) :
    ∃ n, request.imageStars = stars.take n := by
  obtain ⟨htaken, -⟩ := h
  cases htaken with
  | hunt => exact ⟨_, rfl⟩
  | nail => exact ⟨stars.length, List.take_length.symm⟩

/-- A search takes the first of the stars, and with them the first of the components. -/
theorem fromImage_of_search {raster : Raster} {found : List (DetectedStar Exact)}
    {measuring searching : List (Event Exact)} {stars : List (ImagePoint Exact)}
    {groups : List Detection.Group}
    (hdisjoint : groups.Pairwise fun a b => a.pixels.Disjoint b.pixels)
    (hstars : List.Forall₂ (StarOf settings raster) stars groups)
    (hmeasured : MeasuredOn raster measuring)
    (hmeasuring : ∀ event ∈ measuring, event.ofDetector)
    (hsearching : ∀ event ∈ searching, event.ofDetector = false)
    (hrequests : ∀ request answer, .registered request answer ∈ searching →
      ∃ n, request.imageStars = stars.take n) :
    FromImage settings raster (.found found :: (measuring ++ searching)) := by
  constructor
  · intro x y answer hmem
    rcases List.mem_append.mp ((List.mem_cons.mp hmem).resolve_left nofun) with hmem | hmem
    · exact hmeasured x y answer hmem
    · exact nomatch hsearching _ hmem
  · intro request answer hmem
    rcases List.mem_append.mp ((List.mem_cons.mp hmem).resolve_left nofun) with hmem | hmem
    · exact absurd (hmeasuring _ hmem) Bool.false_ne_true
    · obtain ⟨n, htake⟩ := hrequests request answer hmem
      rw [htake]
      exact ⟨groups.take n, hdisjoint.sublist (List.take_sublist _ _), List.forall₂_take _ hstars⟩

/-- **A solve is about stars of its image**, whichever stage it gets to. -/
theorem Stages.fromImage (hdetector : solver.detector = settings.detector)
    (hwords : plate.raster.InWords) (h : Stages solver options plate w calls result w') :
    FromImage settings plate.raster calls := by
  obtain ⟨groups, hchosen, hdisjoint, hcounts⟩ :=
    exists_chosenGroups hwords settings solver.settings
  cases h with
  | tooFewStars => exact fromImage_of_ofDetector nofun (by simp [Event.ofDetector])
  | unmeasured hfound _ hunmeasured =>
      rw [hdetector] at hfound hunmeasured
      obtain ⟨rfl, -⟩ := Prod.mk.inj hfound
      rw [hchosen] at hunmeasured
      have hon := hunmeasured.measuredOn hcounts
      refine fromImage_of_ofDetector ?_ (List.forall_mem_cons.mpr ⟨rfl, hunmeasured.ofDetector⟩)
      exact fun x y answer hmem => hon x y answer ((List.mem_cons.mp hmem).resolve_left nofun)
  | unpointed hfound _ hmeasured _ =>
      rw [hdetector] at hfound hmeasured
      obtain ⟨rfl, -⟩ := Prod.mk.inj hfound
      rw [hchosen] at hmeasured
      obtain ⟨-, hon⟩ := hmeasured.forall₂_starOf hcounts
      refine fromImage_of_ofDetector ?_ (List.forall_mem_cons.mpr ⟨rfl, hmeasured.ofDetector⟩)
      exact fun x y answer hmem => hon x y answer ((List.mem_cons.mp hmem).resolve_left nofun)
  | searched hfound _ hmeasured _ hcourse =>
      rw [hdetector] at hfound hmeasured
      obtain ⟨rfl, -⟩ := Prod.mk.inj hfound
      rw [hchosen] at hmeasured
      obtain ⟨hstars, hon⟩ := hmeasured.forall₂_starOf hcounts
      refine fromImage_of_search hdisjoint hstars hon hmeasured.ofDetector hcourse.ofDetector ?_
      intro request answer hmem
      obtain ⟨_, _, hsplit⟩ := List.append_of_mem hmem
      exact exists_imageStars_eq_take (hcourse.requested hsplit)
  | unsearched hfound _ hmeasured _ hbreakdown =>
      rw [hdetector] at hfound hmeasured
      obtain ⟨rfl, -⟩ := Prod.mk.inj hfound
      rw [hchosen] at hmeasured
      obtain ⟨hstars, hon⟩ := hmeasured.forall₂_starOf hcounts
      refine fromImage_of_search hdisjoint hstars hon hmeasured.ofDetector hbreakdown.ofDetector ?_
      intro request answer hmem
      obtain ⟨_, _, hsplit⟩ := List.append_of_mem hmem
      exact exists_imageStars_eq_take (hbreakdown.requested hsplit)

/-- **Image stars are stars of the image.**  Whatever the parameters of the shipped detector, the
settings and the other collaborators, and whatever the image, as long as words can say how large
it is: in a solve, the detector is never asked about a position off the image, and the image
stars of every request to the registrar stand, one to one, for components of lit pixels of which
no two have a pixel in common.  Each is on the image and, on either axis, within the half-width
of a centroid of the peak of its component, which is large enough and has its peak away from the
edges. -/
theorem solve_fromImage (solver : Solver σ Exact) (settings : DetectionSettings Exact)
    (hdetector : solver.detector = settings.detector) (options : SolveOptions Exact)
    (plate : Plate Exact) (hwords : plate.raster.InWords) (session : Session σ Exact) :
    ∃ calls, (solver.solve options plate session).2.calls = session.calls ++ calls ∧
      FromImage settings plate.raster calls := by
  obtain ⟨calls, result, w', hstages⟩ := exists_stages solver options plate session.world
  obtain ⟨-, -, hcalls⟩ := hstages.solve_ends session rfl
  exact ⟨calls, hcalls, hstages.fromImage hdetector hwords⟩

section Sample

/-- A header with an older solution. -/
noncomputable def sampleHeader : Header Exact :=
  ⟨[("CTYPE1", .text "RA---TAN"), ("CRVAL1", .real (real 1)), ("CTYPE2", .text "DEC--TAN"),
    ("CRVAL2", .real (real 0)), ("CDELT1", .real (real 1)), ("CDELT2", .real (real 1))]⟩

/-- Every component of pixels above the mean is a star. -/
noncomputable def sampleDetection : DetectionSettings Exact := ⟨real 0, 0, 0, 1⟩

/-- A solver whose catalog is empty and whose registrar finds nothing. -/
noncomputable def sampleSolver : Solver Unit Exact where
  settings := {
    method := .distance, maxResidual := real 3, maxImageStars := 50, maxCatalogStars := 200
    brightestMag := real 6, minPair := 0, maxPair := 300, tryStars := 24, maxRotation := real 5
    matchDistance := real 6, rejectDistance := real 3, order := 2, huntFraction := real 1
    primaryLimit := real 18, secondaryLimit := real 20, catalogRoot := none
    keepSecondary := true }
  team := {
    cancelled := fun w => (false, w)
    primary := { name := "empty", fetch := fun _ _ given w => (some (.ok 0, given), w) }
    secondary := none
    register := fun _ w => (.rejected, w) }
  detector := sampleDetection.detector

/-- The nominal position alone is tried. -/
noncomputable def sampleOptions : SolveOptions Exact := { radius := real 0 }

theorem exists_samplePointing :
    ∃ pointing, Pointing.ofHeader sampleHeader cup.width cup.height = .ok pointing :=
  ⟨⟨_, _, _, _, _⟩, rfl⟩

theorem length_sampleCenters (pointing : Pointing Exact) :
    ((sampleSolver.search sampleOptions cup).centers pointing (real 0)).length = 1 := by
  have hrings : ((sampleSolver.search sampleOptions cup).plan pointing (real 0)).rings = 0 := by
    rw [Search.plan, Plan.make, if_neg]
    rintro ⟨-, hradius⟩
    exact lt_irrefl _ (real_lt.mp (zero_eq ▸ hradius))
  rw [Search.centers, Plan.centers, List.length_map, hrings]
  rfl

theorem exists_sampleCourse (pointing : Pointing Exact) (stars : List (ImagePoint Exact)) :
    ∃ earlier request outcome w',
      (sampleSolver.search sampleOptions cup).Course pointing stars (real 0) ()
        (earlier ++ [.registered request .rejected]) outcome w' := by
  obtain ⟨center, hcenters⟩ := List.length_eq_one_iff.mp (length_sampleCenters pointing)
  have hall : Search.Rejections (sampleSolver.search sampleOptions cup) pointing stars [center] ()
      _ () :=
    .cons (.mk rfl (.noMatch (.mk (.mk (.unasked (.inr rfl)) rfl) (Nat.zero_le _) rfl))) (.nil ())
  rw [← hcenters] at hall
  exact ⟨[_, _], _, _, _, .exhausted hall⟩

theorem lit_cup : lit cup (threshold cup (real 0)) (0, 0) = true := by
  have hpixels : cup.pixels.toList.map UInt16.toNat = [9, 0, 9, 0, 4, 5, 7, 5, 0, 0] := by decide
  have hvalues : cup.values = [9, 0, 9, 0, 4, 5, 7, 5, 0, 0] := by
    simpa [Raster.values, Function.comp_def] using congrArg (List.map (Nat.cast : ℕ → ℝ)) hpixels
  have hvalue : cup.value (0, 0) = 9 := by decide
  have hholds : cup.holds (0, 0) = true := by decide
  have hlevel : threshold cup (real 0) = real (cup.mean + 0 * cup.deviation) :=
    threshold_real (by decide) 0
  have hmean : cup.mean < 9 := by
    rw [Raster.mean, hvalues]
    norm_num
  simpa [lit, hholds, hvalue, hlevel] using hmean

/-- The image stars of a request about the cup stand for components of the cup, and there are
some. -/
theorem solve_fromImage_cup :
    cup.InWords ∧ ∃ calls request,
      (sampleSolver.solve sampleOptions ⟨cup, sampleHeader⟩ ⟨(), #[]⟩).2.calls = calls ∧
        FromImage sampleDetection cup calls ∧ .registered request .rejected ∈ calls ∧
        request.imageStars ≠ [] := by
  have hwords : cup.InWords := ⟨by decide, by decide⟩
  obtain ⟨calls, hcalls, hfrom⟩ := solve_fromImage sampleSolver sampleDetection rfl sampleOptions
    ⟨cup, sampleHeader⟩ hwords ⟨(), #[]⟩
  obtain ⟨pointing, hpointing⟩ := exists_samplePointing
  obtain ⟨measuring, stars, w', hmeasured⟩ := exists_measured sampleSolver.detector cup
    (fun x y _ => starStats_ne_none (by decide) (by decide) x y)
    (chooseStars sampleSolver.settings (findStars sampleDetection cup)) ()
  obtain ⟨earlier, request, outcome, _, hcourse⟩ := exists_sampleCourse pointing stars
  have hstages : Stages sampleSolver sampleOptions ⟨cup, sampleHeader⟩ () _ _ _ :=
    .searched rfl (Nat.zero_le _) hmeasured hpointing hcourse
  obtain ⟨-, -, hsame⟩ := hstages.solve_ends ⟨(), #[]⟩ rfl
  obtain rfl : calls = _ := hcalls.symm.trans hsame
  have hmem : .registered request .rejected ∈ earlier ++ [.registered request .rejected] :=
    List.mem_append_right _ (List.mem_singleton_self _)
  refine ⟨hwords, _, request, hcalls, hfrom, ?_, ?_⟩
  · exact List.mem_cons_of_mem _ (List.mem_append_right _ hmem)
  · have hfound : 0 < (findStars sampleDetection cup).length :=
      List.length_pos_iff.mpr (findStars_ne_nil hwords rfl rfl lit_cup)
    have hstars : 0 < stars.length := by
      rw [hmeasured.length_eq, chooseStars, List.length_take, List.length_mergeSort]
      exact Nat.lt_min.mpr ⟨by decide, hfound⟩
    obtain ⟨_, _, hsplit⟩ := List.append_of_mem hmem
    rw [(hcourse.requested hsplit).imageStars_eq, ← List.length_pos_iff]
    cases request.pass with
    | hunt => exact List.length_take ▸ Nat.lt_min.mpr ⟨by decide, hstars⟩
    | nail => exact hstars

end Sample

end Solver

end PlateSolver
