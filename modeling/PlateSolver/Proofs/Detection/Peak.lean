import Mathlib
import PlateSolver.Proofs.Detection.Routes

/-!
# The peaks of blobs

The peak of a blob is a pixel with the greatest value.  Where several have it, as those of a star
that is saturated, the first one in the order of discovery is taken, and that is not the order of
the raster: it is the one that is reached earliest from the first pixel of the blob.  The two
agree on a blob if and only if the first of its brightest pixels on the raster is also the one of
them that is reached earliest.

* `Peaks`, `Group.blob_peaks` — the peak is the first pixel of a list that is brightest in it.
* `Brightest`, `FirstBrightest` — the brightest pixels of a group, and the first on the raster.
* `peak_reached_first` — the peak is the brightest pixel that is reached earliest.
-/

namespace PlateSolver.Detection

/-! ## The first of a list -/

/-- **A blob whose peak is the first brightest of some pixels.**  Those before it are less bright,
those after it no brighter. -/
def Peaks (raster : Raster) (blob : Blob) (pixels : List Position) : Prop :=
  blob.peakValue = raster.value blob.peak ∧ ∃ before after, pixels = before ++ blob.peak :: after ∧
    (∀ spot ∈ before, raster.value spot < raster.value blob.peak) ∧
    ∀ spot ∈ after, raster.value spot ≤ raster.value blob.peak

/-- **One more pixel.** -/
theorem Peaks.add {raster : Raster} {blob : Blob} {pixels : List Position}
    (h : Peaks raster blob pixels) (spot : Position) :
    Peaks raster (blob.add raster spot) (pixels ++ [spot]) := by
  obtain ⟨hvalue, before, after, rfl, hbefore, hafter⟩ := h
  by_cases hbrighter : blob.peakValue < raster.value spot
  · have hpeak : (blob.add raster spot).peak = spot := if_pos hbrighter
    have hall : ∀ other ∈ before ++ blob.peak :: after, raster.value other < raster.value spot := by
      rw [hvalue] at hbrighter
      rw [List.forall_mem_append, List.forall_mem_cons]
      exact ⟨fun other hother => (hbefore other hother).trans hbrighter, hbrighter,
        fun other hother => (hafter other hother).trans_lt hbrighter⟩
    rw [Peaks, hpeak]
    exact ⟨if_pos hbrighter, _, [], rfl, hall, nofun⟩
  · have hpeak : (blob.add raster spot).peak = blob.peak := if_neg hbrighter
    rw [Peaks, hpeak]
    refine ⟨(if_neg hbrighter).trans hvalue, before, after ++ [spot], by simp, hbefore, ?_⟩
    rw [List.forall_mem_append, List.forall_mem_singleton]
    exact ⟨hafter, hvalue ▸ Nat.not_lt.mp hbrighter⟩

theorem Peaks.foldl_add {raster : Raster} {blob : Blob} {pixels : List Position}
    (h : Peaks raster blob pixels) (more : List Position) :
    Peaks raster (more.foldl (Blob.add raster) blob) (pixels ++ more) := by
  induction more generalizing blob pixels with
  | nil => rwa [List.append_nil]
  | cons spot more ih =>
      rw [List.append_cons]
      exact ih (h.add spot)

theorem Peaks.seed (raster : Raster) (spot : Position) :
    Peaks raster ((Blob.seed raster spot).add raster spot) [spot] := by
  have hbrighter : ¬ (Blob.seed raster spot).peakValue < raster.value spot := Nat.lt_irrefl _
  have hpeak : ((Blob.seed raster spot).add raster spot).peak = spot := if_neg hbrighter
  rw [Peaks, hpeak]
  exact ⟨if_neg hbrighter, [], [], rfl, nofun, nofun⟩

/-- **The peak of a group** is the first of its pixels that is brightest. -/
theorem Group.blob_peaks (raster : Raster) (group : Group) :
    Peaks raster (group.blob raster) group.pixels :=
  (Peaks.seed raster group.first).foldl_add group.others

/-! ## The earliest of a group -/

/-- A pixel of a group that none of its pixels outshines. -/
def Brightest (raster : Raster) (group : Group) (spot : Position) : Prop :=
  spot ∈ group.pixels ∧ ∀ other ∈ group.pixels, raster.value other ≤ raster.value spot

/-- The first of the brightest pixels of a group in the order of the raster. -/
def FirstBrightest (raster : Raster) (group : Group) (spot : Position) : Prop :=
  Brightest raster group spot ∧
    ∀ other, Brightest raster group other → raster.index spot ≤ raster.index other

section Earliest

variable {raster : Raster} {group : Group} {blob : Blob}

theorem Peaks.brightest (h : Peaks raster blob group.pixels) :
    Brightest raster group blob.peak := by
  obtain ⟨-, before, after, hpixels, hbefore, hafter⟩ := h
  rw [Brightest, hpixels, List.forall_mem_append, List.forall_mem_cons]
  exact ⟨List.mem_append_right before List.mem_cons_self,
    fun spot hspot => (hbefore spot hspot).le, le_rfl, hafter⟩

/-- Where the pixels are in some order, the peak comes before all others that are as bright. -/
theorem Peaks.before {r : Position → Position → Prop} (h : Peaks raster blob group.pixels)
    (hpairwise : group.pixels.Pairwise r) {spot : Position} (hspot : Brightest raster group spot)
    (hne : spot ≠ blob.peak) : r blob.peak spot := by
  have hbright := hspot.2 blob.peak h.brightest.1
  obtain ⟨-, before, after, hpixels, hbefore, -⟩ := h
  have hmem := hspot.1
  rw [hpixels] at hmem hpairwise
  rcases List.mem_append.mp hmem with hearly | hlate
  · exact absurd (hbefore spot hearly) (Nat.not_lt.mpr hbright)
  · have hafter : spot ∈ after := (List.mem_cons.mp hlate).resolve_left hne
    exact List.rel_of_pairwise_cons (List.pairwise_append.mp hpairwise).2.1 hafter

end Earliest

/-- **The peak of a blob is the brightest pixel that is reached first.**  The blobs of a raster
are its components.  Of the brightest pixels of one of them the peak is the one that is reached
earlier than the others from the first pixel: on the route that is soonest, by the number of its
steps and then by the order in which steps are tried.  So the peak is the first of them on the
raster if and only if that one is reached earlier than the others. -/
theorem peak_reached_first {α : Type} [Scalar α] (raster : Raster) (hwords : raster.InWords)
    (level : α) :
    ∃ groups, (blobs raster level).Perm (groups.map (Group.blob raster)) ∧
      Partition raster level groups ∧ ∀ group ∈ groups,
        Brightest raster group (group.blob raster).peak ∧
        (∀ spot, Brightest raster group spot → spot ≠ (group.blob raster).peak →
          Earlier raster level group.first (group.blob raster).peak spot) ∧
        ∀ spot, FirstBrightest raster group spot →
          ((group.blob raster).peak = spot ↔ ∀ other, Brightest raster group other →
            other ≠ spot → Earlier raster level group.first spot other) := by
  obtain ⟨seen, found, groups, hcollect, hcollected⟩ := exists_collected hwords level
  have hblobs : (blobs raster level).Perm (groups.map (Group.blob raster)) := by
    rw [← hcollected.blobs, ← hcollect]
    exact List.mergeSort_perm _ _
  refine ⟨groups, hblobs, hcollected.partition, fun group hgroup => ?_⟩
  have hpeaks := group.blob_peaks raster
  have hpairwise := (hcollected.filled group hgroup).pairwise_earlier hwords
    (hcollected.component group hgroup)
  have hearlier (spot : Position) (hspot : Brightest raster group spot)
      (hne : spot ≠ (group.blob raster).peak) := hpeaks.before hpairwise hspot hne
  refine ⟨hpeaks.brightest, hearlier, fun spot hfirst => ⟨?_, fun hspot => ?_⟩⟩
  · rintro rfl other hother hne
    exact hearlier other hother hne
  · by_contra hne
    exact (hearlier spot hfirst.1 (Ne.symm hne)).asymm (hspot _ hpeaks.brightest hne)

/-- A raster with two saturated pixels that touch at a corner only. -/
def corner : Raster := .ofFn 2 2 fun row col =>
  if row = 0 then #[1, 65535][col]?.getD 0 else #[65535, 0][col]?.getD 0

/-- The one blob of the corner: its peak is one of its two brightest pixels. -/
theorem peak_reached_first_corner :
    corner.InWords ∧ ∃ groups : List Group,
      (blobs corner (0 : Float)).Perm (groups.map (Group.blob corner)) ∧
        ∀ group ∈ groups, Brightest corner group (group.blob corner).peak := by
  have hwords : corner.InWords := ⟨by decide, by decide⟩
  obtain ⟨groups, hblobs, -, hpeaks⟩ := peak_reached_first corner hwords (0 : Float)
  exact ⟨hwords, groups, hblobs, fun group hgroup => (hpeaks group hgroup).1⟩

/-- **The peak of the corner is not the first of its brightest pixels.**  There is one in the first
row and one in the second, and the one in the second row is looked at first. -/
theorem peak_corner :
    ∃ blob ∈ blobs corner (0 : Float), blob.peak = (1, 0) ∧
      blob.peakValue = corner.value (0, 1) ∧ Linked corner (0 : Float) blob.peak (0, 1) ∧
      corner.index (0, 1) < corner.index blob.peak := by
  have hpeaks : (blobs corner (0 : Float)).map (fun blob => (blob.peak, blob.peakValue)) =
      [((1, 0), 65535)] := by decide +kernel
  obtain ⟨blob, hblobs, hblob⟩ := List.map_eq_singleton_iff.mp hpeaks
  obtain ⟨hpeak, hvalue⟩ := Prod.mk.inj hblob
  have hlit : ∀ spot ∈ [(1, 0), (0, 0), (0, 1)], lit corner (0 : Float) spot = true := by
    decide +kernel
  -- The two touch the first pixel of the first row.
  have hbelow : Linked corner (0 : Float) (1, 0) (0, 0) :=
    .of_touching (hlit _ (by simp)) (hlit _ (by simp)) (by simp [Touching])
  have hbeside : Linked corner (0 : Float) (0, 0) (0, 1) :=
    .of_touching (hlit _ (by simp)) (hlit _ (by simp)) (by simp [Touching])
  refine ⟨blob, by rw [hblobs]; exact List.mem_singleton_self blob, hpeak, hvalue, ?_, ?_⟩
  · rw [hpeak]
    exact hbelow.trans hbeside
  · rw [hpeak]
    decide

end PlateSolver.Detection
