import Mathlib
import PlateSolver.Proofs.Detection.Fill
import PlateSolver.Proofs.Ranking

/-!
# The blobs of a raster are its components

The raster is gone through row by row, and wherever a lit pixel was not reached yet, a group
is filled from it.  So groups are begun at the first pixels of components, filled to the end,
and no component is left out; the blobs are their measurements, in order of their peaks.

* `Group.Filled` — the pixels of a group are what the loop that fills it takes in.
* `Partition` — a list of groups that are all components.
* `Collected` — the invariant on the way through the raster: the groups so far are components,
  and no lit pixel was passed over.  `Collected.collectAt` is one position and
  `Collected.foldl` all of them.
* `exists_collected` — the groups of a raster in raster order of their first pixels.
* `Group.Before`, `pairwise_before` — the order in which they are reported.
* `blobs_components` — the blobs of a raster are its components.

A component is not begun twice because its pixels are marked from the first time on, and its
first pixel is the first in raster order because all positions before are behind: had one of
them belonged to the component, it would have been the one to begin with.
-/

namespace PlateSolver.Detection

variable {α : Type} [Scalar α] {raster : Raster} {level : α}

/-- **A group that was filled**: its pixels are those that entered the loop begun at its first
pixel, in the order in which they did, up to where the loop ended. -/
def Group.Filled (raster : Raster) (level : α) (group : Group) : Prop :=
  ∃ seen s, Fill raster level 0 (discover raster level ⟨seen, #[]⟩ group.first) s ∧
    s.found.toList = group.pixels

/-- The pixels of some groups, one group after the other. -/
def pixelsOf (groups : List Group) : List Position := groups.flatMap Group.pixels

theorem pixelsOf_concat (groups : List Group) (group : Group) :
    pixelsOf (groups ++ [group]) = pixelsOf groups ++ group.pixels := by
  unfold pixelsOf
  rw [List.flatMap_append, List.flatMap_singleton]

/-- **The components of a raster**, in some order: every lit pixel is in one of the groups,
once, and every group is the class of its pixels. -/
structure Partition (raster : Raster) (level : α) (groups : List Group) : Prop where
  /-- Every group is a component. -/
  component : ∀ group ∈ groups, group.Component raster level
  /-- The pixels of the groups are the lit ones. -/
  mem_iff : ∀ spot, spot ∈ pixelsOf groups ↔ lit raster level spot = true
  /-- No pixel is there twice, in one group or in two. -/
  nodup : (pixelsOf groups).Nodup

namespace Partition

variable {groups other : List Group}

theorem perm (h : Partition raster level groups) (hperm : other.Perm groups) :
    Partition raster level other where
  component group hgroup := h.component group (hperm.mem_iff.mp hgroup)
  mem_iff spot := (hperm.flatMap_right Group.pixels).mem_iff.trans (h.mem_iff spot)
  nodup := (hperm.flatMap_right Group.pixels).nodup_iff.mpr h.nodup

/-- **Every class is one of the groups**, and only one. -/
theorem existsUnique (h : Partition raster level groups) {spot : Position}
    (hlit : lit raster level spot = true) :
    ∃! group, group ∈ groups ∧ ∀ other, other ∈ group.pixels ↔ Linked raster level spot other := by
  obtain ⟨group, hgroup, hspot⟩ := List.mem_flatMap.mp ((h.mem_iff spot).mpr hlit)
  have hlinked := ((h.component group hgroup).mem_iff spot).mp hspot
  refine ⟨group, ⟨hgroup, ?_⟩, ?_⟩
  · intro other
    rw [(h.component group hgroup).mem_iff]
    exact ⟨hlinked.symm.trans, hlinked.trans⟩
  · -- Two groups with a pixel in common are one, as no pixel is there twice.
    rintro same ⟨hsame, hclass⟩
    have hdisjoint := (List.nodup_flatMap.mp h.nodup).2
    have hsymm : Std.Symm (Function.onFun List.Disjoint Group.pixels) :=
      ⟨fun _ _ => List.disjoint_symm⟩
    by_contra hne
    exact hdisjoint.forall hsame hgroup hne ((hclass spot).mpr (Linked.refl spot)) hspot

/-- The areas add up to the number of lit pixels. -/
theorem sum_area (h : Partition raster level groups) :
    (groups.map fun group => (group.blob raster).area).sum =
      raster.positions.countP (lit raster level) := by
  have harea : ∀ group : Group, (group.blob raster).area = group.pixels.length := fun group =>
    (group.blob_measures raster).area
  have hperm : (pixelsOf groups).Perm (raster.positions.filter (lit raster level)) := by
    rw [List.perm_ext_iff_of_nodup h.nodup (raster.nodup_positions.filter _)]
    intro spot
    rw [h.mem_iff, List.mem_filter, Raster.mem_positions_iff]
    exact ⟨fun hlit => ⟨holds_of_lit hlit, hlit⟩, And.right⟩
  simp only [harea]
  rw [← List.length_flatMap, List.countP_eq_length_filter]
  exact hperm.length_eq

end Partition

/-- **The groups of the positions visited so far.** -/
structure Collected (raster : Raster) (level : α) (visited : List Position)
    (state : Array Bool × List Blob) (groups : List Group) : Prop where
  /-- The blobs are the measurements of the groups. -/
  blobs : state.2.reverse = groups.map (Group.blob raster)
  /-- The marks are on the pixels of the groups. -/
  reached : Reached raster level state.1 (pixelsOf groups)
  /-- Every group is a component. -/
  component : ∀ group ∈ groups, group.Component raster level
  /-- Every group was filled. -/
  filled : ∀ group ∈ groups, group.Filled raster level
  /-- The groups were begun in the order of the visits. -/
  firsts : (groups.map Group.first).Sublist visited
  /-- No lit pixel was passed over. -/
  mem_of_lit : ∀ spot ∈ visited, lit raster level spot = true → spot ∈ pixelsOf groups

namespace Collected

variable {visited rest : List Position} {seen : Array Bool} {found : List Blob}
  {groups : List Group} {spot : Position}

/-- No component breaks off: what belongs together with a pixel of a group is in that group. -/
theorem linked_mem (h : Collected raster level visited (seen, found) groups) {a b : Position}
    (ha : a ∈ pixelsOf groups) (hlinked : Linked raster level a b) : b ∈ pixelsOf groups := by
  obtain ⟨group, hgroup, hmem⟩ := List.mem_flatMap.mp ha
  have hcomponent := h.component group hgroup
  refine List.mem_flatMap.mpr ⟨group, hgroup, ?_⟩
  exact (hcomponent.mem_iff b).mpr (((hcomponent.mem_iff a).mp hmem).trans hlinked)

/-- A position that is dark or was reached before adds nothing. -/
theorem skip (h : Collected raster level visited (seen, found) groups)
    (hold : lit raster level spot = true → marked raster seen spot = true) :
    Collected raster level (visited ++ [spot]) (seen, found) groups where
  blobs := h.blobs
  reached := h.reached
  component := h.component
  filled := h.filled
  firsts := h.firsts.trans (List.sublist_append_left visited [spot])
  mem_of_lit := by
    intro other hother hlit
    rcases List.mem_append.mp hother with hvisited | hlast
    · exact h.mem_of_lit other hvisited hlit
    · rw [List.mem_singleton.mp hlast] at hlit ⊢
      exact (h.reached.marked_iff spot (holds_of_lit hlit)).mp (hold hlit)

/-- What belongs together with a pixel that was not reached is still ahead. -/
theorem notMem_visited (h : Collected raster level visited (seen, found) groups)
    (hlit : lit raster level spot = true) (hfresh : marked raster seen spot = false)
    {other : Position} (hlinked : Linked raster level spot other) : other ∉ visited := by
  intro hvisited
  have hreached := h.linked_mem (h.mem_of_lit other hvisited (hlinked.lit hlit)) hlinked.symm
  rw [(h.reached.marked_iff spot (holds_of_lit hlit)).mpr hreached] at hfresh
  cases hfresh

/-- A group that is filled from a pixel that was not reached is its component. -/
theorem component_of_filling (h : Collected raster level visited (seen, found) groups)
    (hlit : lit raster level spot = true) (hfresh : marked raster seen spot = false)
    (hvisit : visited ++ spot :: rest = raster.positions) {s : Spread} {last : Nat}
    (hfilling : Filling raster level (pixelsOf groups) spot last s) (hlast : s.found.size ≤ last)
    {others : List Position} (hothers : s.found.toList = spot :: others) :
    (⟨spot, others⟩ : Group).Component raster level where
  lit_first := hlit
  mem_iff other := by
    have hmem := hfilling.mem_iff hlast (fun a ha b hlinked => h.linked_mem ha hlinked) other
    rwa [hothers] at hmem
  nodup := by
    have hnodup := (List.nodup_append.mp hfilling.reached.nodup).2.1
    rwa [hothers] at hnodup
  index_first_le := by
    intro other hother
    have hlinked : Linked raster level spot other := by
      apply hfilling.linked
      rw [hothers]
      exact hother
    have hposition := Raster.mem_positions_iff.mpr (holds_of_lit (hlinked.lit hlit))
    have hsorted := raster.pairwise_positions
    rw [← hvisit] at hposition hsorted
    have hahead :=
      (List.mem_append.mp hposition).resolve_left (h.notMem_visited hlit hfresh hlinked)
    rcases List.mem_cons.mp hahead with rfl | hrest
    · exact Nat.le_refl _
    · exact Nat.le_of_lt (List.rel_of_pairwise_cons (List.pairwise_append.mp hsorted).2.1 hrest)

/-- One more group, begun at one more position. -/
theorem push (h : Collected raster level visited (seen, found) groups) {group : Group}
    {seen' : Array Bool} (hreached : Reached raster level seen' (pixelsOf groups ++ group.pixels))
    (hcomponent : group.Component raster level) (hfilled : group.Filled raster level) :
    Collected raster level (visited ++ [group.first]) (seen', group.blob raster :: found)
      (groups ++ [group]) where
  blobs := by
    rw [List.reverse_cons, h.blobs, List.map_append]
    rfl
  reached := by rwa [pixelsOf_concat]
  component :=
    List.forall_mem_append.mpr ⟨h.component, List.forall_mem_singleton.mpr hcomponent⟩
  filled := List.forall_mem_append.mpr ⟨h.filled, List.forall_mem_singleton.mpr hfilled⟩
  firsts := by
    rw [List.map_append]
    exact h.firsts.append (List.Sublist.refl [group.first])
  mem_of_lit := by
    intro spot hspot hlit
    rw [pixelsOf_concat, List.mem_append]
    rcases List.mem_append.mp hspot with hvisited | hlast
    · exact Or.inl (h.mem_of_lit spot hvisited hlit)
    · rw [List.mem_singleton.mp hlast]
      exact Or.inr List.mem_cons_self

/-- **One position** of the raster. -/
theorem collectAt (hwords : raster.InWords)
    (h : Collected raster level visited (seen, found) groups)
    (hvisit : visited ++ spot :: rest = raster.positions) :
    ∃ more, Collected raster level (visited ++ [spot])
      (Detection.collectAt raster level (seen, found) spot) (groups ++ more) := by
  rcases discover_cases raster level ⟨seen, #[]⟩ spot with ⟨hlit, hfresh, -⟩ | ⟨hold, hsame⟩
  · have hbegin : Filling raster level (pixelsOf groups) spot 0
        (discover raster level ⟨seen, #[]⟩ spot) := .begin h.reached hlit hfresh
    have hfill := hbegin.reached.fill_spread (Nat.le_refl (raster.height * raster.width + 0))
    obtain ⟨last, hfilling, hlast⟩ := hfill.filling hwords hbegin
    obtain ⟨others, hothers⟩ := hfilling.exists_cons
    have hcomponent := h.component_of_filling hlit hfresh hvisit hfilling hlast hothers
    have hreached := hfilling.reached
    rw [hothers] at hreached
    have hpush := h.push hreached hcomponent ⟨seen, _, hfill, hothers⟩
    have hnonempty : ¬ (#[spot] : Array Position).isEmpty = true := Bool.false_ne_true
    refine ⟨[⟨spot, others⟩], ?_⟩
    unfold Detection.collectAt
    dsimp only
    rw [found_discover hlit hfresh, if_neg hnonempty, hothers]
    exact hpush
  · refine ⟨[], ?_⟩
    unfold Detection.collectAt
    dsimp only
    rw [hsame, if_pos (show (#[] : Array Position).isEmpty = true from rfl), List.append_nil]
    exact h.skip hold

/-- **All positions** from one on. -/
theorem foldl (hwords : raster.InWords) {state : Array Bool × List Blob}
    (h : Collected raster level visited state groups)
    (hvisit : visited ++ rest = raster.positions) :
    ∃ all, Collected raster level raster.positions
      (rest.foldl (Detection.collectAt raster level) state) all := by
  induction rest generalizing visited state groups with
  | nil =>
      rw [List.append_nil] at hvisit
      exact ⟨groups, hvisit ▸ h⟩
  | cons spot rest ih =>
      obtain ⟨more, hnext⟩ := h.collectAt hwords hvisit
      exact ih hnext (by rw [← hvisit, List.append_assoc, List.singleton_append])

/-- When the whole raster was visited, the groups are its components. -/
theorem partition (h : Collected raster level raster.positions (seen, found) groups) :
    Partition raster level groups where
  component := h.component
  mem_iff spot := by
    constructor
    · exact h.reached.lit spot
    · intro hlit
      exact h.mem_of_lit spot (Raster.mem_positions_iff.mpr (holds_of_lit hlit)) hlit
  nodup := h.reached.nodup

end Collected

/-- The groups of a raster, in raster order of their first pixels. -/
theorem exists_collected (hwords : raster.InWords) (level : α) :
    ∃ seen found groups, collect raster level = found.reverse ∧
      Collected raster level raster.positions (seen, found) groups := by
  have hstart : Collected raster level []
      (Array.replicate (raster.height * raster.width) false, []) [] := {
    blobs := rfl
    reached := Reached.nil raster level
    component := nofun
    filled := nofun
    firsts := List.Sublist.refl []
    mem_of_lit := nofun }
  obtain ⟨groups, hcollected⟩ := hstart.foldl hwords (List.nil_append raster.positions)
  exact ⟨_, _, groups, rfl, hcollected⟩

/-- **The order of groups**: the brighter peak comes first, and of equally bright ones the group
whose first pixel comes first on the raster. -/
def Group.Before (raster : Raster) (a b : Group) : Prop :=
  (b.blob raster).peakValue < (a.blob raster).peakValue ∨
    (b.blob raster).peakValue = (a.blob raster).peakValue ∧
      raster.index a.first < raster.index b.first

/-- Groups in raster order, sorted by their peaks, are in order. -/
theorem pairwise_before {groups : List Group}
    (h : groups.Pairwise fun a b => raster.index a.first < raster.index b.first) :
    (groups.mergeSort fun a b =>
      decide ((b.blob raster).peakValue ≤ (a.blob raster).peakValue)).Pairwise
        (Group.Before raster) := by
  refine (pairwise_mergeSort_of_pairwise ?_ ?_ h).imp ?_
  · intro a b c hab hbc
    exact decide_eq_true ((of_decide_eq_true hbc).trans (of_decide_eq_true hab))
  · intro a b
    rcases Nat.le_total (b.blob raster).peakValue (a.blob raster).peakValue with hle | hle
    · exact Or.inl (decide_eq_true hle)
    · exact Or.inr (decide_eq_true hle)
  · rintro a b ⟨hle, hlevel⟩
    rcases Nat.lt_or_eq_of_le (of_decide_eq_true hle) with hlt | heq
    · exact Or.inl hlt
    · exact Or.inr ⟨heq, hlevel (decide_eq_true heq.ge)⟩

/-- **The blobs of a raster are its components.**  Whatever the size of the raster, as long as
words can say it, and whatever the level, there are groups, one for each blob and in the same
order, which are the classes of the lit pixels under steps along edges between lit pixels: every
class is one group and every group a class.  A blob has the number of pixels of its group, their
bounds, their greatest value and a pixel that has it, so that all areas add up to the number of
lit pixels.  The brightest peaks come first, and equally bright ones in the order of the first
pixels of their groups.  Each group is what the loop takes in that is begun at its first pixel
and ends by itself, and no pixel enters any of these loops a second time. -/
theorem blobs_components (raster : Raster) (hwords : raster.InWords) (level : α) :
    ∃ groups : List Group, blobs raster level = groups.map (Group.blob raster) ∧
      Partition raster level groups ∧
      (∀ spot, lit raster level spot = true → ∃! group, group ∈ groups ∧
        ∀ other, other ∈ group.pixels ↔ Linked raster level spot other) ∧
      (∀ group ∈ groups, (group.blob raster).Measures raster group.pixels ∧
        group.Filled raster level) ∧
      ((blobs raster level).map Blob.area).sum = raster.positions.countP (lit raster level) ∧
      groups.Pairwise (Group.Before raster) := by
  obtain ⟨seen, found, groups, hcollect, hcollected⟩ := exists_collected hwords level
  let le (a b : Group) : Bool := (b.blob raster).peakValue ≤ (a.blob raster).peakValue
  have hperm : (groups.mergeSort le).Perm groups := List.mergeSort_perm groups le
  have hpartition : Partition raster level (groups.mergeSort le) :=
    hcollected.partition.perm hperm
  have hblobs : blobs raster level = (groups.mergeSort le).map (Group.blob raster) := by
    have hmap : (groups.mergeSort le).map (Group.blob raster) =
        (groups.map (Group.blob raster)).mergeSort fun a b => b.peakValue ≤ a.peakValue :=
      List.map_mergeSort fun _ _ _ _ => rfl
    rw [hmap, ← hcollected.blobs, ← hcollect]
    rfl
  refine ⟨groups.mergeSort le, hblobs, hpartition, fun spot => hpartition.existsUnique, ?_, ?_, ?_⟩
  · intro group hgroup
    exact ⟨group.blob_measures raster, hcollected.filled group (hperm.mem_iff.mp hgroup)⟩
  · rw [hblobs, List.map_map]
    exact hpartition.sum_area
  · have hfirsts := raster.pairwise_positions.sublist hcollected.firsts
    rw [List.pairwise_map] at hfirsts
    exact pairwise_before hfirsts

/-- A raster with a cup of five lit pixels and one more lit pixel beside it. -/
def cup : Raster := .ofFn 2 5 fun row col =>
  if row = 0 then #[9, 0, 9, 0, 4][col]?.getD 0 else #[5, 7, 5, 0, 0][col]?.getD 0

/-- The cup is one blob, though both of its sides are come to first, and the six lit pixels are
those of two blobs. -/
theorem blobs_components_cup :
    cup.InWords ∧ (collect cup (0 : Float)).map Blob.area = [5, 1] ∧
      ((blobs cup (0 : Float)).map Blob.area).sum = 6 := by
  have hwords : cup.InWords := ⟨by decide, by decide⟩
  obtain ⟨groups, -, -, -, -, hsum, -⟩ := blobs_components cup hwords (0 : Float)
  refine ⟨hwords, by decide +kernel, ?_⟩
  rw [hsum]
  decide

end PlateSolver.Detection
