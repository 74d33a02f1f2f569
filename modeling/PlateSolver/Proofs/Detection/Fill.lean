import Mathlib.Data.List.Nodup
import Mathlib.Data.List.Perm.Subperm
import PlateSolver.Proofs.Detection.Components
import PlateSolver.Proofs.Image.Raster

/-!
# Filling a component

Spreading from a pixel is a loop that goes on as long as there is a pixel to look at, and
whose number of rounds is bounded in advance only so that it is seen to end.  The loop without
the bound is the relation `Fill`.  That the two are the same rests on one fact: a pixel is
marked when it is taken in and never taken in again, so that there are never more of them
than the raster has pixels.

* `Reached` — marks that say which pixels were taken in, each of them once.
* `Grows` — what looking at some positions does to a group: `Grows.discover`, `Grows.look`.
* `Fill` — the loop; `Reached.fill_spread` is its end within the bound.
* `Filling` — the invariant: what was taken in belongs together, and whatever touches a pixel
  that was looked at is taken in.  `Filling.look` is one round and `Fill.filling` all rounds.
* `Filling.mem_iff` — when no pixel is left to look at, the group is a whole component.

Pixels of other groups may have been marked before.  They are carried along as the list `done`,
of which all that matters is that it does not break off inside a component.
-/

namespace PlateSolver.Detection

variable {α : Type} [Scalar α] {raster : Raster} {level : α} {s s' s'' : Spread}
  {spot : Position} {done spots more : List Position} {next : Nat}

/-! ## Marks -/

/-- Whether a position is marked, or cannot be because it is not on the raster. -/
def marked (raster : Raster) (seen : Array Bool) (spot : Position) : Bool :=
  seen[raster.index spot]?.getD true

/-- **Pixels that were reached**: those that are marked, all of them lit, each of them once. -/
structure Reached (raster : Raster) (level : α) (seen : Array Bool) (spots : List Position) :
    Prop where
  /-- There is a mark for every pixel. -/
  size_seen : seen.size = raster.height * raster.width
  /-- The marks are on what was reached. -/
  marked_iff : ∀ spot, raster.holds spot = true → (marked raster seen spot = true ↔ spot ∈ spots)
  /-- What was reached is lit. -/
  lit : ∀ spot ∈ spots, lit raster level spot = true
  /-- Nothing was reached twice. -/
  nodup : spots.Nodup

theorem holds_of_lit (h : lit raster level spot = true) : raster.holds spot = true := by
  unfold lit at h
  exact (Bool.and_eq_true_iff.mp h).1

theorem Reached.nil (raster : Raster) (level : α) :
    Reached raster level (Array.replicate (raster.height * raster.width) false) [] where
  size_seen := Array.size_replicate
  marked_iff spot hholds := by
    unfold marked
    rw [Array.getElem?_replicate, if_pos (Raster.index_lt hholds)]
    simp
  lit := nofun
  nodup := List.nodup_nil

/-- No more pixels are reached than the raster has. -/
theorem Reached.length_le {seen : Array Bool} (h : Reached raster level seen spots) :
    spots.length ≤ raster.height * raster.width := by
  have hnodup : (spots.map raster.index).Nodup := by
    refine List.Nodup.map_on ?_ h.nodup
    intro a ha b hb hindex
    exact Raster.index_inj (holds_of_lit (h.lit a ha)) (holds_of_lit (h.lit b hb)) hindex
  have hsubset : spots.map raster.index ⊆ List.range (raster.height * raster.width) := by
    intro n hn
    obtain ⟨spot, hspot, rfl⟩ := List.mem_map.mp hn
    exact List.mem_range.mpr (Raster.index_lt (holds_of_lit (h.lit spot hspot)))
  calc spots.length
    _ = (spots.map raster.index).length := (List.length_map _).symm
    _ ≤ (List.range (raster.height * raster.width)).length := (hnodup.subperm hsubset).length_le
    _ = raster.height * raster.width := List.length_range

/-- Marking a lit pixel that was not marked reaches one more pixel. -/
theorem Reached.push {seen : Array Bool} (h : Reached raster level seen spots)
    (hlit : Detection.lit raster level spot = true) (hfresh : marked raster seen spot = false) :
    Reached raster level (seen.setIfInBounds (raster.index spot) true) (spots ++ [spot]) where
  size_seen := by rw [Array.size_setIfInBounds, h.size_seen]
  marked_iff other hholds := by
    have hspot := holds_of_lit hlit
    rw [List.mem_append, List.mem_singleton, ← h.marked_iff other hholds]
    unfold marked
    by_cases hsame : other = spot
    · subst hsame
      have hindex : raster.index other < seen.size := by
        rw [h.size_seen]
        exact Raster.index_lt hspot
      rw [Array.getElem?_setIfInBounds_self_of_lt hindex]
      simp
    · have hindex : raster.index spot ≠ raster.index other := fun heq =>
        hsame (Raster.index_inj hholds hspot heq.symm)
      rw [Array.getElem?_setIfInBounds_ne hindex, or_iff_left hsame]
  lit other hother := by
    rcases List.mem_append.mp hother with hold | hnew
    · exact h.lit other hold
    · rw [List.mem_singleton.mp hnew]
      exact hlit
  nodup := by
    rw [List.nodup_append]
    refine ⟨h.nodup, List.nodup_singleton spot, ?_⟩
    rintro other hother _ hnew rfl
    rw [List.mem_singleton.mp hnew] at hother
    rw [(h.marked_iff spot (holds_of_lit hlit)).mpr hother] at hfresh
    cases hfresh

/-! ## One look -/

/-- A position is taken in if it is lit and was not marked; otherwise nothing changes. -/
theorem discover_cases (raster : Raster) (level : α) (s : Spread) (spot : Position) :
    (lit raster level spot = true ∧ marked raster s.seen spot = false ∧
        discover raster level s spot =
          ⟨s.seen.setIfInBounds (raster.index spot) true, s.found.push spot⟩) ∨
      ((lit raster level spot = true → marked raster s.seen spot = true) ∧
        discover raster level s spot = s) := by
  unfold discover
  by_cases htaken : (lit raster level spot && !marked raster s.seen spot) = true
  · left
    rw [Bool.and_eq_true, Bool.not_eq_true'] at htaken
    refine ⟨htaken.1, htaken.2, ?_⟩
    rw [if_pos]
    rw [htaken.1, Bool.true_and, Bool.not_eq_true']
    exact htaken.2
  · right
    refine ⟨?_, if_neg htaken⟩
    intro hlit
    rw [hlit, Bool.true_and, Bool.not_eq_true', Bool.not_eq_false] at htaken
    exact htaken

/-- **What looking at some positions does to a group**: it takes in some of them, and after
that all of them that are lit are reached, in this group or before. -/
structure Grows (raster : Raster) (level : α) (done spots : List Position) (s s' : Spread) :
    Prop where
  /-- Some of the positions are taken in at the end. -/
  exists_append : ∃ new, s'.found.toList = s.found.toList ++ new ∧ new ⊆ spots
  /-- The marks are kept up. -/
  reached : Reached raster level s'.seen (done ++ s'.found.toList)
  /-- No lit position is passed over. -/
  mem_of_lit : ∀ spot ∈ spots, lit raster level spot = true → spot ∈ done ++ s'.found.toList

namespace Grows

theorem refl (h : Reached raster level s.seen (done ++ s.found.toList)) :
    Grows raster level done [] s s where
  exists_append := ⟨[], (List.append_nil _).symm, List.Subset.refl _⟩
  reached := h
  mem_of_lit := nofun

theorem mem_of_mem (h : Grows raster level done spots s s')
    (hspot : spot ∈ done ++ s.found.toList) : spot ∈ done ++ s'.found.toList := by
  obtain ⟨new, hnew, -⟩ := h.exists_append
  rw [hnew, ← List.append_assoc]
  exact List.mem_append_left new hspot

theorem trans (h : Grows raster level done spots s s')
    (hmore : Grows raster level done more s' s'') :
    Grows raster level done (spots ++ more) s s'' where
  exists_append := by
    obtain ⟨first, hfirst, hfirstSpots⟩ := h.exists_append
    obtain ⟨second, hsecond, hsecondSpots⟩ := hmore.exists_append
    refine ⟨first ++ second, by rw [hsecond, hfirst, List.append_assoc], ?_⟩
    exact List.append_subset.mpr ⟨List.subset_append_of_subset_left _ hfirstSpots,
      List.subset_append_of_subset_right _ hsecondSpots⟩
  reached := hmore.reached
  mem_of_lit := by
    intro spot hspot hlit
    rcases List.mem_append.mp hspot with hold | hnew
    · exact hmore.mem_of_mem (h.mem_of_lit spot hold hlit)
    · exact hmore.mem_of_lit spot hnew hlit

/-- Looking at one position. -/
theorem discover (h : Reached raster level s.seen (done ++ s.found.toList)) (spot : Position) :
    Grows raster level done [spot] s (Detection.discover raster level s spot) := by
  rcases discover_cases raster level s spot with ⟨hlit, hfresh, hs⟩ | ⟨hold, hs⟩
  · rw [hs]
    have hpush : (s.found.push spot).toList = s.found.toList ++ [spot] := Array.toList_push
    refine ⟨⟨[spot], hpush, List.Subset.refl _⟩, ?_, ?_⟩
    · rw [hpush, ← List.append_assoc]
      exact h.push hlit hfresh
    · intro other hother _
      rw [hpush, List.mem_append, List.mem_append]
      exact Or.inr (Or.inr hother)
  · rw [hs]
    refine ⟨⟨[], (List.append_nil _).symm, List.nil_subset _⟩, h, ?_⟩
    intro other hother hlit
    rw [List.mem_singleton.mp hother] at hlit ⊢
    exact (h.marked_iff spot (holds_of_lit hlit)).mp (hold hlit)

/-- Looking at several positions, one after the other. -/
theorem look (h : Reached raster level s.seen (done ++ s.found.toList)) (spots : List Position) :
    Grows raster level done spots s (spots.foldl (Detection.discover raster level) s) := by
  induction spots generalizing s with
  | nil => exact refl h
  | cons spot spots ih =>
      have hfirst := discover h spot
      exact hfirst.trans (ih hfirst.reached)

end Grows

/-! ## The loop -/

/-- **The loop that fills a group**: as long as there is a pixel numbered `next`, look at the
positions that touch it, and go on with the one after it. -/
inductive Fill (raster : Raster) (level : α) : Nat → Spread → Spread → Prop
  | done {next : Nat} {s : Spread} (hnone : s.found[next]? = none) : Fill raster level next s s
  | look {next : Nat} {s s' : Spread} {spot : Position} (hspot : s.found[next]? = some spot)
      (hrest : Fill raster level (next + 1)
        ((neighbours spot).foldl (discover raster level) s) s') :
      Fill raster level next s s'

/-- **The loop ends within its bound.**  Each round is spent on another pixel, and there are no
more of them than the raster has. -/
theorem Reached.fill_spread {fuel : Nat} (h : Reached raster level s.seen (done ++ s.found.toList))
    (hfuel : raster.height * raster.width ≤ fuel + next) :
    Fill raster level next s (spread raster level fuel next s) := by
  induction fuel generalizing next s with
  | zero =>
      have hlength := h.length_le
      have hsize : s.found.toList.length = s.found.size := Array.length_toList
      rw [List.length_append] at hlength
      exact .done (Array.getElem?_eq_none (by omega))
  | succ fuel ih =>
      unfold spread
      cases hspot : s.found[next]? with
      | none => exact .done hspot
      | some spot => exact .look hspot (ih (Grows.look h (neighbours spot)).reached (by omega))

/-- **The invariant of the loop** that fills the group of a pixel, when the pixels before the
one numbered `next` have been looked at. -/
structure Filling (raster : Raster) (level : α) (done : List Position) (first : Position)
    (next : Nat) (s : Spread) : Prop where
  /-- The marks are on the pixels of earlier groups and of this one. -/
  reached : Reached raster level s.seen (done ++ s.found.toList)
  /-- The group begins with the first pixel. -/
  exists_cons : ∃ others, s.found.toList = first :: others
  /-- Whatever is in the group belongs together with the first pixel. -/
  linked : ∀ spot ∈ s.found.toList, Linked raster level first spot
  /-- Whatever touches a pixel that was looked at is reached. -/
  closed : ∀ i < next, ∀ spot, s.found[i]? = some spot → ∀ other, Touching spot other →
    lit raster level other = true → other ∈ done ++ s.found.toList

/-- A lit pixel that was not marked is the first one of its group. -/
theorem found_discover {seen : Array Bool} (hlit : lit raster level spot = true)
    (hfresh : marked raster seen spot = false) :
    (discover raster level ⟨seen, #[]⟩ spot).found = #[spot] := by
  rcases discover_cases raster level ⟨seen, #[]⟩ spot with ⟨-, -, hs⟩ | ⟨hold, -⟩
  · rw [hs]
    rfl
  · rw [hold hlit] at hfresh
    cases hfresh

/-- **The loop begins** with a lit pixel that was not marked. -/
theorem Filling.begin {seen : Array Bool} (h : Reached raster level seen done)
    (hlit : lit raster level spot = true) (hfresh : marked raster seen spot = false) :
    Filling raster level done spot 0 (discover raster level ⟨seen, #[]⟩ spot) := by
  have hfound := found_discover hlit hfresh
  have hempty : Reached raster level seen (done ++ [] : List Position) := by
    rwa [List.append_nil]
  refine ⟨(Grows.discover (s := ⟨seen, #[]⟩) hempty spot).reached, ?_, ?_, nofun⟩
  · rw [hfound]
    exact ⟨[], rfl⟩
  · intro other hother
    rw [hfound] at hother
    rw [List.mem_singleton.mp hother]
    exact Linked.refl spot

/-- **One round.** -/
theorem Filling.look {first : Position} (hwords : raster.InWords)
    (h : Filling raster level done first next s)
    (hspot : s.found[next]? = some spot) :
    Filling raster level done first (next + 1)
      ((neighbours spot).foldl (discover raster level) s) := by
  have hgrows := Grows.look h.reached (neighbours spot)
  generalize (neighbours spot).foldl (discover raster level) s = s' at hgrows ⊢
  obtain ⟨new, hnew, hneighbours⟩ := hgrows.exists_append
  have hmem : spot ∈ s.found.toList := Array.mem_toList_iff.mpr (Array.mem_of_getElem? hspot)
  refine ⟨hgrows.reached, ?_, ?_, ?_⟩
  · obtain ⟨others, hothers⟩ := h.exists_cons
    exact ⟨others ++ new, by rw [hnew, hothers, List.cons_append]⟩
  · intro other hother
    rw [hnew] at hother
    rcases List.mem_append.mp hother with hold | hadded
    · exact h.linked other hold
    · have hspotLit := h.reached.lit spot (List.mem_append_right done hmem)
      have hotherLit : lit raster level other = true := by
        apply hgrows.reached.lit
        rw [hnew]
        exact List.mem_append_right done (List.mem_append_right _ hadded)
      refine (h.linked spot hmem).trans (Linked.of_touching hspotLit hotherLit ?_)
      exact (mem_neighbours_iff hwords (holds_of_lit hotherLit)).mp (hneighbours hadded)
  · -- The pixels looked at are the same as before and one more, so the two are told apart.
    intro i hi looked hlooked other htouch hlit
    have hsize : next < s.found.size := (Array.getElem?_eq_some_iff.mp hspot).1
    have hsame : s'.found[i]? = s.found[i]? := by
      rw [← Array.getElem?_toList, ← Array.getElem?_toList, hnew, List.getElem?_append_left]
      rw [Array.length_toList]
      omega
    rw [hsame] at hlooked
    rcases Nat.lt_succ_iff_lt_or_eq.mp hi with hlt | rfl
    · exact hgrows.mem_of_mem (h.closed i hlt looked hlooked other htouch hlit)
    · obtain rfl : spot = looked := Option.some.inj (hspot.symm.trans hlooked)
      have hneighbour := (mem_neighbours_iff hwords (holds_of_lit hlit)).mpr htouch
      exact hgrows.mem_of_lit other hneighbour hlit

/-- **All rounds.**  At the end every pixel of the group has been looked at. -/
theorem Fill.filling {first : Position} (hwords : raster.InWords)
    (hfill : Fill raster level next s s') (h : Filling raster level done first next s) :
    ∃ last, Filling raster level done first last s' ∧ s'.found.size ≤ last := by
  induction hfill with
  | @done next s hnone => exact ⟨next, h, Array.getElem?_eq_none_iff.mp hnone⟩
  | look hspot _ ih => exact ih (h.look hwords hspot)

/-- **A group that is filled is a component**, if no component was begun before and left. -/
theorem Filling.mem_iff {first : Position} (h : Filling raster level done first next s)
    (hlooked : s.found.size ≤ next)
    (hdone : ∀ a ∈ done, ∀ b, Linked raster level a b → b ∈ done) (spot : Position) :
    spot ∈ s.found.toList ↔ Linked raster level first spot := by
  constructor
  · exact h.linked spot
  intro hlinked
  -- Along the way from the first pixel: no step of it leads to a pixel of another group.
  induction hlinked with
  | refl =>
      obtain ⟨others, hothers⟩ := h.exists_cons
      rw [hothers]
      exact List.mem_cons_self
  | @tail a b _ hstep ih =>
      obtain ⟨ha, hb, htouch⟩ := hstep
      obtain ⟨i, hi, hget⟩ := Array.getElem_of_mem (Array.mem_toList_iff.mp ih)
      have hspot : s.found[i]? = some a := by rw [Array.getElem?_eq_getElem hi, hget]
      rcases List.mem_append.mp (h.closed i (by omega) a hspot b htouch hb) with hold | hfound
      · have hback : a ∈ done := hdone b hold a (Linked.of_touching hb ha htouch.symm)
        exact absurd rfl ((List.nodup_append.mp h.reached.nodup).2.2 a hback a ih)
      · exact hfound

end PlateSolver.Detection
