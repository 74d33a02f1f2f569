import Mathlib.Tactic.Ring
import PlateSolver.Proofs.Search.Course

/-!
# The spiral is complete

A search that skips a position can miss the only one that fits, and one that visits a
position twice does its work twice.  Neither happens: the offsets of a spiral are all the
pairs of whole numbers within its outermost square, each of them once, from the inside
out and in one order on every square.

* `Offset.ring`, `Offset.Before` — the square an offset lies on, and the order of a spiral.
* `column`, `mem_column_iff`, `pairwise_column` — the offsets of a square column by column.
* `mem_ringOffsets_iff`, `pairwise_ringOffsets`, `length_ringOffsets` — one square.
* `ringOffsets_eq_filter` — it is what a search of the whole square for its border comes to.
* `spiralOffsets_succ`, `spiralOffsets_mono` — a wider spiral goes on where a narrower
  one ends.
* `Plan.candidateCount_eq` — the count of candidates stops at the greatest count there is.
* `spiralOffsets_enumerates` — all of it, for any number of squares.

Membership and order settle everything else.  A list in a strict order has no element
twice, so two facts about one column — what is in it, and that it ascends — carry the
whole development, and only the number of offsets has to be counted.
-/

namespace PlateSolver

namespace Offset

/-- The number of the square that an offset lies on. -/
def ring (offset : Offset) : Nat := max offset.1.natAbs offset.2.natAbs

/-- **The order of a spiral**: from the inside out, and on one square by right ascension
and then by declination. -/
def Before (a b : Offset) : Prop :=
  a.ring < b.ring ∨ a.ring = b.ring ∧ (a.1 < b.1 ∨ a.1 = b.1 ∧ a.2 < b.2)

theorem Before.ne {a b : Offset} (h : a.Before b) : a ≠ b := by
  rintro rfl
  rcases h with h | ⟨-, h | ⟨-, h⟩⟩ <;> omega

end Offset

/-! ## Whole numbers on both sides of zero -/

theorem mem_span_iff {n : Nat} {k : Int} : k ∈ span n ↔ k.natAbs ≤ n := by
  unfold span
  rw [List.mem_map]
  constructor
  · rintro ⟨m, hm, rfl⟩
    have hm := List.mem_range.mp hm
    omega
  · intro hk
    exact ⟨(k + n).toNat, List.mem_range.mpr (by omega), by omega⟩

theorem pairwise_span (n : Nat) : (span n).Pairwise (· < ·) := by
  unfold span
  rw [List.pairwise_map]
  apply List.pairwise_lt_range.imp
  intro a b hab
  omega

theorem length_span (n : Nat) : (span n).length = 2 * n + 1 := by
  simp [span]

theorem span_succ (n : Nat) :
    span (n + 1) = (-(n + 1) : Int) :: span n ++ [(n + 1 : Int)] := by
  have hmiddle : (List.range (2 * n + 1)).map
      ((fun k : Nat => (k : Int) - ((n + 1 : Nat) : Int)) ∘ Nat.succ) = span n := by
    apply List.map_congr_left
    intro k _
    show ((k + 1 : Nat) : Int) - ((n + 1 : Nat) : Int) = k - n
    omega
  have hfirst : ((0 : Nat) : Int) - ((n + 1 : Nat) : Int) = -(n + 1) := by omega
  have hlast : ((2 * n + 1 + 1 : Nat) : Int) - ((n + 1 : Nat) : Int) = n + 1 := by omega
  unfold span
  rw [show 2 * (n + 1) + 1 = 2 * n + 1 + 1 + 1 by omega, List.range_succ, List.range_succ_eq_map,
    List.map_append, List.map_cons, List.map_map, List.map_singleton, hmiddle, hfirst, hlast]
  rfl

/-! ## One square -/

/-- The offsets of a square in one column: all of them at its two sides, and the two ends
in between. -/
def column (ring : Nat) (i : Int) : List Offset :=
  if i.natAbs = ring then (span ring).map fun j => (i, j)
  else [(i, -(ring : Int)), (i, (ring : Int))]

theorem ringOffsets_eq (ring : Nat) : ringOffsets ring = (span ring).flatMap (column ring) := rfl

theorem mem_column_iff {ring : Nat} {i : Int} {offset : Offset} (hi : i.natAbs ≤ ring) :
    offset ∈ column ring i ↔ offset.1 = i ∧ offset.ring = ring := by
  obtain ⟨k, j⟩ := offset
  unfold column Offset.ring
  split
  · rw [List.mem_map]
    constructor
    · rintro ⟨l, hl, heq⟩
      have hl := mem_span_iff.mp hl
      cases heq
      exact ⟨rfl, by omega⟩
    · rintro ⟨rfl, hring⟩
      exact ⟨j, mem_span_iff.mpr (by omega), rfl⟩
  · simp only [List.mem_cons, Prod.mk.injEq, List.not_mem_nil, or_false]
    constructor <;> omega

theorem pairwise_column {ring : Nat} {i : Int} (hi : i.natAbs ≤ ring) :
    (column ring i).Pairwise fun a b => a.2 < b.2 := by
  unfold column
  split
  · exact List.pairwise_map.mpr (pairwise_span ring)
  · -- Off the sides there is a square around the column, so its two ends differ.
    rw [List.pairwise_pair]
    omega

theorem length_column_of_eq {ring : Nat} {i : Int} (hi : i.natAbs = ring) :
    (column ring i).length = 2 * ring + 1 := by
  rw [column, if_pos hi, List.length_map, length_span]

theorem length_column_of_lt {ring : Nat} {i : Int} (hi : i.natAbs < ring) :
    (column ring i).length = 2 := by
  rw [column, if_neg (by omega)]
  rfl

theorem mem_ringOffsets_iff {ring : Nat} {offset : Offset} :
    offset ∈ ringOffsets ring ↔ offset.ring = ring := by
  rw [ringOffsets_eq, List.mem_flatMap]
  constructor
  · rintro ⟨i, hi, hmem⟩
    exact ((mem_column_iff (mem_span_iff.mp hi)).mp hmem).2
  · intro hring
    have hi : offset.1.natAbs ≤ ring := hring ▸ Nat.le_max_left _ _
    exact ⟨offset.1, mem_span_iff.mpr hi, (mem_column_iff hi).mpr ⟨rfl, hring⟩⟩

theorem pairwise_ringOffsets (ring : Nat) : (ringOffsets ring).Pairwise Offset.Before := by
  have hlex : (ringOffsets ring).Pairwise fun a b => a.1 < b.1 ∨ a.1 = b.1 ∧ a.2 < b.2 := by
    rw [ringOffsets_eq, List.pairwise_flatMap]
    constructor
    · intro i hi
      have hi := mem_span_iff.mp hi
      apply (pairwise_column hi).imp_of_mem
      intro a b ha hb hab
      exact Or.inr ⟨((mem_column_iff hi).mp ha).1.trans ((mem_column_iff hi).mp hb).1.symm, hab⟩
    · apply (pairwise_span ring).imp_of_mem
      intro i k hi hk hik a ha b hb
      rw [mem_column_iff (mem_span_iff.mp hi)] at ha
      rw [mem_column_iff (mem_span_iff.mp hk)] at hb
      exact Or.inl (by omega)
  apply hlex.imp_of_mem
  intro a b ha hb hab
  exact Or.inr ⟨(mem_ringOffsets_iff.mp ha).trans (mem_ringOffsets_iff.mp hb).symm, hab⟩

theorem length_ringOffsets (ring : Nat) :
    (ringOffsets (ring + 1 : Nat)).length = 8 * (ring + 1) := by
  have hbetween : ((span ring).flatMap (column (ring + 1))).length = 2 * (2 * ring + 1) := by
    have hlengths : (span ring).map (fun i => (column (ring + 1) i).length) =
        List.replicate (2 * ring + 1) 2 := by
      rw [List.eq_replicate_iff, List.length_map, length_span]
      refine ⟨rfl, ?_⟩
      intro length hlength
      obtain ⟨i, hi, rfl⟩ := List.mem_map.mp hlength
      have hi := mem_span_iff.mp hi
      exact length_column_of_lt (by omega)
    rw [List.length_flatMap, hlengths, List.sum_replicate_nat]
    omega
  rw [ringOffsets_eq, span_succ, List.flatMap_append, List.flatMap_cons, List.flatMap_singleton,
    List.length_append, List.length_append, hbetween, length_column_of_eq (by omega),
    length_column_of_eq (by omega)]
  omega

/-- Whether an offset within a square is on its border. -/
def onBorder (ring : Nat) (offset : Offset) : Bool :=
  offset.1.natAbs == ring || offset.2.natAbs == ring

theorem onBorder_iff {ring : Nat} {offset : Offset} :
    onBorder ring offset = true ↔ offset.1.natAbs = ring ∨ offset.2.natAbs = ring := by
  unfold onBorder
  rw [Bool.or_eq_true, beq_iff_eq, beq_iff_eq]

/-- A column is what is left of all its offsets when those inside the square are taken out. -/
theorem column_eq_filter {ring : Nat} {i : Int} (hi : i.natAbs ≤ ring) :
    column ring i = ((span ring).map fun j => (i, j)).filter (onBorder ring) := by
  unfold column
  split
  case isTrue hside =>
    symm
    rw [List.filter_eq_self]
    intro offset hoffset
    obtain ⟨j, -, rfl⟩ := List.mem_map.mp hoffset
    exact onBorder_iff.mpr (Or.inl hside)
  case isFalse hside =>
    obtain ⟨inner, rfl⟩ : ∃ inner, ring = inner + 1 := ⟨ring - 1, by omega⟩
    have hinside : ((span inner).map fun j => (i, j)).filter (onBorder (inner + 1)) = [] := by
      rw [List.filter_eq_nil_iff]
      intro offset hoffset hborder
      obtain ⟨j, hj, rfl⟩ := List.mem_map.mp hoffset
      have hj := mem_span_iff.mp hj
      rcases onBorder_iff.mp hborder with h | h
      · exact hside h
      · dsimp only at h
        omega
    have hfirst : onBorder (inner + 1) (i, -((inner : Int) + 1)) = true :=
      onBorder_iff.mpr (Or.inr (by dsimp only; omega))
    have hlast : onBorder (inner + 1) (i, (inner : Int) + 1) = true :=
      onBorder_iff.mpr (Or.inr (by dsimp only; omega))
    rw [span_succ, List.map_append, List.map_cons, List.map_singleton, List.filter_append,
      List.filter_cons_of_pos hfirst, hinside, List.filter_cons_of_pos hlast, List.filter_nil]
    rfl

/-- **A hollow square is the border of a full one**: going through all its offsets column by
column and leaving out those inside comes to the same list. -/
theorem ringOffsets_eq_filter (ring : Nat) :
    ringOffsets ring =
      ((span ring).flatMap fun i => (span ring).map fun j => (i, j)).filter (onBorder ring) := by
  rw [ringOffsets_eq, List.filter_flatMap]
  apply congrArg List.flatten
  apply List.map_congr_left
  intro i hi
  exact column_eq_filter (mem_span_iff.mp hi)

theorem countP_ringOffsets (ring other : Nat) :
    (ringOffsets other).countP (fun offset => offset.ring = ring) =
      if other = ring then (ringOffsets ring).length else 0 := by
  by_cases heq : other = ring
  · subst heq
    rw [if_pos rfl, List.countP_eq_length]
    intro offset hoffset
    exact decide_eq_true (mem_ringOffsets_iff.mp hoffset)
  · rw [if_neg heq, List.countP_eq_zero]
    intro offset hoffset hring
    exact heq ((mem_ringOffsets_iff.mp hoffset).symm.trans (of_decide_eq_true hring))

/-! ## The squares from the inside out -/

theorem spiralOffsets_succ (rings : Nat) :
    spiralOffsets (rings + 1) = spiralOffsets rings ++ ringOffsets (rings + 1 : Nat) := by
  unfold spiralOffsets
  rw [List.range_succ, List.flatMap_append, List.flatMap_singleton]

/-- A wider spiral goes on where a narrower one ends. -/
theorem spiralOffsets_mono {inner outer : Nat} (h : inner ≤ outer) :
    spiralOffsets inner <+: spiralOffsets outer := by
  induction h with
  | refl => exact List.prefix_rfl
  | step _ ih =>
      rw [spiralOffsets_succ]
      exact ih.trans (List.prefix_append _ _)

theorem mem_spiralOffsets_iff {rings : Nat} {offset : Offset} :
    offset ∈ spiralOffsets rings ↔ offset.ring ≤ rings := by
  unfold spiralOffsets
  rw [List.mem_flatMap]
  constructor
  · rintro ⟨ring, hring, hmem⟩
    have hring := List.mem_range.mp hring
    rw [mem_ringOffsets_iff] at hmem
    omega
  · intro hring
    exact ⟨offset.ring, List.mem_range.mpr (by omega), mem_ringOffsets_iff.mpr rfl⟩

theorem pairwise_spiralOffsets (rings : Nat) : (spiralOffsets rings).Pairwise Offset.Before := by
  unfold spiralOffsets
  rw [List.pairwise_flatMap]
  constructor
  · intro ring _
    exact pairwise_ringOffsets ring
  · apply List.pairwise_lt_range.imp
    intro inner outer hlt a ha b hb
    rw [mem_ringOffsets_iff] at ha hb
    exact Or.inl (by omega)

theorem nodup_spiralOffsets (rings : Nat) : (spiralOffsets rings).Nodup :=
  (pairwise_spiralOffsets rings).imp Offset.Before.ne

theorem length_spiralOffsets (rings : Nat) :
    (spiralOffsets rings).length = (2 * rings + 1) ^ 2 := by
  induction rings with
  | zero => rfl
  | succ rings ih =>
      rw [spiralOffsets_succ, List.length_append, ih, length_ringOffsets]
      ring

theorem countP_spiralOffsets {ring rings : Nat} (h : ring ≤ rings) :
    (spiralOffsets rings).countP (fun offset => offset.ring = ring) =
      (ringOffsets ring).length := by
  induction rings with
  | zero =>
      obtain rfl : ring = 0 := by omega
      rfl
  | succ rings ih =>
      rw [spiralOffsets_succ, List.countP_append, countP_ringOffsets]
      rcases Nat.lt_or_ge rings ring with hlt | hle
      · obtain rfl : ring = rings + 1 := by omega
        have hinner : (spiralOffsets rings).countP (fun offset => offset.ring = rings + 1) = 0 := by
          rw [List.countP_eq_zero]
          intro offset hoffset hring
          have hring := of_decide_eq_true hring
          have hinside := mem_spiralOffsets_iff.mp hoffset
          omega
        rw [hinner, if_pos rfl, Nat.zero_add]
      · rw [ih hle, if_neg (by omega), Nat.add_zero]

namespace Plan

variable {α : Type}

/-- The count of candidates never starts over: it stops at the greatest count. -/
theorem candidateCount_eq (plan : Plan α) :
    plan.candidateCount = min ((2 * plan.rings + 1) ^ 2) countLimit := by
  have hside : saturate (saturate (plan.rings * 2) + 1) = min (2 * plan.rings + 1) countLimit := by
    unfold saturate
    omega
  unfold candidateCount
  rw [hside, saturate, Nat.pow_two]
  rcases Nat.le_total (2 * plan.rings + 1) countLimit with hle | hge
  · rw [Nat.min_eq_left hle]
  · -- A side that is too much for a count has a square that is, cut off before or after.
    rw [Nat.min_eq_right hge, Nat.min_eq_right (Nat.le_mul_self countLimit),
      Nat.min_eq_right (hge.trans (Nat.le_mul_self _))]

theorem length_centers [Analytic α] (plan : Plan α) (ra dec : α) :
    (plan.centers ra dec).length = (2 * plan.rings + 1) ^ 2 := by
  rw [centers, List.length_map, length_spiralOffsets]

end Plan

/-- **A spiral is complete, free of repetition, and in order.**  Of all offsets, it has
those within its outermost square once and no others; it starts with the nominal position
and goes from the inside out, and on one square by right ascension and then by declination;
a square other than the first has eight offsets for each step it is away from the middle.
The number of all offsets is a square, and it is the count of candidates of every plan with
that many squares, unless that count has reached the greatest one there is. -/
theorem spiralOffsets_enumerates {α : Type} [Analytic α] (rings : Nat) :
    (∀ offset : Offset, (spiralOffsets rings).count offset =
      if max offset.1.natAbs offset.2.natAbs ≤ rings then 1 else 0) ∧
    (spiralOffsets rings).head? = some (0, 0) ∧
    (spiralOffsets rings).Pairwise Offset.Before ∧
    (∀ ring, 0 < ring → ring ≤ rings →
      (spiralOffsets rings).countP (fun offset => offset.ring = ring) = 8 * ring) ∧
    (spiralOffsets rings).length = (2 * rings + 1) ^ 2 ∧
    ∀ plan : Plan α, plan.rings = rings →
      plan.candidateCount = min ((2 * rings + 1) ^ 2) (2 ^ 64 - 1) ∧
      ∀ ra dec, (plan.centers ra dec).length ≤ 2 ^ 64 - 1 →
        plan.candidateCount = (plan.centers ra dec).length := by
  refine ⟨?_, ?_, pairwise_spiralOffsets rings, ?_, length_spiralOffsets rings, ?_⟩
  · intro offset
    rw [(nodup_spiralOffsets rings).count]
    exact if_congr mem_spiralOffsets_iff rfl rfl
  · obtain ⟨rest, hrest⟩ := spiralOffsets_mono (Nat.zero_le rings)
    rw [← hrest]
    rfl
  · intro ring hpos hring
    rw [countP_spiralOffsets hring]
    obtain ⟨inner, rfl⟩ := Nat.exists_eq_succ_of_ne_zero (Nat.pos_iff_ne_zero.mp hpos)
    exact length_ringOffsets inner
  · rintro plan rfl
    refine ⟨plan.candidateCount_eq, ?_⟩
    intro ra dec hcount
    rw [plan.candidateCount_eq, ← plan.length_centers ra dec]
    exact Nat.min_eq_left hcount

end PlateSolver
