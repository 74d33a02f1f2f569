import PlateSolver.Arithmetic.Double

/-!
# Rankings: the first of a stable sort

Stars come in lists, are put in order of brightness, and only the first of them are
used.  What that means is said here without a sorting algorithm: nothing is lost, what is
kept and what is dropped are in order, one after the other, and elements that are equally
high in the order stay as they were.

* `Scalar.Ordered` — the order of a carrier is total, as sorting needs it.
* `level` — the elements that are as high in the order as a given one.
* `Ranking` — what is kept of a list, and what is dropped.
* `Ranking.kept_unique` — a ranking leaves no choice.
* `pairwise_mergeSort_of_pairwise` — a merge sort is stable.
* `ranking_mergeSort` — the first of a merge sort are a ranking.

Stability is said level by level.  The elements of one level are the same list before and
after, so whatever came first among them still does, and two lists that were put together
stay in that order on every level (`Ranking.filter_level_append`).
-/

namespace PlateSolver

/-- **A carrier with a total order.**  Every two values are comparable, undefined ones too. -/
class Scalar.Ordered (α : Type) [Scalar α] : Prop where
  precedes_trans : ∀ a b c : α, precedes a b → precedes b c → precedes a c
  precedes_total : ∀ a b : α, precedes a b ∨ precedes b a

/-- Binary floating point is ordered by the rank of its bit patterns. -/
instance : Scalar.Ordered Float where
  precedes_trans a b c hab hbc := by
    have hab : Double.rank a ≤ Double.rank b := of_decide_eq_true hab
    have hbc : Double.rank b ≤ Double.rank c := of_decide_eq_true hbc
    exact decide_eq_true (Int.le_trans hab hbc)
  precedes_total a b := by
    rcases Int.le_total (Double.rank a) (Double.rank b) with hab | hba
    · exact Or.inl (decide_eq_true hab)
    · exact Or.inr (decide_eq_true hba)

variable {β : Type} {le : β → β → Bool}

/-- Whether an element is as high in an order as a given one. -/
def level (le : β → β → Bool) (x y : β) : Bool := le x y && le y x

/-- **Ranking.**  Of all elements, the first `limit` in order are kept and the others are
dropped; those on one level stay in the order in which they were. -/
structure Ranking (le : β → β → Bool) (limit : Nat) (all kept dropped : List β) : Prop where
  /-- Every element is kept or dropped, as often as it occurs. -/
  perm : (kept ++ dropped).Perm all
  /-- What is kept is in order, and so is what is dropped, which comes after it. -/
  sorted : (kept ++ dropped).Pairwise fun a b => le a b
  /-- A level is the same list as before. -/
  stable : ∀ x, (kept ++ dropped).filter (level le x) = all.filter (level le x)
  /-- As many are kept as can be. -/
  length_kept : kept.length = min limit all.length

namespace Ranking

variable {limit : Nat} {all kept dropped : List β}

theorem length_le (h : Ranking le limit all kept dropped) : kept.length ≤ limit := by
  rw [h.length_kept]
  exact Nat.min_le_left limit all.length

theorem sorted_kept (h : Ranking le limit all kept dropped) : kept.Pairwise fun a b => le a b :=
  (List.pairwise_append.mp h.sorted).1

/-- Nothing that is dropped comes before anything that is kept. -/
theorem le_of_mem {a b : β} (h : Ranking le limit all kept dropped) (ha : a ∈ kept)
    (hb : b ∈ dropped) : le a b :=
  (List.pairwise_append.mp h.sorted).2.2 a ha b hb

theorem filter_level_append {first second : List β} (h : Ranking le limit all kept dropped)
    (hall : all = first ++ second) (x : β) :
    (kept ++ dropped).filter (level le x) =
      first.filter (level le x) ++ second.filter (level le x) := by
  rw [h.stable, hall, List.filter_append]

end Ranking

section Unique

variable (hrefl : ∀ a, le a a)
include hrefl

theorem mem_of_filter_level_eq {first second : List β} {a : β}
    (h : ∀ x, first.filter (level le x) = second.filter (level le x)) (ha : a ∈ first) :
    a ∈ second := by
  have hlevel : a ∈ first.filter (level le a) := by
    rw [List.mem_filter, level, Bool.and_self]
    exact ⟨ha, hrefl a⟩
  rw [h a] at hlevel
  exact (List.mem_filter.mp hlevel).1

theorem head_le_of_mem {a b : β} {rest : List β}
    (hsorted : (a :: rest).Pairwise fun a b => le a b) (hb : b ∈ a :: rest) : le a b := by
  rcases List.mem_cons.mp hb with rfl | hrest
  · exact hrefl b
  · exact List.rel_of_pairwise_cons hsorted hrest

/-- Two lists in order that are the same on every level are the same. -/
theorem eq_of_filter_level_eq {first second : List β}
    (hfirst : first.Pairwise fun a b => le a b) (hsecond : second.Pairwise fun a b => le a b)
    (h : ∀ x, first.filter (level le x) = second.filter (level le x)) : first = second := by
  induction first generalizing second with
  | nil =>
      cases second with
      | nil => rfl
      | cons b rest =>
          cases mem_of_filter_level_eq hrefl (fun x => (h x).symm) List.mem_cons_self
  | cons a first ih =>
      cases second with
      | nil => cases mem_of_filter_level_eq hrefl h List.mem_cons_self
      | cons b second =>
          -- Each head is in the other list, so neither comes before the other.
          have hab : le a b := head_le_of_mem hrefl hfirst
            (mem_of_filter_level_eq hrefl (fun x => (h x).symm) List.mem_cons_self)
          have hba : le b a := head_le_of_mem hrefl hsecond
            (mem_of_filter_level_eq hrefl h List.mem_cons_self)
          have hheads := h a
          rw [List.filter_cons_of_pos (by rw [level, hrefl]; rfl),
            List.filter_cons_of_pos (by rw [level, hab, hba]; rfl)] at hheads
          obtain ⟨rfl, -⟩ := List.cons.inj hheads
          congr 1
          apply ih hfirst.of_cons hsecond.of_cons
          intro x
          have hx := h x
          by_cases hlevel : level le x a = true
          · rw [List.filter_cons_of_pos hlevel, List.filter_cons_of_pos hlevel] at hx
            exact (List.cons.inj hx).2
          · rwa [List.filter_cons_of_neg hlevel, List.filter_cons_of_neg hlevel] at hx

/-- **A ranking keeps the only list that it can.** -/
theorem Ranking.kept_unique {limit : Nat} {all kept kept' dropped dropped' : List β}
    (h : Ranking le limit all kept dropped) (h' : Ranking le limit all kept' dropped') :
    kept = kept' := by
  have hall : kept ++ dropped = kept' ++ dropped' := by
    apply eq_of_filter_level_eq hrefl h.sorted h'.sorted
    intro x
    rw [h.stable, h'.stable]
  exact List.append_inj_left hall (h.length_kept.trans h'.length_kept.symm)

end Unique

section MergeSort

variable (htrans : ∀ a b c, le a b → le b c → le a c) (htotal : ∀ a b, le a b ∨ le b a)
include htrans htotal

theorem filter_level_mergeSort (all : List β) (x : β) :
    (all.mergeSort le).filter (level le x) = all.filter (level le x) := by
  have hpairwise : (all.filter (level le x)).Pairwise fun a b => le a b := by
    rw [List.pairwise_filter]
    apply List.pairwise_of_forall
    intro a b ha hb
    rw [level, Bool.and_eq_true] at ha hb
    exact htrans a x b ha.2 hb.1
  have hsublist : (all.filter (level le x)).Sublist (all.mergeSort le) :=
    List.sublist_mergeSort htrans (fun a b => (Bool.or_eq_true _ _).mpr (htotal a b)) hpairwise
      List.filter_sublist
  have hfiltered : (all.filter (level le x)).Sublist ((all.mergeSort le).filter (level le x)) := by
    have h := hsublist.filter (level le x)
    simpa only [List.filter_filter, Bool.and_self] using h
  -- A sublist that is as long as the whole is the whole.
  refine (hfiltered.eq_of_length ?_).symm
  exact ((List.mergeSort_perm all le).filter (level le x)).length_eq.symm

/-- **A merge sort keeps what was there before between elements on one level.** -/
theorem pairwise_mergeSort_of_pairwise {r : β → β → Prop} {all : List β} (h : all.Pairwise r) :
    (all.mergeSort le).Pairwise fun a b => le a b ∧ (le b a → r a b) := by
  have hsorted : (all.mergeSort le).Pairwise fun a b => le a b :=
    List.pairwise_mergeSort htrans (fun a b => (Bool.or_eq_true _ _).mpr (htotal a b)) all
  rw [List.pairwise_iff_forall_sublist] at h hsorted ⊢
  intro a b hab
  refine ⟨hsorted hab, ?_⟩
  intro hba
  -- The two are on the level of the first, which is the same list as before.
  have hlevel : [a, b].filter (level le a) = [a, b] := by
    rw [List.filter_eq_self]
    intro x hx
    unfold level
    rcases List.mem_cons.mp hx with rfl | hx
    · rw [(htotal x x).elim id id]
      rfl
    · rw [List.mem_singleton.mp hx, hsorted hab, hba]
      rfl
  have hsublist := hab.filter (level le a)
  rw [hlevel, filter_level_mergeSort htrans htotal] at hsublist
  exact h (hsublist.trans List.filter_sublist)

/-- **The first of a merge sort are a ranking.** -/
theorem ranking_mergeSort (limit : Nat) (all : List β) :
    Ranking le limit all ((all.mergeSort le).take limit) ((all.mergeSort le).drop limit) where
  perm := by
    rw [List.take_append_drop]
    exact List.mergeSort_perm all le
  sorted := by
    rw [List.take_append_drop]
    exact List.pairwise_mergeSort htrans
      (fun a b => (Bool.or_eq_true _ _).mpr (htotal a b)) all
  stable x := by
    rw [List.take_append_drop]
    exact filter_level_mergeSort htrans htotal all x
  length_kept := by rw [List.length_take, List.length_mergeSort]

end MergeSort

end PlateSolver
