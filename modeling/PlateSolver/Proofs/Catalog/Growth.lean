import Mathlib
import PlateSolver.Proofs.Catalog.Accumulator

/-!
# How much room an accumulator has

Room is never given back: a cut leaves it as it is, and an append asks for more only when all of
it is in use.  So the room depends on what an accumulator has held, not on what it holds.  It is
the least number of whole steps into which the greatest length so far fits, and an append that
stays below that length cannot fail.

* `Change`, `after` — appends and cuts, each append with an allocator of its own.
* `effective`, `onList` — the same on lists: what took effect, and what it does.
* `lengths` — the lengths there have been.
* `Grown` — the room fits the greatest length; `Grown.perform` — every change keeps it so.
* `after_empty_grown` — entries, room and refusals after any changes of an empty accumulator.
-/

namespace PlateSolver.Accumulator

variable {α : Type}

/-! ## Changes -/

/-- **What can be done to an accumulator.** -/
inductive Change (α : Type) where
  /-- One more entry, if the allocator of the moment grants room where none is left. -/
  | append (grants : Grants) (entry : Entry α)
  /-- The first entries alone. -/
  | truncate (size : ℕ)

/-- A change made, and whether there was room for it. -/
def Change.perform : Change α → Accumulator α → Bool × Accumulator α
  | .append grants entry, acc => acc.append grants entry
  | .truncate size, acc => (true, acc.truncate size)

/-- The accumulator after some changes. -/
def after (acc : Accumulator α) (changes : List (Change α)) : Accumulator α :=
  changes.foldl (fun acc change => (change.perform acc).2) acc

/-- The changes that took effect: all but the appends that there was no room for. -/
def effective (acc : Accumulator α) : List (Change α) → List (Change α)
  | [] => []
  | change :: rest =>
    if (change.perform acc).1 then change :: effective (change.perform acc).2 rest
    else effective (change.perform acc).2 rest

/-- A change of a list. -/
def onList (entries : List (Entry α)) : Change α → List (Entry α)
  | .append _ entry => entries ++ [entry]
  | .truncate size => entries.take size

/-- **The lengths there have been**, the first one and one after each change. -/
def lengths (acc : Accumulator α) (changes : List (Change α)) : Set ℕ :=
  {n | ∃ done, done <+: changes ∧ (acc.after done).size = n}

theorem after_append_singleton (acc : Accumulator α) (changes : List (Change α))
    (change : Change α) :
    acc.after (changes ++ [change]) = (change.perform (acc.after changes)).2 := by
  rw [after, after, List.foldl_append, List.foldl_cons, List.foldl_nil]

theorem lengths_nil (acc : Accumulator α) : acc.lengths [] = {acc.size} := by
  ext n
  simp [lengths, after, eq_comm]

theorem lengths_append_singleton (acc : Accumulator α) (changes : List (Change α))
    (change : Change α) :
    acc.lengths (changes ++ [change]) =
      insert (acc.after (changes ++ [change])).size (acc.lengths changes) := by
  ext n
  simp only [lengths, List.prefix_concat_iff]
  constructor
  · rintro ⟨done, rfl | hdone, rfl⟩
    · exact Or.inl rfl
    · exact Or.inr ⟨done, hdone, rfl⟩
  · rintro (rfl | ⟨done, hdone, rfl⟩)
    · exact ⟨_, Or.inl rfl, rfl⟩
    · exact ⟨done, Or.inr hdone, rfl⟩

/-! ## Entries -/

theorem toList_truncate (acc : Accumulator α) (size : ℕ) :
    (acc.truncate size).toList = acc.toList.take size := by
  simp [truncate, toList]

/-- A change that takes effect does to the entries what it does to a list, and one that does not
does nothing. -/
theorem toList_perform (change : Change α) (acc : Accumulator α) :
    (change.perform acc).2.toList =
      if (change.perform acc).1 then onList acc.toList change else acc.toList := by
  cases change with
  | append grants entry =>
      rcases append_cases grants acc entry with ⟨more, happend, hmore⟩ | ⟨happend, -⟩
      · rw [Change.perform, happend, if_pos rfl, hmore, onList]
      · rw [Change.perform, happend, if_neg Bool.false_ne_true]
  | truncate size => exact acc.toList_truncate size

/-- **The entries are those of the list** on which the same changes took effect. -/
theorem toList_after (acc : Accumulator α) (changes : List (Change α)) :
    (acc.after changes).toList = (acc.effective changes).foldl onList acc.toList := by
  induction changes generalizing acc with
  | nil => rfl
  | cons change rest ih =>
      rw [after, List.foldl_cons, ← after, ih, toList_perform, effective]
      split_ifs
      · rfl
      · rfl

/-! ## Room -/

/-- **The room fits the greatest length so far**, in whole steps. -/
structure Grown (acc : Accumulator α) (highest : ℕ) : Prop where
  /-- The accumulator is no longer than it has been. -/
  size_le : acc.size ≤ highest
  /-- The room is the least number of steps for the greatest length. -/
  capacity_eq : acc.capacity = 16 * (highest ⌈/⌉ 16)

namespace Grown

theorem empty : Grown (empty : Accumulator α) 0 where
  size_le := le_rfl
  capacity_eq := rfl

variable {acc : Accumulator α} {highest : ℕ}

theorem size_le_capacity (h : Grown acc highest) : acc.size ≤ acc.capacity := by
  have hsize := h.size_le
  have hcapacity := h.capacity_eq
  rw [Nat.ceilDiv_eq_add_pred_div] at hcapacity
  omega

/-- **A change keeps the room fitting.**  An append into a free place stays within the steps there
are.  If there is no free place, the accumulator is as long as it has ever been and the steps are
full, so that one step more is what one entry more needs. -/
theorem perform (h : Grown acc highest) (change : Change α) :
    Grown (change.perform acc).2 (max (change.perform acc).2.size highest) where
  size_le := le_max_left _ _
  capacity_eq := by
    have hsize := h.size_le
    have hcapacity := h.capacity_eq
    rw [Nat.ceilDiv_eq_add_pred_div] at hcapacity ⊢
    cases change with
    | truncate size =>
        have hcut : (acc.truncate size).size ≤ highest := by
          rw [← length_toList, toList_truncate]
          exact (List.length_take_le' _ _).trans hsize
        rw [Change.perform, max_eq_right hcut]
        exact hcapacity
    | append grants entry =>
        rcases append_places grants acc entry with
          ⟨more, happend, hmore, hplace⟩ | ⟨happend, -, -⟩
        · have hlonger : more.size = acc.size + 1 := by
            rw [← length_toList, hmore, List.length_append, length_toList, List.length_singleton]
          rw [Change.perform, happend]
          show more.capacity = 16 * ((max more.size highest + 16 - 1) / 16)
          rw [hlonger]
          rcases hplace with ⟨hfree, hsame⟩ | ⟨hfull, hroom⟩
          · rw [hsame]
            omega
          · rw [hroom, growStep]
            omega
        · rw [Change.perform, happend, max_eq_right hsize]
          exact hcapacity

/-- After any changes the room fits the greatest of the lengths there have been. -/
theorem after (changes : List (Change α)) :
    ∃ highest, IsGreatest (lengths .empty changes) highest ∧
      Grown ((.empty : Accumulator α).after changes) highest := by
  induction changes using List.reverseRecOn with
  | nil =>
      refine ⟨0, ?_, Grown.empty⟩
      rw [lengths_nil]
      exact isGreatest_singleton
  | append_singleton changes change ih =>
      obtain ⟨highest, hgreatest, hgrown⟩ := ih
      refine ⟨_, ?_, by rw [after_append_singleton]; exact hgrown.perform change⟩
      rw [lengths_append_singleton, after_append_singleton]
      exact hgreatest.insert _

end Grown

/-- **The room of an accumulator.**  Whatever is appended to an accumulator that was empty and cut
from it, and whatever the allocators say, its entries are those of the list on which the same
changes took effect, there is room for them all, and the room is a whole number of steps of sixteen
places, the least one into which the greatest length so far fits.  An append that is refused room
changes nothing, and it is refused only where every place is taken. -/
theorem after_empty_grown (changes : List (Change α)) :
    let acc := (empty : Accumulator α).after changes
    acc.toList = (effective .empty changes).foldl onList [] ∧
      acc.size ≤ acc.capacity ∧
      (∃ highest, IsGreatest (lengths .empty changes) highest ∧
        acc.capacity = 16 * (highest ⌈/⌉ 16)) ∧
      ∀ (grants : Grants) (entry : Entry α) (same : Accumulator α),
        acc.append grants entry = (false, same) →
          same = acc ∧ acc.size = acc.capacity ∧ grants (acc.size + 16) = false := by
  intro acc
  obtain ⟨highest, hgreatest, hgrown⟩ := Grown.after changes
  refine ⟨toList_after _ changes, hgrown.size_le_capacity,
    ⟨highest, hgreatest, hgrown.capacity_eq⟩, fun grants entry same hrefused => ?_⟩
  rcases append_places grants acc entry with ⟨more, happend, -⟩ | ⟨happend, hfull, hgrant⟩
  · rw [hrefused] at happend
    exact absurd (Prod.mk.inj happend).1 Bool.false_ne_true
  · rw [hrefused] at happend
    exact ⟨(Prod.mk.inj happend).2, le_antisymm hgrown.size_le_capacity hfull, hgrant⟩

/-- After a cut there is as much room as before it. -/
example :
    let entry : Entry Nat := ⟨"", 0, 0, 0, true⟩
    ((empty : Accumulator Nat).after (List.replicate 17 (.append .always entry) ++
      .truncate 3 :: List.replicate 29 (.append (fun _ => false) entry))).size = 32 := by
  decide +kernel

end PlateSolver.Accumulator
