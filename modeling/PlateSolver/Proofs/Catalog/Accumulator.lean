import PlateSolver.Catalog.Accumulator

/-!
# Accumulators as lists

An accumulator only grows at its end and is only cut back at its end.  So what an
operation does to its entries is said best in terms of the list they form: a
writer that ran out of room has appended the first of its entries, one that did
not has appended them all, and cutting back to the old size undoes either.

* `append_places` — an entry is appended, in a place that was free or is new, or nothing happens.
* `append_cases` — the entries alone.
* `extend_cases` — the same for several entries.
* `truncate_of_toList` — cutting back what was appended.
-/

namespace PlateSolver.Accumulator

variable {α : Type} {grants : Grants} {acc filled : Accumulator α}

@[simp] theorem toList_empty : (empty : Accumulator α).toList = [] := rfl

@[simp] theorem length_toList (acc : Accumulator α) : acc.toList.length = acc.size := rfl

/-- **What an append can do.**  It fills a place that was free, or it fills the first of the places
that the allocator granted because there was none, or it was refused them and did nothing. -/
theorem append_places (grants : Grants) (acc : Accumulator α) (entry : Entry α) :
    (∃ more, acc.append grants entry = (true, more) ∧ more.toList = acc.toList ++ [entry] ∧
        (acc.size < acc.capacity ∧ more.capacity = acc.capacity ∨
          acc.capacity ≤ acc.size ∧ more.capacity = acc.size + growStep)) ∨
      acc.append grants entry = (false, acc) ∧ acc.capacity ≤ acc.size ∧
        grants (acc.size + growStep) = false := by
  obtain ⟨entries, capacity⟩ := acc
  by_cases hroom : entries.size < capacity
  · exact Or.inl ⟨⟨entries.push entry, capacity⟩, by simp only [append, if_pos hroom],
      by simp [toList], Or.inl ⟨hroom, rfl⟩⟩
  have hfull : capacity ≤ entries.size := Nat.le_of_not_lt hroom
  cases hgrant : grants (entries.size + growStep) with
  | true =>
      exact Or.inl ⟨⟨entries.push entry, entries.size + growStep⟩,
        by simp only [append, if_neg hroom, hgrant, if_true], by simp [toList],
        Or.inr ⟨hfull, rfl⟩⟩
  | false =>
      exact Or.inr ⟨by simp only [append, if_neg hroom, hgrant, Bool.false_eq_true, if_false],
        hfull, hgrant⟩

/-- An entry is appended, or there was no room for it and nothing happened. -/
theorem append_cases (grants : Grants) (acc : Accumulator α) (entry : Entry α) :
    (∃ more, acc.append grants entry = (true, more) ∧ more.toList = acc.toList ++ [entry]) ∨
      acc.append grants entry = (false, acc) ∧ grants (acc.size + growStep) = false := by
  rcases append_places grants acc entry with ⟨more, happend, hmore, -⟩ | ⟨happend, -, hgrant⟩
  · exact Or.inl ⟨more, happend, hmore⟩
  · exact Or.inr ⟨happend, hgrant⟩

/-- The first entries are appended: all of them, or as many as there was room for. -/
theorem extend_cases (grants : Grants) (acc : Accumulator α) (entries : List (Entry α)) :
    (∃ filled, acc.extend grants entries = (true, filled) ∧
        filled.toList = acc.toList ++ entries) ∨
      ∃ filled added, acc.extend grants entries = (false, filled) ∧ added <+: entries ∧
        filled.toList = acc.toList ++ added ∧ grants (filled.size + growStep) = false := by
  induction entries generalizing acc with
  | nil => exact Or.inl ⟨acc, rfl, by simp⟩
  | cons entry rest ih =>
      rcases append_cases grants acc entry with ⟨more, happend, hmore⟩ | ⟨happend, hgrant⟩
      · rcases ih more with
          ⟨filled, hrest, hfilled⟩ | ⟨filled, added, hrest, hadded, hfilled, hgrant⟩
        · exact Or.inl ⟨filled, by simp only [extend, happend, hrest], by
            rw [hfilled, hmore, List.append_assoc, List.singleton_append]⟩
        · refine Or.inr ⟨filled, entry :: added, by simp only [extend, happend, hrest],
            (List.prefix_cons_inj entry).mpr hadded, ?_, hgrant⟩
          rw [hfilled, hmore, List.append_assoc, List.singleton_append]
      · exact Or.inr ⟨acc, [], by simp only [extend, happend], List.nil_prefix, by simp, hgrant⟩

/-- Entries appended in two goes: the second if there was room for the first. -/
theorem extend_append (grants : Grants) (acc : Accumulator α) (first rest : List (Entry α)) :
    acc.extend grants (first ++ rest) =
      match acc.extend grants first with
      | (false, same) => (false, same)
      | (true, more) => more.extend grants rest := by
  induction first generalizing acc with
  | nil => rfl
  | cons entry first ih =>
      rw [List.cons_append, extend, extend]
      rcases acc.append grants entry with ⟨room, more⟩
      cases room with
      | false => rfl
      | true => exact ih more

/-- Writers that had room for everything have appended everything. -/
theorem toList_of_extend {entries : List (Entry α)}
    (h : acc.extend grants entries = (true, filled)) : filled.toList = acc.toList ++ entries := by
  rcases extend_cases grants acc entries with ⟨_, hextend, hfilled⟩ | ⟨_, _, hextend, -, -, -⟩
  · rw [h] at hextend
    exact (Prod.mk.inj hextend).2 ▸ hfilled
  · rw [h] at hextend
    exact absurd (Prod.mk.inj hextend).1 (by decide)

/-- An allocator that grants everything leaves nothing out. -/
theorem extend_always (acc : Accumulator α) (entries : List (Entry α)) :
    ∃ filled, acc.extend .always entries = (true, filled) ∧
      filled.toList = acc.toList ++ entries := by
  rcases extend_cases .always acc entries with h | ⟨_, _, _, _, _, hgrant⟩
  · exact h
  · cases hgrant

/-- **Cutting back** to the old size takes back whatever was appended. -/
theorem truncate_of_toList {added : List (Entry α)} (h : filled.toList = acc.toList ++ added) :
    (filled.truncate acc.size).entries = acc.entries := by
  have hentries : filled.entries.toList = acc.entries.toList ++ added := h
  apply Array.ext'
  simp [truncate, size, hentries]

theorem size_of_toList {added : List (Entry α)} (h : filled.toList = acc.toList ++ added) :
    filled.size - acc.size = added.length := by
  rw [← length_toList, ← length_toList, h, List.length_append, Nat.add_sub_cancel_left]

end PlateSolver.Accumulator
