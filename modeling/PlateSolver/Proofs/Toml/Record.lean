import Mathlib.Data.List.Basic
import PlateSolver.Proofs.Toml.Excerpt

/-!
# Records read back

A record that is written as a document is read from it again, and an excerpt of the document
is read as the record as far as it goes.

* `Slot.IsField` — a slot gives a field of a record the value that it is written with.
* `Slot.isField_count`, `…_number`, `…_flag`, `…_maybeText` — the usual slots do.
* `Merges`, `fill?_of_merges` — some fields of a record merged into another one.
* `update?_excerpt` — reading an excerpt merges the fields whose keys it holds.
* `writeRecord_eq_excerpt` — the whole document is an excerpt.
-/

namespace PlateSolver.Toml

variable {ρ α : Type} [Writable α]

/-! ## Fields -/

namespace Slot

/-- **A slot is that of a field** of a record: what is written for the field sets it. -/
structure IsField {β : Type} (slot : Slot ρ α) (record : ρ) (get : ρ → β) (set : β → ρ → ρ) :
    Prop where
  /-- A field set to what it is stays as it is. -/
  set_get : ∀ other, set (get other) other = other
  /-- What is written can be read. -/
  isReadable : ∀ primitive, slot.show? record = some primitive → primitive.IsReadable
  /-- It is read back. -/
  set?_value : ∀ primitive, slot.show? record = some primitive →
    ∀ other, slot.set? primitive.value other = some (set (get record) other)

variable {record : ρ} {key : String}

theorem isField_count {limit : Nat} {get : ρ → Nat} {set : Nat → ρ → ρ}
    (hset : ∀ other, set (get other) other = other) (hlimit : get record ≤ limit)
    (hwhole : limit ≤ wholeLimit) :
    (count key limit get set : Slot ρ α).IsField record get set where
  set_get := hset
  isReadable primitive hshow := by
    obtain rfl := Option.some.inj hshow
    exact le_trans hlimit hwhole
  set?_value primitive hshow other := by
    obtain rfl := Option.some.inj hshow
    have hcount : (Value.whole (get record : Int)).count? limit = some (get record) := by
      simp [Value.count?, hlimit]
    simp [count, Primitive.value, hcount]

theorem isField_number [Readable α] {get : ρ → α} {set : α → ρ → ρ}
    (hset : ∀ other, set (get other) other = other)
    (hbare : ∀ c ∈ (Writable.numberText (get record)).toList, isBare c = true)
    (hread : ReadsBack (get record)) :
    (number key get set).IsField record get set where
  set_get := hset
  isReadable primitive hshow := by
    obtain rfl := Option.some.inj hshow
    obtain ⟨value, hvalue, -⟩ := Option.bind_eq_some_iff.mp hread
    exact ⟨hbare, by rw [hvalue]; rfl⟩
  set?_value primitive hshow other := by
    obtain rfl := Option.some.inj hshow
    obtain ⟨value, hvalue, hnumber⟩ := Option.bind_eq_some_iff.mp hread
    simp [number, Primitive.value, hvalue, hnumber]

theorem isField_flag {get : ρ → Bool} {set : Bool → ρ → ρ}
    (hset : ∀ other, set (get other) other = other) :
    (flag key get set : Slot ρ α).IsField record get set where
  set_get := hset
  isReadable primitive hshow := by
    obtain rfl := Option.some.inj hshow
    exact trivial
  set?_value primitive hshow other := by
    obtain rfl := Option.some.inj hshow
    rfl

theorem isField_maybeText {get : ρ → Option String} {set : Option String → ρ → ρ}
    (hset : ∀ other, set (get other) other = other) :
    (maybeText key get set : Slot ρ α).IsField record get set where
  set_get := hset
  isReadable primitive hshow := by
    obtain ⟨content, -, rfl⟩ := Option.map_eq_some_iff.mp hshow
    exact trivial
  set?_value primitive hshow other := by
    obtain ⟨content, hcontent, rfl⟩ := Option.map_eq_some_iff.mp hshow
    rw [hcontent]
    rfl

end Slot

/-- **Merging.** A record becomes another one by taking over the fields that a third one `has`,
one after the other. -/
inductive Merges (has : String → Bool) (record : ρ) : List (Slot ρ α) → ρ → ρ → Prop where
  /-- No field is left. -/
  | nil (other : ρ) : Merges has record [] other other
  /-- A field is taken over, or stays as it is. -/
  | cons {β : Type} {slot : Slot ρ α} {rest : List (Slot ρ α)} {get : ρ → β} {set : β → ρ → ρ}
      {other result : ρ} (hfield : slot.IsField record get set)
      (hrest : Merges has record rest
        (set (if has slot.key then get record else get other) other) result) :
      Merges has record (slot :: rest) other result

/-- What can be merged can be read. -/
theorem Merges.isReadable {has : String → Bool} {record base result : ρ}
    {slots : List (Slot ρ α)} (h : Merges has record slots base result) :
    ∀ slot ∈ slots, ∀ primitive, slot.show? record = some primitive → primitive.IsReadable := by
  induction h with
  | nil other => exact fun slot hslot => absurd hslot List.not_mem_nil
  | cons hfield _ ih => exact List.forall_mem_cons.mpr ⟨hfield.isReadable, ih⟩

/-- **Filling merges.**  A table with the values of the fields that a record `has` sets these
fields. -/
theorem fill?_of_merges {has : String → Bool} {record base result : ρ}
    {slots : List (Slot ρ α)} (h : Merges has record slots base result) {table : Table}
    (hshown : ∀ slot ∈ slots, has slot.key → (slot.show? record).isSome)
    (hlookup : ∀ slot ∈ slots, table.lookup slot.key =
      if has slot.key then (slot.show? record).map Primitive.value else none) :
    fill? slots table base = some result := by
  induction h with
  | nil other => rfl
  | @cons β slot rest get set other result hfield hrest ih =>
      rw [List.forall_mem_cons] at hshown hlookup
      have hrest := ih hshown.2 hlookup.2
      simp only [fill?, List.foldlM_cons] at hrest ⊢
      rw [hlookup.1]
      by_cases hhas : has slot.key
      · obtain ⟨primitive, hprimitive⟩ := Option.isSome_iff_exists.mp (hshown.1 hhas)
        simp [hhas, hprimitive, hfield.set?_value primitive hprimitive] at hrest ⊢
        exact hrest
      · simp [hhas, hfield.set_get] at hrest ⊢
        exact hrest

/-! ## Documents of records -/

section Documents

variable {slots : List (Slot ρ α)} {record : ρ}

omit [Writable α] in
theorem mem_entries {entry : String × Primitive α} :
    entry ∈ entries slots record ↔
      ∃ slot ∈ slots, slot.show? record = some entry.2 ∧ slot.key = entry.1 := by
  obtain ⟨key, primitive⟩ := entry
  simp [entries, List.mem_filterMap]

omit [Writable α] in
/-- The entry of a key is what its slot shows. -/
theorem lookup_entries (hkeys : (slots.map Slot.key).Nodup) {slot : Slot ρ α}
    (h : slot ∈ slots) : (entries slots record).lookup slot.key = slot.show? record := by
  induction slots with
  | nil => cases h
  | cons first rest ih =>
      obtain ⟨hnew, hrest⟩ := List.nodup_cons.mp hkeys
      cases hshow : first.show? record with
      | none =>
          have hentries : entries (first :: rest) record = entries rest record := by
            simp [entries, hshow]
          rw [hentries]
          rcases List.mem_cons.mp h with rfl | hslot
          · rw [hshow, List.lookup_eq_none_iff]
            intro entry hentry
            obtain ⟨other, hother, -, hkey⟩ := mem_entries.mp hentry
            rw [← hkey, bne_iff_ne]
            exact fun heq => hnew (heq ▸ List.mem_map_of_mem hother)
          · exact ih hrest hslot
      | some primitive =>
          have hentries : entries (first :: rest) record =
              (first.key, primitive) :: entries rest record := by
            simp [entries, hshow]
          rw [hentries, lookup_cons_eq_ite]
          rcases List.mem_cons.mp h with rfl | hslot
          · rw [if_pos rfl, hshow]
          · have hne : slot.key ≠ first.key := fun heq =>
              hnew (heq ▸ List.mem_map_of_mem hslot)
            rw [if_neg hne, ih hrest hslot]

omit [Writable α] in
theorem nodup_entries (hkeys : (slots.map Slot.key).Nodup) :
    ((entries slots record).map Prod.fst).Nodup := by
  refine List.Nodup.sublist ?_ hkeys
  induction slots with
  | nil => exact List.Sublist.refl []
  | cons first rest ih =>
      have hsub := ih (List.nodup_cons.mp hkeys).2
      cases hshow : first.show? record with
      | none => simpa [entries, hshow] using hsub.cons first.key
      | some primitive => simpa [entries, hshow] using hsub.cons_cons first.key

/-- **Reading an excerpt merges** the fields whose keys it holds. -/
theorem update?_excerpt (hkeys : (slots.map Slot.key).Nodup)
    (hplain : ∀ slot ∈ slots, isPlainKey slot.key = true) {items : List Item}
    (h : IsExcerpt (slots.map Slot.key) (entries slots record) items) {base result : ρ}
    (hmerges : Merges (fun key => decide (key ∈ ownKeys items)) record slots base result) :
    update? slots base (excerpt (entries slots record) items) = some result := by
  have hentries : ∀ entry ∈ entries slots record,
      entry.1 ∈ slots.map Slot.key ∧ isPlainKey entry.1 = true := by
    intro entry hentry
    obtain ⟨slot, hslot, -, hkey⟩ := mem_entries.mp hentry
    exact hkey ▸ ⟨List.mem_map_of_mem hslot, hplain slot hslot⟩
  have hreadable : ∀ entry ∈ entries slots record, entry.2.IsReadable := by
    intro entry hentry
    obtain ⟨slot, hslot, hshow, -⟩ := mem_entries.mp hentry
    exact hmerges.isReadable slot hslot _ hshow
  obtain ⟨table, htable, hlookup⟩ := exists_read?_excerpt hentries hreadable h
  rw [update?, htable, Option.bind_some]
  refine fill?_of_merges hmerges (fun slot hslot hhas => ?_) fun slot hslot => ?_
  · obtain ⟨primitive, hprimitive⟩ :=
      exists_lookup_eq_some (h.mem_entries slot.key (by simpa using hhas))
    rw [← lookup_entries hkeys hslot, hprimitive]
    rfl
  · rw [hlookup slot.key (List.mem_map_of_mem hslot), lookup_entries hkeys hslot]
    simp

/-- All lines of a record. -/
def allItems (entries : List (String × Primitive α)) : List Item :=
  entries.map fun entry => .own entry.1

omit [Writable α] in
theorem ownKeys_allItems (entries : List (String × Primitive α)) :
    ownKeys (allItems entries) = entries.map Prod.fst := by
  induction entries with
  | nil => rfl
  | cons entry rest ih => exact congrArg (entry.1 :: ·) ih

/-- **The document of a record is an excerpt** that holds all of its lines. -/
theorem writeRecord_eq_excerpt (hkeys : (slots.map Slot.key).Nodup) :
    writeRecord slots record =
      excerpt (entries slots record) (allItems (entries slots record)) := by
  rw [writeRecord, write, excerpt, allItems, List.flatMap_map]
  refine congrArg String.ofList (List.flatMap_congr fun entry hentry => ?_)
  obtain ⟨slot, hslot, hshow, hkey⟩ := mem_entries.mp hentry
  have hlookup : (entries slots record).lookup entry.1 = some entry.2 := by
    rw [← hkey, lookup_entries hkeys hslot, hshow]
  rw [Item.text, hlookup]
  rfl

omit [Writable α] in
theorem isExcerpt_allItems (hkeys : (slots.map Slot.key).Nodup) :
    IsExcerpt (slots.map Slot.key) (entries slots record) (allItems (entries slots record)) where
  mem_entries key hkey := by rwa [ownKeys_allItems] at hkey
  nodup_ownKeys := by
    rw [ownKeys_allItems]
    exact nodup_entries hkeys
  apart := by
    unfold allItems
    induction entries slots record with
    | nil => exact trivial
    | cons entry rest ih => exact ⟨rfl, ih⟩
  isSome_others := by
    have hothers : (allItems (entries slots record)).filterMap Item.otherStatement? = [] := by
      simp [allItems, Item.otherStatement?, List.filterMap_map, Function.comp_def]
    rw [hothers]
    rfl

end Documents

end PlateSolver.Toml
