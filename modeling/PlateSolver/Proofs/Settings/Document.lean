import PlateSolver.Proofs.Toml.Record
import PlateSolver.Settings.Document

/-!
# Settings read back

Settings that are written as a document are read from it as they were.  Of an excerpt, with
other keys in it that are no settings, what the excerpt holds is read as it was, and all else
is as the default settings have it.

* `Settings.overlay` — some settings over others.
* `Settings.keys`, `Settings.counts`, `Settings.numbers` — the keys, and the numbers among the
  settings.
* `Settings.merges_slots` — merging settings lays them over others.
* `Settings.document_round_trip` — the law of documents of settings.
-/

namespace PlateSolver

open Toml

namespace FitMethod

theorem ofName?_name (method : FitMethod) : ofName? method.name = some method := by
  cases method <;> decide

/-- The slot of a method is that of a field. -/
theorem isField_slot {ρ α : Type} [Writable α] {record : ρ} {key : String} {get : ρ → FitMethod}
    {set : FitMethod → ρ → ρ} (hset : ∀ other, set (get other) other = other) :
    (slot key get set : Slot ρ α).IsField record get set where
  set_get := hset
  isReadable primitive hshow := by
    obtain rfl := Option.some.inj hshow
    exact trivial
  set?_value primitive hshow other := by
    obtain rfl := Option.some.inj hshow
    simp [slot, Primitive.value, ofValue?, ofName?_name]

end FitMethod

namespace Settings

variable {α : Type}

/-- **Overlay.** Settings where a document `has` their keys, and others where it does not. -/
def overlay (has : String → Bool) (s base : Settings α) : Settings α where
  method := if has "method" then s.method else base.method
  maxResidual := if has "max_residual" then s.maxResidual else base.maxResidual
  maxImageStars := if has "max_image_stars" then s.maxImageStars else base.maxImageStars
  maxCatalogStars := if has "max_catalog_stars" then s.maxCatalogStars else base.maxCatalogStars
  brightestMag := if has "brightest_catalog_mag" then s.brightestMag else base.brightestMag
  minPair := if has "min_pair" then s.minPair else base.minPair
  maxPair := if has "max_pair" then s.maxPair else base.maxPair
  tryStars := if has "try_stars" then s.tryStars else base.tryStars
  maxRotation := if has "max_rotation_deg" then s.maxRotation else base.maxRotation
  matchDistance := if has "match_dist_arcsec" then s.matchDistance else base.matchDistance
  rejectDistance := if has "reject_dist_arcsec" then s.rejectDistance else base.rejectDistance
  order := if has "order" then s.order else base.order
  huntFraction := if has "hunt_fraction" then s.huntFraction else base.huntFraction
  primaryLimit := if has "primary_mag_limit" then s.primaryLimit else base.primaryLimit
  secondaryLimit := if has "secondary_mag_limit" then s.secondaryLimit else base.secondaryLimit
  catalogRoot := if has "catalog_root" then s.catalogRoot else base.catalogRoot
  keepSecondary := if has "include_secondary_records" then s.keepSecondary else base.keepSecondary

/-- The keys of the settings. -/
def keys : List String :=
  ["method", "max_residual", "max_image_stars", "max_catalog_stars", "brightest_catalog_mag",
    "min_pair", "max_pair", "try_stars", "max_rotation_deg", "match_dist_arcsec",
    "reject_dist_arcsec", "order", "hunt_fraction", "primary_mag_limit", "secondary_mag_limit",
    "catalog_root", "include_secondary_records"]

/-- Settings that are laid over others as a whole stay what they are. -/
theorem overlay_eq_self {has : String → Bool} {s base : Settings α}
    (hhas : ∀ key ∈ keys, key ≠ "catalog_root" → has key = true)
    (hroot : has "catalog_root" = true ∨ s.catalogRoot = base.catalogRoot) :
    overlay has s base = s := by
  have hcatalog : (if has "catalog_root" then s.catalogRoot else base.catalogRoot) =
      s.catalogRoot := by
    rcases hroot with hroot | hroot
    · rw [if_pos hroot]
    · rw [← hroot, ite_self]
  simp [keys] at hhas
  simp [overlay, hhas, hcatalog]

/-- The whole numbers among the settings, but for the order of the fit. -/
def counts (s : Settings α) : List Nat :=
  [s.maxImageStars, s.maxCatalogStars, s.minPair, s.maxPair, s.tryStars]

/-- The other numbers among the settings. -/
def numbers (s : Settings α) : List α :=
  [s.maxResidual, s.brightestMag, s.maxRotation, s.matchDistance, s.rejectDistance,
    s.huntFraction, s.primaryLimit, s.secondaryLimit]

variable [Readable α]

theorem map_key_slots : (slots : List (Slot (Settings α) α)).map Slot.key = keys := rfl

theorem nodup_slots : ((slots : List (Slot (Settings α) α)).map Slot.key).Nodup := by
  rw [map_key_slots]
  decide

theorem isPlainKey_slots :
    ∀ slot ∈ (slots : List (Slot (Settings α) α)), isPlainKey slot.key = true := by
  have hkeys : ∀ key ∈ keys, isPlainKey key = true := by decide
  intro slot hslot
  have hmem : slot.key ∈ (slots : List (Slot (Settings α) α)).map Slot.key :=
    List.mem_map_of_mem hslot
  exact hkeys slot.key hmem

variable [Writable α]

/-- **Merging settings lays them over others**, slot by slot. -/
theorem merges_slots {s : Settings α} (hcounts : ∀ n ∈ s.counts, n ≤ wholeLimit)
    (horder : s.order ≤ orderLimit)
    (hnumbers : ∀ x ∈ s.numbers,
      (∀ c ∈ (Writable.numberText x).toList, isBare c = true) ∧ ReadsBack x)
    (has : String → Bool) (base : Settings α) :
    Merges has s slots base (overlay has s base) := by
  simp only [counts, numbers, List.forall_mem_cons] at hcounts hnumbers
  obtain ⟨himage, hcatalog, hmin, hmax, htry, -⟩ := hcounts
  obtain ⟨hresidual, hbrightest, hrotation, hmatch, hreject, hhunt, hprimary, hsecondary, -⟩ :=
    hnumbers
  have horderLimit : orderLimit ≤ wholeLimit := by decide
  refine .cons (FitMethod.isField_slot fun _ => rfl) ?_
  refine .cons (Slot.isField_number (fun _ => rfl) hresidual.1 hresidual.2) ?_
  refine .cons (Slot.isField_count (fun _ => rfl) himage le_rfl) ?_
  refine .cons (Slot.isField_count (fun _ => rfl) hcatalog le_rfl) ?_
  refine .cons (Slot.isField_number (fun _ => rfl) hbrightest.1 hbrightest.2) ?_
  refine .cons (Slot.isField_count (fun _ => rfl) hmin le_rfl) ?_
  refine .cons (Slot.isField_count (fun _ => rfl) hmax le_rfl) ?_
  refine .cons (Slot.isField_count (fun _ => rfl) htry le_rfl) ?_
  refine .cons (Slot.isField_number (fun _ => rfl) hrotation.1 hrotation.2) ?_
  refine .cons (Slot.isField_number (fun _ => rfl) hmatch.1 hmatch.2) ?_
  refine .cons (Slot.isField_number (fun _ => rfl) hreject.1 hreject.2) ?_
  refine .cons (Slot.isField_count (fun _ => rfl) horder horderLimit) ?_
  refine .cons (Slot.isField_number (fun _ => rfl) hhunt.1 hhunt.2) ?_
  refine .cons (Slot.isField_number (fun _ => rfl) hprimary.1 hprimary.2) ?_
  refine .cons (Slot.isField_number (fun _ => rfl) hsecondary.1 hsecondary.2) ?_
  refine .cons (Slot.isField_maybeText fun _ => rfl) ?_
  refine .cons (Slot.isField_flag fun _ => rfl) ?_
  exact .nil _

omit [Writable α] in
/-- Only the directory of the catalog may be left out when settings are written. -/
theorem mem_entries_of_ne (s : Settings α) {key : String} (hkey : key ∈ keys)
    (hne : key ≠ "catalog_root") : key ∈ (entries slots s).map Prod.fst := by
  have hshown : ∀ slot ∈ (slots : List (Slot (Settings α) α)), slot.key ≠ "catalog_root" →
      ∃ primitive, slot.show? s = some primitive := by
    intro slot hslot hne
    simp only [slots, List.mem_cons, List.not_mem_nil, or_false] at hslot
    repeat' rcases hslot with rfl | hslot
    all_goals first | exact ⟨_, rfl⟩ | exact absurd rfl hne
  have hslots : key ∈ (slots : List (Slot (Settings α) α)).map Slot.key := hkey
  obtain ⟨slot, hslot, rfl⟩ := List.mem_map.mp hslots
  obtain ⟨primitive, hprimitive⟩ := hshown slot hslot hne
  exact List.mem_map.mpr
    ⟨(slot.key, primitive), mem_entries.mpr ⟨slot, hslot, hprimitive, rfl⟩, rfl⟩

omit [Writable α] in
/-- It is written if there is one. -/
theorem mem_entries_of_catalogRoot {s : Settings α} {root : String}
    (h : s.catalogRoot = some root) : "catalog_root" ∈ (entries slots s).map Prod.fst := by
  have hslot : (Slot.maybeText "catalog_root" catalogRoot fun v s => { s with catalogRoot := v }) ∈
      (slots : List (Slot (Settings α) α)) := List.mem_of_getElem? (i := 15) rfl
  have hentry : ("catalog_root", Primitive.text root) ∈ entries slots s :=
    mem_entries.mpr ⟨_, hslot, congrArg (Option.map Primitive.text) h, rfl⟩
  exact List.mem_map.mpr ⟨_, hentry, rfl⟩

/-- **Settings read back.**  Whole numbers that a signed number of 64 bits holds and numbers
whose text reads back are read as they were, and so is every text, whatever it holds.  Any of
the lines in any order, among any others, set what they are for. -/
theorem document_round_trip {s : Settings Float} (hcounts : ∀ n ∈ s.counts, n < Nat.pow 2 63)
    (horder : s.order ≤ orderLimit) (hnumbers : ∀ x ∈ s.numbers, ReadsBack x) :
    ofDocument? default s.toDocument = some s ∧
      ∀ items : List Item, IsExcerpt keys (entries slots s) items →
        ofDocument? default (excerpt (entries slots s) items) =
          some (overlay (fun key => decide (key ∈ ownKeys items)) s default) := by
  have hexcerpt : ∀ items : List Item, IsExcerpt keys (entries slots s) items →
      ofDocument? default (excerpt (entries slots s) items) =
        some (overlay (fun key => decide (key ∈ ownKeys items)) s default) :=
    fun items hitems => update?_excerpt nodup_slots isPlainKey_slots hitems
      (merges_slots (fun n hn => le_trans (hcounts n hn).le (by decide)) horder
        (fun x hx => ⟨isBare_of_mem_pointed x, hnumbers x hx⟩) _ _)
  refine ⟨?_, hexcerpt⟩
  rw [toDocument, writeRecord_eq_excerpt nodup_slots,
    hexcerpt _ (isExcerpt_allItems nodup_slots), ownKeys_allItems, overlay_eq_self]
  · intro key hkey hne
    exact decide_eq_true (mem_entries_of_ne s hkey hne)
  · cases hroot : s.catalogRoot with
    | none => exact Or.inr rfl
    | some root => exact Or.inl (decide_eq_true (mem_entries_of_catalogRoot hroot))

/-- Settings with a directory that is written over several lines. -/
def sample : Settings Float :=
  { default with
    order := 3
    catalogRoot := some "C:\\stars \"A'2\"\n\tdisk" }

/-- A line that is no setting. -/
def sampleLine : Line := .ofEntry "telescope" (.text "C11" : Primitive Float) rfl trivial

/-- A header under which nothing is a setting. -/
def sampleHeader : Line where
  text := ['[', 's', 'i', 't', 'e', ']']
  statement := .header ["site"]
  isProper_text := rfl
  exists_statement? _ _ _ := ⟨_, rfl, rfl⟩

theorem document_round_trip_sample :
    ofDocument? default sample.toDocument = some sample ∧
      ofDocument? default (excerpt (entries slots sample)
        [.own "catalog_root", .other sampleLine, .own "order", .other sampleHeader]) =
          some { default with order := sample.order, catalogRoot := sample.catalogRoot } := by
  have hlaw := @document_round_trip sample (by decide) (by decide) (by decide +kernel)
  refine ⟨hlaw.1, ?_⟩
  refine (hlaw.2 _ ⟨by decide, by decide, ?_, rfl⟩).trans rfl
  exact ⟨rfl, ⟨"telescope", rfl, by decide⟩, rfl, ⟨"site", rfl, by decide⟩, trivial⟩

end Settings

end PlateSolver
