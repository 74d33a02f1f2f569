import PlateSolver.Catalog.Listed
import PlateSolver.Proofs.Catalog.Accumulator
import PlateSolver.Proofs.Zone.Sweep

/-!
# Queries that look at nothing but entries

An accumulator is its entries and the room made for them.  The room is left over from
whatever was written before, so a query had better not depend on it.  As long as memory is
at hand none does: given the same entries, a catalog gives the same answer and leaves the
same entries.

* `Accumulator.SameEntries` — accumulators that differ in their room at most.
* `Alike` — results that differ in the room of their accumulators at most.
* `OnlyEntries` — what does not depend on the room.
* `ZoneCatalog.fetch_onlyEntries`, `Listed.fetch_alike` — queries do not.

Were memory to run out, room left over could put that off; nothing else of it can be seen.
-/

namespace PlateSolver

variable {α β : Type}

/-- Accumulators with the same entries, whatever room there is for more. -/
def Accumulator.SameEntries (given other : Accumulator α) : Prop := given.entries = other.entries

/-- The same answer, with the same entries. -/
def Alike (result other : β × Accumulator α) : Prop :=
  result.1 = other.1 ∧ result.2.SameEntries other.2

/-- **What does not depend on the room of an accumulator**: from the same entries a query breaks
off, or it gives the same answer and leaves the same entries. -/
def OnlyEntries (query : Accumulator α → Option (β × Accumulator α)) : Prop :=
  ∀ {given other : Accumulator α}, given.SameEntries other →
    Option.Rel Alike (query given) (query other)

section Rel

variable {γ δ ε ζ : Type} {r : γ → δ → Prop} {t : ε → ζ → Prop} {result : Option γ}
  {other : Option δ}

/-- What is made of results that are related is related, -/
theorem rel_map {f : γ → ε} {g : δ → ζ} (h : Option.Rel r result other)
    (hfg : ∀ a b, r a b → t (f a) (g b)) : Option.Rel t (result.map f) (other.map g) := by
  cases h with
  | some h => exact .some (hfg _ _ h)
  | none => exact .none

/-- Even where it may break off in its turn. -/
theorem rel_bind {f : γ → Option ε} {g : δ → Option ζ} (h : Option.Rel r result other)
    (hfg : ∀ a b, r a b → Option.Rel t (f a) (g b)) :
    Option.Rel t (result.bind f) (other.bind g) := by
  cases h with
  | some h => exact hfg _ _ h
  | none => exact .none

end Rel

namespace Accumulator

variable {given other : Accumulator α}

theorem SameEntries.size_eq (h : given.SameEntries other) : given.size = other.size :=
  congrArg Array.size h

theorem SameEntries.toList_eq (h : given.SameEntries other) : given.toList = other.toList :=
  congrArg Array.toList h

theorem SameEntries.truncate (h : given.SameEntries other) (size : Nat) :
    (given.truncate size).SameEntries (other.truncate size) :=
  congrArg (Array.take · size) h

/-- With memory at hand, writers have room for everything. -/
theorem SameEntries.extend (h : given.SameEntries other) (entries : List (Entry α)) :
    ∃ filled filled', given.extend .always entries = (true, filled) ∧
      other.extend .always entries = (true, filled') ∧ filled.SameEntries filled' := by
  obtain ⟨filled, hextend, hfilled⟩ := extend_always given entries
  obtain ⟨filled', hextend', hfilled'⟩ := extend_always other entries
  refine ⟨filled, filled', hextend, hextend', Array.ext' ?_⟩
  show filled.toList = filled'.toList
  rw [hfilled, hfilled', h.toList_eq]

end Accumulator

variable [Analytic α]

namespace Zone

variable {given other : Accumulator α}

/-- Reading records does not depend on the room. -/
theorem sweep_alike (window : Range α) (keepSecondary : Bool) (limit : α) (data : ByteArray)
    (ending : Nat → Except ScanError Unit) (left index : Nat) (h : given.SameEntries other) :
    Alike (sweep window keepSecondary limit .always data ending left index given)
      (sweep window keepSecondary limit .always data ending left index other) := by
  rw [sweep_eq_extend, sweep_eq_extend, h.size_eq]
  obtain ⟨filled, filled', hextend, hextend', hfilled⟩ := h.extend
    (entriesFrom other.size (hits window keepSecondary limit (starsFrom data index left)))
  rw [hextend, hextend']
  exact ⟨rfl, hfilled⟩

/-- Nor does a scan from a record. -/
theorem scanFrom_alike (disk : Disk) (connection : Connection) (range : Range α) (limit : α)
    (first : Nat) (h : given.SameEntries other) :
    Alike (scanFrom disk .always connection range limit first given)
      (scanFrom disk .always connection range limit first other) := by
  unfold scanFrom
  cases disk.lookup (connection.dataPath range.zone) with
  | error e => exact ⟨rfl, h⟩
  | ok node =>
      dsimp only
      split
      · exact ⟨rfl, h⟩
      · cases node.seek (recordSize * (first - 1)) with
        | error e => exact ⟨rfl, h⟩
        | ok _ => exact sweep_alike _ _ _ _ _ _ _ h

/-- Nor does what a scan comes to, wherever it starts. -/
theorem scanAsIndexed_alike (disk : Disk) (connection : Connection) (range : Range α) (limit : α)
    (start : Except ScanError Nat) (h : given.SameEntries other) :
    Alike (scanAsIndexed disk .always connection range limit given start)
      (scanAsIndexed disk .always connection range limit other start) := by
  cases start with
  | error e => exact ⟨rfl, h⟩
  | ok first =>
      obtain ⟨houtcome, hfilled⟩ := scanFrom_alike disk connection range limit first h
      refine ⟨?_, hfilled⟩
      simp only [scanAsIndexed, houtcome, hfilled.size_eq, h.size_eq]

/-- Nor does a scan of a range. -/
theorem swath_onlyEntries (disk : Disk) (connection : Connection) (range : Range α) (limit : α) :
    OnlyEntries (swath disk .always connection range limit) := by
  intro given other h
  unfold swath
  cases startRecord disk connection range with
  | none => exact .none
  | some start => exact .some (scanAsIndexed_alike disk connection range limit start h)

/-- Nor do scans of several ranges. -/
theorem scanAll_onlyEntries (disk : Disk) (connection : Connection) (limit : α)
    (ranges : List (Range α)) :
    OnlyEntries (ZoneCatalog.scanAll disk .always connection limit ranges) := by
  induction ranges with
  | nil => exact fun h => .some ⟨rfl, h⟩
  | cons range rest ih =>
      intro given other h
      refine rel_bind (swath_onlyEntries disk connection range limit h) ?_
      rintro ⟨outcome, filled⟩ ⟨_, filled'⟩ ⟨rfl, hfilled⟩
      cases outcome with
      | error e => exact .some ⟨rfl, hfilled⟩
      | ok n => exact ih hfilled

omit [Analytic α] in
/-- Nor does what a query makes of its scans. -/
theorem conclude_alike {result result' : Except ScanError Unit × Accumulator α}
    (hresult : Alike result result') (h : given.SameEntries other) :
    Alike (ZoneCatalog.conclude given.size result) (ZoneCatalog.conclude other.size result') := by
  obtain ⟨outcome, filled⟩ := result
  obtain ⟨outcome', filled'⟩ := result'
  obtain ⟨rfl, hfilled⟩ := hresult
  cases outcome with
  | error e => exact ⟨rfl, by rw [h.size_eq]; exact hfilled.truncate other.size⟩
  | ok _ => exact ⟨by simp only [ZoneCatalog.conclude, hfilled.size_eq, h.size_eq], hfilled⟩

end Zone

/-- **A query to the zone catalog** looks at nothing but entries. -/
theorem ZoneCatalog.fetch_onlyEntries (catalog : ZoneCatalog) (disk : Disk) (cone : Cone α)
    (limit : α) : OnlyEntries (catalog.fetch disk .always cone limit) := by
  intro given other h
  unfold ZoneCatalog.fetch
  cases catalog.connection with
  | none => exact .some ⟨rfl, h⟩
  | some connection =>
      dsimp only
      cases connection.ensurePresent disk with
      | error e => exact .some ⟨rfl, h⟩
      | ok _ =>
          cases Zone.partition cone with
          | error e => exact .some ⟨rfl, h⟩
          | ok ranges =>
              exact rel_map (Zone.scanAll_onlyEntries disk connection limit ranges h)
                fun _ _ hresult => Zone.conclude_alike hresult h

/-- **A query to a catalog in memory** looks at nothing but entries. -/
theorem Listed.fetch_alike (catalog : Listed α) (cone : Cone α) (limit : α)
    {given other : Accumulator α} (h : given.SameEntries other) :
    Alike (catalog.fetch .always cone limit given) (catalog.fetch .always cone limit other) := by
  obtain ⟨filled, filled', hextend, hextend', hfilled⟩ :=
    h.extend (catalog.entries.filter (contains cone limit))
  unfold Listed.fetch
  rw [hextend, hextend']
  exact ⟨congrArg Except.ok (by rw [hfilled.size_eq, h.size_eq]), hfilled⟩

end PlateSolver
