import PlateSolver.Proofs.Catalog.Accumulator
import PlateSolver.Zone.Catalog

/-!
# What a scan of a zone appends

A scan reads records, decides about each, and appends what it lets through, all
in one loop.  Seen from outside it is simpler: there is a list of stars in the
data, a first one past the upper edge at which the list is cut, a selection from
what is left, and that selection is written into the accumulator — in full, or as
far as there is room.  `sweep_eq_extend` is that view as an equation, and whatever
holds of a scan follows from it.

* `starsFrom` — the stars of some records.
* `isPast`, `hits` — the cut and the selection.
* `entriesFrom` — the selection as entries, named by their positions.
* `sweep_eq_extend` — a scan is a selection written into the accumulator.
* `TooFarEast`, `swath_eq_none_iff` — where a scan breaks off.
* `mem_scanAll_cons` — how scans of several ranges go.
* `exists_swath_toList`, `exists_scanAll_toList` — scans only append, even those that fail, and
  name what they append by its position.
-/

namespace PlateSolver.Zone

variable {α : Type}

/-- The stars of the records from `index` on, `count` of them. -/
def starsFrom [Analytic α] (data : ByteArray) (index count : Nat) : List (Star α) :=
  (List.range' index count).map fun i => Star.decode (Packed.read data (recordSize * i))

theorem starsFrom_zero [Analytic α] (data : ByteArray) (index : Nat) :
    (starsFrom data index 0 : List (Star α)) = [] := rfl

theorem starsFrom_succ [Analytic α] (data : ByteArray) (index count : Nat) :
    (starsFrom data index (count + 1) : List (Star α)) =
      Star.decode (Packed.read data (recordSize * index)) :: starsFrom data (index + 1) count := by
  simp only [starsFrom, List.range'_succ, List.map_cons]

theorem drop_starsFrom [Analytic α] (data : ByteArray) (index count skipped : Nat) :
    (starsFrom data index count : List (Star α)).drop skipped =
      starsFrom data (index + skipped) (count - skipped) := by
  simp only [starsFrom, ← List.map_drop, List.drop_range', Nat.mul_one]

/-- Whether a star lies past the upper edge of a range given in radians. -/
def isPast [Scalar α] (window : Range α) (star : Star α) : Bool := window.raMax < star.ra

/-- The stars that a range, given in radians, lets through, with the magnitudes to go
by: of those before the first one past the upper edge. -/
def hits [Scalar α] (window : Range α) (keepSecondary : Bool) (limit : α)
    (stars : List (Star α)) : List (Star α × α) :=
  (stars.takeWhile fun star => !isPast window star).filterMap fun star =>
    (admit? window keepSecondary limit star).map fun mag => (star, mag)

/-- The entry of a star at a position of an accumulator. -/
def entryAt (position : Nat) (hit : Star α × α) : Entry α :=
  { name := positionName position, ra := hit.1.ra, dec := hit.1.dec, mag := hit.2 }

/-- The entries of stars at positions from `size` on. -/
def entriesFrom (size : Nat) (found : List (Star α × α)) : List (Entry α) :=
  found.mapIdx fun i hit => entryAt (size + i) hit

@[simp] theorem entriesFrom_nil (size : Nat) :
    entriesFrom size ([] : List (Star α × α)) = [] := rfl

theorem entriesFrom_cons (size : Nat) (hit : Star α × α) (rest : List (Star α × α)) :
    entriesFrom size (hit :: rest) = entryAt size hit :: entriesFrom (size + 1) rest := by
  simp only [entriesFrom, List.mapIdx_cons, Nat.add_zero, Nat.add_assoc, Nat.add_comm 1]

theorem entriesFrom_append (size : Nat) (first rest : List (Star α × α)) :
    entriesFrom size (first ++ rest) =
      entriesFrom size first ++ entriesFrom (size + first.length) rest := by
  simp only [entriesFrom, List.mapIdx_append, Nat.add_assoc, Nat.add_comm first.length]

/-- What is written first of some entries is the entries of the first stars. -/
theorem exists_of_prefix_entriesFrom {size : Nat} {found : List (Star α × α)}
    {added : List (Entry α)} (h : added <+: entriesFrom size found) :
    ∃ first, added = entriesFrom size first := by
  induction found generalizing size added with
  | nil => exact ⟨[], List.prefix_nil.mp h⟩
  | cons hit rest ih =>
      cases added with
      | nil => exact ⟨[], rfl⟩
      | cons entry added =>
          rw [entriesFrom_cons, List.cons_prefix_cons] at h
          obtain ⟨rfl, hrest⟩ := h
          obtain ⟨first, rfl⟩ := ih hrest
          exact ⟨hit :: first, (entriesFrom_cons size hit first).symm⟩

@[simp] theorem length_entriesFrom (size : Nat) (found : List (Star α × α)) :
    (entriesFrom size found).length = found.length := by
  simp [entriesFrom]

section Scan

variable [Analytic α]

/-- How a scan ends that had room for everything: well, if it met a star past the
upper edge, and else as the end of the data says. -/
def sweepEnd (window : Range α) (ending : Nat → Except ScanError Unit) (index : Nat)
    (stars : List (Star α)) : Except ScanError Unit :=
  if stars.any (isPast window) then .ok () else ending (index + stars.length)

/-- Where the data end well, every scan does. -/
theorem sweepEnd_of_no_fault (window : Range α) (file : String) (index : Nat)
    (stars : List (Star α)) : sweepEnd window (endOfData file none) index stars = .ok () :=
  ite_self _

/-- **A scan is a selection written into the accumulator.** -/
theorem sweep_eq_extend (window : Range α) (keepSecondary : Bool) (limit : α) (grants : Grants)
    (data : ByteArray) (ending : Nat → Except ScanError Unit) (left index : Nat)
    (acc : Accumulator α) :
    sweep window keepSecondary limit grants data ending left index acc =
      match acc.extend grants
        (entriesFrom acc.size (hits window keepSecondary limit (starsFrom data index left))) with
      | (false, filled) => (.error .outOfMemory, filled)
      | (true, filled) => (sweepEnd window ending index (starsFrom data index left), filled) := by
  -- By induction on the records left.  Every entry moves the position, and so the name, of
  -- the next one, so the accumulator has to vary.
  induction left generalizing index acc with
  | zero => simp [sweep, starsFrom_zero, hits, Accumulator.extend, sweepEnd]
  | succ left ih =>
      rw [sweep, starsFrom_succ]
      generalize (Star.decode (Packed.read data (recordSize * index)) : Star α) = star
      by_cases hpast : window.raMax < star.ra
      · simp [hpast, hits, isPast, Accumulator.extend, sweepEnd]
      have hend : sweepEnd window ending index (star :: starsFrom data (index + 1) left) =
          sweepEnd window ending (index + 1) (starsFrom data (index + 1) left) := by
        simp [sweepEnd, isPast, hpast, Nat.add_assoc, Nat.add_comm 1]
      cases hadmit : admit? window keepSecondary limit star with
      | none =>
          have hhits : hits window keepSecondary limit (star :: starsFrom data (index + 1) left) =
              hits window keepSecondary limit (starsFrom data (index + 1) left) := by
            simp [hits, isPast, hpast, hadmit]
          simp only [if_neg hpast, ih, hhits, hend]
      | some mag =>
          have hhits : hits window keepSecondary limit (star :: starsFrom data (index + 1) left) =
              (star, mag) :: hits window keepSecondary limit (starsFrom data (index + 1) left) := by
            simp [hits, isPast, hpast, hadmit]
          simp only [if_neg hpast, hhits, hend, entriesFrom_cons, Accumulator.extend, entryAt]
          rcases acc.append_cases grants
              { name := positionName acc.size, ra := star.ra, dec := star.dec, mag } with
            ⟨more, happend, hmore⟩ | ⟨happend, -⟩
          · have hsize : more.size = acc.size + 1 := by
              rw [← Accumulator.length_toList, hmore]
              simp
            simp only [happend, ih, hsize]
          · simp only [happend]

/-- The stars that a scan starting at a record, counted from one, can come to. -/
def starsAfter (bytes : ByteArray) (first : Nat) : List (Star α) :=
  starsFrom bytes (first - 1) (bytes.size / recordSize - (first - 1))

/-- A scan whose file is there and whose first record can be sought reads on from it. -/
theorem scanFrom_of_seek {disk : Disk} {connection : Connection} {range : Range α} {first : Nat}
    {node : Node} (hnode : disk.lookup (connection.dataPath range.zone) = .ok node)
    (hsmall : recordSize * (first - 1) < Word.limit)
    (hseek : node.seek (recordSize * (first - 1)) = .ok ()) (grants : Grants) (limit : α)
    (acc : Accumulator α) :
    scanFrom disk grants connection range limit first acc =
      match acc.extend grants (entriesFrom acc.size
        (hits range.radians connection.keepSecondary limit (starsAfter node.bytes first))) with
      | (false, filled) => (.error .outOfMemory, filled)
      | (true, filled) =>
        (sweepEnd range.radians (endOfData (dataName range.zone) node.fault) (first - 1)
          (starsAfter node.bytes first), filled) := by
  simp only [scanFrom, hnode, if_neg (Nat.not_le.mpr hsmall), hseek, sweep_eq_extend]
  rfl

/-- A scan fails before it appends anything, or it reads on from its first record. -/
theorem scanFrom_cases (disk : Disk) (grants : Grants) (connection : Connection)
    (range : Range α) (limit : α) (first : Nat) (acc : Accumulator α) :
    (∃ e, scanFrom disk grants connection range limit first acc = (.error e, acc)) ∨
      ∃ node, disk.lookup (connection.dataPath range.zone) = .ok node ∧
        scanFrom disk grants connection range limit first acc =
          match acc.extend grants (entriesFrom acc.size
            (hits range.radians connection.keepSecondary limit (starsAfter node.bytes first))) with
          | (false, filled) => (.error .outOfMemory, filled)
          | (true, filled) =>
            (sweepEnd range.radians (endOfData (dataName range.zone) node.fault) (first - 1)
              (starsAfter node.bytes first), filled) := by
  cases hnode : disk.lookup (connection.dataPath range.zone) with
  | error e => exact Or.inl ⟨_, by simp only [scanFrom, hnode]; rfl⟩
  | ok node =>
      by_cases hbig : Word.limit ≤ recordSize * (first - 1)
      · exact Or.inl ⟨_, by simp only [scanFrom, hnode, if_pos hbig]; rfl⟩
      cases hseek : node.seek (recordSize * (first - 1)) with
      | error e => exact Or.inl ⟨_, by simp only [scanFrom, hnode, if_neg hbig, hseek]; rfl⟩
      | ok _ =>
          exact Or.inr ⟨node, rfl,
            scanFrom_of_seek hnode (Nat.not_le.mp hbig) hseek grants limit acc⟩

/-- A scan only appends, whether or not it succeeds, and names what it appends by positions. -/
theorem exists_scanFrom_toList (disk : Disk) (grants : Grants) (connection : Connection)
    (range : Range α) (limit : α) (first : Nat) (acc : Accumulator α) :
    ∃ found, (scanFrom disk grants connection range limit first acc).2.toList =
      acc.toList ++ entriesFrom acc.size found := by
  rcases scanFrom_cases disk grants connection range limit first acc with
    ⟨e, hscan⟩ | ⟨node, -, hscan⟩
  · exact ⟨[], by simp [hscan]⟩
  rw [hscan]
  rcases Accumulator.extend_cases grants acc (entriesFrom acc.size
      (hits range.radians connection.keepSecondary limit (starsAfter node.bytes first))) with
    ⟨filled, hextend, hfilled⟩ | ⟨filled, added, hextend, hadded, hfilled, -⟩
  · exact ⟨_, by simp only [hextend]; exact hfilled⟩
  · obtain ⟨found, rfl⟩ := exists_of_prefix_entriesFrom hadded
    exact ⟨found, by simp only [hextend]; exact hfilled⟩

/-- **A range that begins too far east**: no word can say where its index record is. -/
def TooFarEast (range : Range α) : Prop := Word.limit ≤ Index.recordSize * indexBin range

theorem indexPosition?_of_not_tooFarEast {range : Range α} (h : ¬ TooFarEast range) :
    indexPosition? range = some (Index.recordSize * indexBin range) :=
  Word.ofNat?_of_lt (Nat.not_le.mp h)

/-- **Where a scan breaks off**: at the position in the index, once that has been opened. -/
theorem swath_eq_none_iff {disk : Disk} {grants : Grants} {connection : Connection}
    {range : Range α} {limit : α} {acc : Accumulator α} :
    swath disk grants connection range limit acc = none ↔
      (∃ node, disk.lookup (connection.indexPath range.zone) = .ok node) ∧ TooFarEast range := by
  rw [swath, Option.map_eq_none_iff, startRecord]
  cases disk.lookup (connection.indexPath range.zone) with
  | error e => simp
  | ok node => simp [indexPosition?, Word.ofNat?_eq_none_iff, TooFarEast]

/-- A scan of a range fails at its index, or at its data. -/
theorem startRecord_or_scanFrom_of_swath {disk : Disk} {grants : Grants} {connection : Connection}
    {range : Range α} {limit : α} {acc filled : Accumulator α} {e : ScanError}
    (h : (.error e, filled) ∈ swath disk grants connection range limit acc) :
    (startRecord disk connection range = some (.error e) ∧ filled = acc) ∨
      ∃ first, startRecord disk connection range = some (.ok first) ∧
        scanFrom disk grants connection range limit first acc = (.error e, filled) := by
  obtain ⟨start, hstart, houtcome⟩ := Option.map_eq_some_iff.mp h
  cases start with
  | error e' =>
      obtain ⟨he, rfl⟩ := Prod.mk.inj houtcome
      exact Or.inl ⟨hstart.trans (congrArg some (congrArg Except.error (Except.error.inj he))), rfl⟩
  | ok first =>
      refine Or.inr ⟨first, hstart, ?_⟩
      rcases hscan : scanFrom disk grants connection range limit first acc with ⟨outcome, more⟩
      simp only [scanAsIndexed, hscan, Prod.mk.injEq] at houtcome
      obtain ⟨hmap, rfl⟩ := houtcome
      cases outcome with
      | error e' => rw [Except.error.inj hmap]
      | ok _ => cases hmap

/-- A scan of a range only appends, and a scan that succeeds counts what it appended. -/
theorem exists_swath_toList {disk : Disk} {grants : Grants} {connection : Connection}
    {range : Range α} {limit : α} {acc : Accumulator α}
    {answer : Except ScanError Nat × Accumulator α}
    (h : answer ∈ swath disk grants connection range limit acc) :
    ∃ found, answer.2.toList = acc.toList ++ entriesFrom acc.size found ∧
      ∀ n, answer.1 = .ok n → n = found.length := by
  obtain ⟨start, -, rfl⟩ := Option.map_eq_some_iff.mp h
  cases start with
  | error e => exact ⟨[], by simp [scanAsIndexed], by simp [scanAsIndexed]⟩
  | ok first =>
      obtain ⟨found, hfound⟩ :=
        exists_scanFrom_toList disk grants connection range limit first acc
      refine ⟨found, hfound, fun n hn => ?_⟩
      dsimp only [scanAsIndexed] at hn
      cases houtcome : (scanFrom disk grants connection range limit first acc).1 with
      | error e => simp [houtcome, Except.map] at hn
      | ok _ =>
          rw [houtcome] at hn
          rw [← length_entriesFrom acc.size found, ← Accumulator.size_of_toList hfound]
          exact (Except.ok.inj hn).symm

/-- **How scans of several ranges go**: the first one fails, and that is the end, or it succeeds
and leaves its entries to those after it. -/
theorem mem_scanAll_cons {disk : Disk} {grants : Grants} {connection : Connection} {limit : α}
    {range : Range α} {rest : List (Range α)} {acc : Accumulator α}
    {answer : Except ScanError Unit × Accumulator α} :
    answer ∈ ZoneCatalog.scanAll disk grants connection limit (range :: rest) acc ↔
      (∃ e filled, (.error e, filled) ∈ swath disk grants connection range limit acc ∧
        answer = (.error e, filled)) ∨
      ∃ n filled, (.ok n, filled) ∈ swath disk grants connection range limit acc ∧
        answer ∈ ZoneCatalog.scanAll disk grants connection limit rest filled := by
  rw [ZoneCatalog.scanAll]
  cases swath disk grants connection range limit acc with
  | none => simp
  | some first =>
      obtain ⟨outcome, filled⟩ := first
      cases outcome <;> simp [and_assoc, eq_comm]

/-- Scans of several ranges break off where one of them does. -/
theorem scanAll_cons_eq_none_iff {disk : Disk} {grants : Grants} {connection : Connection}
    {limit : α} {range : Range α} {rest : List (Range α)} {acc : Accumulator α} :
    ZoneCatalog.scanAll disk grants connection limit (range :: rest) acc = none ↔
      swath disk grants connection range limit acc = none ∨
      ∃ n filled, (.ok n, filled) ∈ swath disk grants connection range limit acc ∧
        ZoneCatalog.scanAll disk grants connection limit rest filled = none := by
  rw [ZoneCatalog.scanAll]
  cases swath disk grants connection range limit acc with
  | none => simp
  | some first =>
      obtain ⟨outcome, filled⟩ := first
      cases outcome <;> simp [and_assoc]

theorem exists_tooFarEast_of_scanAll {disk : Disk} {grants : Grants} {connection : Connection}
    {limit : α} {ranges : List (Range α)} {acc : Accumulator α}
    (h : ZoneCatalog.scanAll disk grants connection limit ranges acc = none) :
    ∃ range ∈ ranges, TooFarEast range := by
  induction ranges generalizing acc with
  | nil => cases h
  | cons range rest ih =>
      obtain hswath | ⟨n, filled, -, hrest⟩ := scanAll_cons_eq_none_iff.mp h
      · exact ⟨range, List.mem_cons_self, (swath_eq_none_iff.mp hswath).2⟩
      · obtain ⟨later, hmem, hfar⟩ := ih hrest
        exact ⟨later, List.mem_cons_of_mem range hmem, hfar⟩

/-- Scans of several ranges only append, too, up to the first that fails. -/
theorem exists_scanAll_toList {disk : Disk} {grants : Grants} {connection : Connection} {limit : α}
    {ranges : List (Range α)} {acc : Accumulator α}
    {answer : Except ScanError Unit × Accumulator α}
    (h : answer ∈ ZoneCatalog.scanAll disk grants connection limit ranges acc) :
    ∃ found, answer.2.toList = acc.toList ++ entriesFrom acc.size found := by
  induction ranges generalizing acc with
  | nil =>
      obtain rfl := Option.mem_some.mp h
      exact ⟨[], by simp⟩
  | cons range rest ih =>
      obtain ⟨e, filled, hswath, rfl⟩ | ⟨n, filled, hswath, hrest⟩ := mem_scanAll_cons.mp h
      · obtain ⟨first, hfirst, -⟩ := exists_swath_toList hswath
        exact ⟨first, hfirst⟩
      · obtain ⟨first, hfirst, -⟩ := exists_swath_toList hswath
        obtain ⟨more, hmore⟩ := ih hrest
        have hsize : filled.size = acc.size + first.length := by
          rw [← Accumulator.length_toList, hfirst, List.length_append, length_entriesFrom,
            Accumulator.length_toList]
        exact ⟨first ++ more, by
          rw [hmore, hfirst, List.append_assoc, entriesFrom_append, hsize]⟩

end Scan

end PlateSolver.Zone
