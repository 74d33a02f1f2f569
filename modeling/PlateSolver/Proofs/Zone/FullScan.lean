import PlateSolver.Proofs.Zone.Sectors
import PlateSolver.Proofs.Zone.Sweep

/-!
# A query is a full scan

A query does not read whole files.  It asks an index where to begin, and stops at
the first star past the edge of its window.  Both are shortcuts, and both rely on the
order of the records: what lies before the beginning and after the stop lies outside
the window.  In a catalog whose files are well formed, a query finds exactly what
reading every record of every file would find, and no record twice.

* `wanted?`, `scanZone`, `fullScan` — the plain scan, from the first record to the last.
* `WellFormedZone`, `WellFormed` — files whose order can be relied on.
* `hits_drop_eq` — on sorted stars, the shortcuts change nothing.
* `swath_eq_scanZone`, `scanAll_eq_fullScan` — so a query scans as the plain scan does.
* `fetch_eq_fullScan_iff` — and succeeds exactly if its directory can be looked up and
  there is room.

## Design decisions

Whether records are in order is a question about exact values, and so are the
shortcuts, so the carrier is that of exact arithmetic.  Looking up the directory is
no formality: a catalog in the current directory, given by the empty path, can be
connected, for its files have paths, but the empty path itself leads nowhere.
-/

namespace PlateSolver.Zone

open Exact Angle

/-! ## The plain scan -/

section Plain

variable {α : Type} [Scalar α]

instance (range : Range α) (ra dec : α) : Decidable (range.Contains ra dec) :=
  inferInstanceAs (Decidable ((_ ∧ _) ∧ _ ∧ _))

/-- The magnitude of a star that lies in a range, given in radians, and is to be found. -/
def wanted? (window : Range α) (keepSecondary : Bool) (limit : α) (star : Star α) : Option α :=
  (star.light.accepted keepSecondary).filter fun mag =>
    mag ≤ limit ∧ window.Contains star.ra star.dec

end Plain

/-- **Finding.** A star that a scan has found, and where. -/
structure Finding (α : Type) where
  /-- The number of the zone's files. -/
  zone : ℕ
  /-- The number of the record in its file, counted from zero. -/
  index : ℕ
  /-- The star. -/
  star : Star α
  /-- The magnitude to go by. -/
  mag : α

namespace Finding

variable {α : Type}

/-- The record that a finding is about. -/
def place (finding : Finding α) : ℕ × ℕ := (finding.zone, finding.index)

/-- The star of a finding, with its magnitude. -/
def hit (finding : Finding α) : Star α × α := (finding.star, finding.mag)

end Finding

section Scan

variable {α : Type} [Analytic α]

/-- The data of a zone. -/
def zoneData (disk : Disk) (connection : Connection) (zone : ℕ) : ByteArray :=
  match disk.lookup (connection.dataPath zone) with
  | .ok node => node.bytes
  | .error _ => .empty

/-- What there is to find in a range, from the first record of its file to the last. -/
def scanZone (disk : Disk) (connection : Connection) (limit : α) (range : Range α) :
    List (Finding α) :=
  let data := zoneData disk connection range.zone
  (List.range (data.size / recordSize)).filterMap fun index =>
    let star : Star α := Star.decode (Packed.read data (recordSize * index))
    (wanted? range.radians connection.keepSecondary limit star).map fun mag =>
      { zone := range.zone, index, star, mag }

/-- What there is to find in several ranges. -/
def fullScan (disk : Disk) (connection : Connection) (limit : α) (ranges : List (Range α)) :
    List (Finding α) :=
  ranges.flatMap (scanZone disk connection limit)

/-- In terms of stars alone, a plain scan is a selection from all stars of a file. -/
theorem scanZone_map_hit (disk : Disk) (connection : Connection) (limit : α) (range : Range α) :
    (scanZone disk connection limit range).map Finding.hit =
      (starsFrom (zoneData disk connection range.zone) 0
          ((zoneData disk connection range.zone).size / recordSize)).filterMap fun star =>
        (wanted? range.radians connection.keepSecondary limit star).map fun mag => (star, mag) := by
  simp only [scanZone, starsFrom, List.map_filterMap, List.filterMap_map, List.range_eq_range',
    Option.map_map]
  rfl

/-- What a plain scan finds lies in its range. -/
theorem of_mem_scanZone {disk : Disk} {connection : Connection} {limit : α} {range : Range α}
    {finding : Finding α} (hmem : finding ∈ scanZone disk connection limit range) :
    finding.zone = range.zone ∧ range.radians.Contains finding.star.ra finding.star.dec := by
  obtain ⟨index, -, hfinding⟩ := List.mem_filterMap.mp hmem
  obtain ⟨mag, hmag, rfl⟩ := Option.map_eq_some_iff.mp hfinding
  obtain ⟨-, hwanted⟩ := Option.filter_eq_some_iff.mp hmag
  exact ⟨rfl, (of_decide_eq_true hwanted).2⟩

/-- What a plain scan finds at a place is the record there. -/
theorem star_of_mem_scanZone {disk : Disk} {connection : Connection} {limit : α}
    {range : Range α} {finding : Finding α}
    (hmem : finding ∈ scanZone disk connection limit range) :
    finding.star =
      Star.decode (Packed.read (zoneData disk connection finding.zone)
        (recordSize * finding.index)) := by
  obtain ⟨index, -, hfinding⟩ := List.mem_filterMap.mp hmem
  obtain ⟨mag, -, rfl⟩ := Option.map_eq_some_iff.mp hfinding
  rfl

/-- A plain scan of one range comes to every record once. -/
theorem nodup_scanZone (disk : Disk) (connection : Connection) (limit : α) (range : Range α) :
    ((scanZone disk connection limit range).map Finding.place).Nodup := by
  rw [scanZone, List.map_filterMap]
  refine List.nodup_range.filterMap fun first second place hfirst hsecond => ?_
  have hindex {index : ℕ} {mag : Option α} {star : Star α}
      (h : place ∈ (mag.map fun mag => Finding.mk range.zone index star mag).map Finding.place) :
      place.2 = index := by
    obtain ⟨_, hmag, rfl⟩ := Option.map_eq_some_iff.mp h
    obtain ⟨_, -, rfl⟩ := Option.map_eq_some_iff.mp hmag
    rfl
  rw [← hindex hfirst, ← hindex hsecond]

end Scan

/-! ## The shortcuts -/

section Shortcuts

variable {β γ : Type} {below : β → Bool} {select : β → Option γ} {items : List β}

/-- What is selected is not lost by beginning behind those items, all at the front, that
are not selected anyway. -/
theorem filterMap_drop_countP (hfront : items.Pairwise fun x y => below y → below x)
    (hnone : ∀ x ∈ items, below x → select x = none) :
    (items.drop (items.countP below)).filterMap select = items.filterMap select := by
  induction items with
  | nil => rfl
  | cons item rest ih =>
      obtain ⟨hitem, hrest⟩ := List.pairwise_cons.mp hfront
      cases hbelow : below item with
      | true =>
          rw [List.countP_cons_of_pos hbelow, List.drop_succ_cons,
            ih hrest fun x hx => hnone x (List.mem_cons_of_mem _ hx),
            List.filterMap_cons_none (hnone item List.mem_cons_self hbelow)]
      | false =>
          have hcount : (item :: rest).countP below = 0 := by
            refine List.countP_eq_zero.mpr fun x hx hxbelow => ?_
            rcases List.mem_cons.mp hx with rfl | hx
            · exact absurd hxbelow (by simp [hbelow])
            · exact absurd (hitem x hx hxbelow) (by simp [hbelow])
          rw [hcount, List.drop_zero]

/-- Nor is it lost by stopping before those, all at the back, that are not. -/
theorem filterMap_takeWhile (hfront : items.Pairwise fun x y => below y → below x)
    (hnone : ∀ x ∈ items, ¬below x → select x = none) :
    (items.takeWhile below).filterMap select = items.filterMap select := by
  induction items with
  | nil => rfl
  | cons item rest ih =>
      obtain ⟨hitem, hrest⟩ := List.pairwise_cons.mp hfront
      cases hbelow : below item with
      | true =>
          rw [List.takeWhile_cons_of_pos hbelow, List.filterMap_cons, List.filterMap_cons,
            ih hrest fun x hx => hnone x (List.mem_cons_of_mem _ hx)]
      | false =>
          have hall : ∀ x ∈ item :: rest, select x = none := by
            intro x hx
            refine hnone x hx fun hxbelow => ?_
            rcases List.mem_cons.mp hx with rfl | hx
            · exact absurd hxbelow (by simp [hbelow])
            · exact absurd (hitem x hx hxbelow) (by simp [hbelow])
          rw [List.takeWhile_cons_of_neg (by simp [hbelow]), List.filterMap_nil,
            List.filterMap_eq_nil_iff.mpr hall]

end Shortcuts

/-- A decoded right ascension is a number. -/
theorem decode_ra (record : Packed) :
    (Star.decode record : Star Exact).ra =
      real (radians (record.ra.toNat / 5400000 * 15)) := by
  simp [Star.decode, raScale]

theorem exists_ra_of_mem {data : ByteArray} {index count : ℕ} {star : Star Exact}
    (hmem : star ∈ starsFrom data index count) : ∃ ra, star.ra = real ra := by
  obtain ⟨_, -, rfl⟩ := List.mem_map.mp hmem
  exact ⟨_, decode_ra _⟩

section Sorted

variable {range : Range ℝ} {keepSecondary : Bool} {limit : Exact} {star : Star Exact} {ra : ℝ}

/-- A star below the lower edge is not wanted. -/
theorem wanted?_of_lt {edge : ℝ} (hedge : edge ≤ range.raMin) (hra : star.ra = real ra)
    (hbelow : star.ra < real (radians edge)) :
    wanted? range.exact.radians keepSecondary limit star = none := by
  refine Option.filter_eq_none_iff.mpr fun mag _ hwanted => ?_
  obtain ⟨-, ⟨hle, -⟩, -⟩ := of_decide_eq_true hwanted
  rw [hra, real_lt] at hbelow
  rw [hra, Range.exact_radians_raMin, real_le] at hle
  linarith [radians_le_radians.mpr hedge]

/-- A star past the upper edge is not wanted. -/
theorem wanted?_of_isPast (hra : star.ra = real ra) (hpast : isPast range.exact.radians star) :
    wanted? range.exact.radians keepSecondary limit star = none := by
  refine Option.filter_eq_none_iff.mpr fun mag _ hwanted => ?_
  obtain ⟨-, ⟨-, hle⟩, -⟩ := of_decide_eq_true hwanted
  have hlt : range.exact.radians.raMax < star.ra := of_decide_eq_true hpast
  rw [hra, Range.exact_radians_raMax] at hlt hle
  linarith [real_le.mp hle, real_lt.mp hlt]

/-- Any other star is wanted if a scan lets it through. -/
theorem wanted?_eq_admit? (hra : star.ra = real ra) (hpast : ¬isPast range.exact.radians star) :
    wanted? range.exact.radians keepSecondary limit star =
      admit? range.exact.radians keepSecondary limit star := by
  have hle : star.ra ≤ range.exact.radians.raMax := by
    have hnot : ¬range.exact.radians.raMax < star.ra := fun h => hpast (decide_eq_true h)
    rw [hra, Range.exact_radians_raMax, real_lt] at hnot
    rw [hra, Range.exact_radians_raMax, real_le]
    linarith
  simp only [wanted?, admit?, Range.Contains, hle, and_true, Bool.decide_and, Bool.and_assoc]

/-- **On sorted stars, the shortcuts change nothing.**  The selection of a scan that begins
behind all stars below some right ascension, itself not past the lower edge of the range,
is the selection from all stars. -/
theorem hits_drop_eq {edge : ℝ} (hedge : edge ≤ range.raMin) {stars : List (Star Exact)}
    (hreal : ∀ star ∈ stars, ∃ ra, star.ra = real ra)
    (hsorted : stars.Pairwise fun first second => first.ra ≤ second.ra) :
    hits range.exact.radians keepSecondary limit
        (stars.drop (stars.countP fun star => star.ra < real (radians edge))) =
      stars.filterMap fun star =>
        (wanted? range.exact.radians keepSecondary limit star).map fun mag => (star, mag) := by
  have hbelow : stars.Pairwise fun first second =>
      decide (second.ra < real (radians edge)) → decide (first.ra < real (radians edge)) :=
    hsorted.imp fun hle hlt => decide_eq_true (lt_of_le_of_lt hle (of_decide_eq_true hlt))
  have hinside : stars.Pairwise fun first second =>
      !isPast range.exact.radians second → !isPast range.exact.radians first := by
    refine hsorted.imp fun {first second} hle hsecond => ?_
    cases hfirst : isPast range.exact.radians first with
    | false => rfl
    | true =>
        have hpast : isPast range.exact.radians second :=
          decide_eq_true (lt_of_lt_of_le (of_decide_eq_true hfirst) hle)
        rw [hpast] at hsecond
        exact hsecond
  -- Before the cut, what the scan lets through is what is wanted; behind it, and in front
  -- of the beginning, nothing is.
  rw [← filterMap_drop_countP hbelow, ← filterMap_takeWhile hinside.drop]
  · refine List.filterMap_congr fun star hmem => ?_
    obtain ⟨ra, hra⟩ := hreal star (List.mem_of_mem_drop (List.takeWhile_subset _ hmem))
    have hinside := List.all_eq_true.mp List.all_takeWhile star hmem
    rw [wanted?_eq_admit? hra (by simpa using hinside)]
  · intro star hmem hpast
    obtain ⟨ra, hra⟩ := hreal star (List.mem_of_mem_drop hmem)
    rw [wanted?_of_isPast hra (by simpa using hpast), Option.map_none]
  · intro star hmem hlt
    obtain ⟨ra, hra⟩ := hreal star hmem
    rw [wanted?_of_lt hedge hra (of_decide_eq_true hlt), Option.map_none]

end Sorted

/-! ## Well-formed catalogs -/

/-- The number of records in an index. -/
def binCount : ℕ := 96

/-- The lower edge of an index bin, in degrees. -/
def binEdge {α : Type} [Scalar α] (bin : ℕ) : α := Scalar.ofNat bin * (15 / 4)

/-- **A zone with well-formed files.**  The data are whole records in the order of right
ascension.  The index has a record for every bin, which gives the number, from one, of
the first data record that is not below the bin. -/
structure WellFormedZone (disk : Disk) (connection : Connection) (zone : ℕ)
    (index data : ByteArray) : Prop where
  /-- The index is there and can be read. -/
  index_there : disk.lookup (connection.indexPath zone) = .ok (.file index)
  /-- The data are there and can be read. -/
  data_there : disk.lookup (connection.dataPath zone) = .ok (.file data)
  /-- The data are whole records. -/
  whole : recordSize ∣ data.size
  /-- No file is longer than the positions that can be sought. -/
  sought : data.size < Disk.seekLimit
  /-- The data are in order. -/
  sorted : (starsFrom data 0 (data.size / recordSize) : List (Star Exact)).Pairwise
    fun first second => first.ra ≤ second.ra
  /-- The index has all its records. -/
  index_size : index.size = binCount * Index.recordSize
  /-- Each gives the number of the first data record that is not below its bin. -/
  index_record : ∀ bin < binCount,
    Index.parse? (index.extract (Index.recordSize * bin)
        (Index.recordSize * bin + Index.recordSize)) =
      some ((starsFrom data 0 (data.size / recordSize) : List (Star Exact)).countP
        (fun star => star.ra < Angle.ofDegrees (binEdge bin)) + 1)

/-- **A catalog with well-formed files** in all of its zones. -/
def WellFormed (disk : Disk) (connection : Connection) : Prop :=
  ∀ band < bandCount, ∃ index data, WellFormedZone disk connection (band * zoneStep) index data

/-- A right ascension below a whole turn lies in one of the bins, not below its edge. -/
theorem indexBin_real {range : Range ℝ} (hlow : 0 ≤ range.raMin) (hhigh : range.raMin < 360) :
    indexBin range.exact < binCount ∧
      (indexBin range.exact : ℝ) * (15 / 4) ≤ range.raMin := by
  have hfloor : (⌊range.raMin / (15 / 4)⌋₊ : ℝ) ≤ range.raMin / (15 / 4) :=
    Nat.floor_le (by linarith)
  have hless : ⌊range.raMin / (15 / 4)⌋₊ < binCount := by
    rw [Nat.floor_lt (by linarith)]
    norm_num [binCount]
    linarith
  have hbin : indexBin range.exact = ⌊range.raMin / (15 / 4)⌋₊ := by
    have hclamp : ⌊range.raMin / (15 / 4)⌋₊ ≤ Word.limit - 1 := by
      have : binCount ≤ Word.limit - 1 := by decide
      omega
    simp [indexBin, Range.exact, min_eq_left hclamp]
  rw [hbin]
  exact ⟨hless, by linarith⟩

section WellFormed

variable {disk : Disk} {connection : Connection} {index data : ByteArray} {range : Range ℝ}

/-- In a well-formed zone, the index leads behind the stars below the bin, and no further. -/
theorem startRecord_eq (hzone : WellFormedZone disk connection range.zone index data)
    (hlow : 0 ≤ range.raMin) (hhigh : range.raMin < 360) :
    startRecord disk connection range.exact =
      some (.ok ((starsFrom data 0 (data.size / recordSize) : List (Star Exact)).countP
        (fun star => star.ra < Angle.ofDegrees (binEdge (indexBin range.exact))) + 1)) := by
  obtain ⟨hbin, -⟩ := indexBin_real hlow hhigh
  have hrecord := hzone.index_record (indexBin range.exact) hbin
  have hthere : disk.lookup (connection.indexPath range.exact.zone) = .ok (.file index) :=
    hzone.index_there
  have hend : Index.recordSize * indexBin range.exact + Index.recordSize ≤
      binCount * Index.recordSize := by
    simp only [Index.recordSize, binCount] at *
    omega
  have hposition : indexPosition? range.exact =
      some (Index.recordSize * indexBin range.exact) := by
    refine Word.ofNat?_of_lt (Nat.lt_of_lt_of_le
      (m := binCount * Index.recordSize + 1) ?_ (by decide))
    omega
  have hseek : (Node.file index).seek (Index.recordSize * indexBin range.exact) = .ok () := by
    refine if_neg (Nat.not_le.mpr (Nat.lt_of_lt_of_le
      (m := binCount * Index.recordSize + 1) ?_ (by decide)))
    omega
  have hcomplete : ¬index.size < Index.recordSize * indexBin range.exact + Index.recordSize := by
    rw [hzone.index_size]
    omega
  have hbytes : (Node.file index).bytes = index := rfl
  simp only [startRecord, hthere, hposition, Option.map_some, recordNumber, hseek, hbytes,
    if_neg hcomplete, hrecord]

theorem zoneData_eq (hzone : WellFormedZone disk connection range.zone index data) :
    zoneData disk connection range.exact.zone = data := by
  have hthere : disk.lookup (connection.dataPath range.exact.zone) = .ok (.file data) :=
    hzone.data_there
  rw [zoneData, hthere]
  rfl

/-- From where the index leads to, a scan selects what a plain scan finds. -/
theorem hits_startRecord (hzone : WellFormedZone disk connection range.zone index data)
    (hlow : 0 ≤ range.raMin) (hhigh : range.raMin < 360) {first : ℕ}
    (hfirst : startRecord disk connection range.exact = some (.ok first)) (limit : Exact) :
    hits range.exact.radians connection.keepSecondary limit (starsAfter data first) =
      (scanZone disk connection limit range.exact).map Finding.hit := by
  obtain ⟨-, hedge⟩ := indexBin_real hlow hhigh
  have hbin : Angle.ofDegrees (binEdge (indexBin range.exact)) =
      real (Angle.radians (indexBin range.exact * (15 / 4))) := by
    simp [binEdge]
  rw [startRecord_eq hzone hlow hhigh, hbin] at hfirst
  rw [← Except.ok.inj (Option.some.inj hfirst), starsAfter, Nat.add_sub_cancel, scanZone_map_hit,
    zoneData_eq hzone]
  -- The stars from a record on are all stars but the first.
  have hdrop := drop_starsFrom (α := Exact) data 0 (data.size / recordSize)
  simp only [Nat.zero_add] at hdrop
  rw [← hdrop]
  exact hits_drop_eq hedge (fun _ => exists_ra_of_mem) hzone.sorted

/-- The index never leads past the end of the data. -/
theorem recordSize_mul_le_of_startRecord
    (hzone : WellFormedZone disk connection range.zone index data) (hlow : 0 ≤ range.raMin)
    (hhigh : range.raMin < 360) {first : ℕ}
    (hfirst : startRecord disk connection range.exact = some (.ok first)) :
    recordSize * (first - 1) ≤ data.size := by
  rw [startRecord_eq hzone hlow hhigh] at hfirst
  have hcount := (starsFrom data 0 (data.size / recordSize) : List (Star Exact)).countP_le_length
    (p := fun star => star.ra < Angle.ofDegrees (binEdge (indexBin range.exact)))
  rw [starsFrom, List.length_map, List.length_range'] at hcount
  rw [← Except.ok.inj (Option.some.inj hfirst), Nat.add_sub_cancel]
  calc recordSize * _ ≤ recordSize * (data.size / recordSize) := Nat.mul_le_mul_left _ hcount
    _ ≤ data.size := Nat.mul_div_le _ _

/-- **In a well-formed zone, a scan of a range is a plain scan of it**, written into the
accumulator. -/
theorem swath_eq_scanZone (hzone : WellFormedZone disk connection range.zone index data)
    (hlow : 0 ≤ range.raMin) (hhigh : range.raMin < 360) (grants : Grants) (limit : Exact)
    (acc : Accumulator Exact) :
    swath disk grants connection range.exact limit acc =
      match acc.extend grants
        (entriesFrom acc.size ((scanZone disk connection limit range.exact).map Finding.hit)) with
      | (false, filled) => some (.error .outOfMemory, filled)
      | (true, filled) => some (.ok (filled.size - acc.size), filled) := by
  obtain ⟨first, hfirst⟩ : ∃ first, startRecord disk connection range.exact = some (.ok first) :=
    ⟨_, startRecord_eq hzone hlow hhigh⟩
  have hsmall : recordSize * (first - 1) < Disk.seekLimit :=
    (recordSize_mul_le_of_startRecord hzone hlow hhigh hfirst).trans_lt hzone.sought
  have hseek : (Node.file data).seek (recordSize * (first - 1)) = .ok () :=
    if_neg hsmall.not_ge
  have hthere : disk.lookup (connection.dataPath range.exact.zone) = .ok (.file data) :=
    hzone.data_there
  have hscan := scanFrom_of_seek hthere (hsmall.trans (by decide)) hseek grants limit acc
  have hbytes : (Node.file data).bytes = data := rfl
  have hfault : (Node.file data).fault = none := rfl
  rw [hbytes, hfault, hits_startRecord hzone hlow hhigh hfirst] at hscan
  simp only [swath, hfirst, Option.map_some, scanAsIndexed, hscan, sweepEnd_of_no_fault]
  rcases acc.extend grants
    (entriesFrom acc.size ((scanZone disk connection limit range.exact).map Finding.hit)) with
    ⟨room, filled⟩
  cases room <;> rfl

/-- So is a scan of several ranges. -/
theorem scanAll_eq_fullScan (hwell : WellFormed disk connection) (grants : Grants) (limit : Exact)
    {ranges : List (Range ℝ)}
    (hranges : ∀ range ∈ ranges, (∃ band < bandCount, range.zone = band * zoneStep) ∧
      0 ≤ range.raMin ∧ range.raMin < 360) (acc : Accumulator Exact) :
    ZoneCatalog.scanAll disk grants connection limit (ranges.map Range.exact) acc =
      match acc.extend grants (entriesFrom acc.size
        ((fullScan disk connection limit (ranges.map Range.exact)).map Finding.hit)) with
      | (false, filled) => some (.error .outOfMemory, filled)
      | (true, filled) => some (.ok (), filled) := by
  induction ranges generalizing acc with
  | nil => rfl
  | cons range rest ih =>
      obtain ⟨⟨band, hband, hnumber⟩, hlow, hhigh⟩ := hranges range List.mem_cons_self
      obtain ⟨index, data, hzone⟩ := hwell band hband
      rw [← hnumber] at hzone
      have hrest := ih fun range hmem => hranges range (List.mem_cons_of_mem _ hmem)
      -- Later ranges are named on from where the first one ends.
      rw [List.map_cons, ZoneCatalog.scanAll, swath_eq_scanZone hzone hlow hhigh, fullScan,
        List.flatMap_cons, List.map_append, entriesFrom_append, Accumulator.extend_append]
      rcases hfirst : acc.extend grants (entriesFrom acc.size
        ((scanZone disk connection limit range.exact).map Finding.hit)) with ⟨room, filled⟩
      cases room with
      | false => rfl
      | true =>
          have hsize := congrArg List.length (Accumulator.toList_of_extend hfirst)
          rw [List.length_append, length_entriesFrom, Accumulator.length_toList,
            Accumulator.length_toList] at hsize
          simp only [Option.bind_eq_bind, Option.bind_some, hrest, hsize, fullScan]

end WellFormed

/-! ## A catalog of a few stars -/

section Sample

/-- What is taken at a position from pieces of one length, put together, is the piece there. -/
theorem take_drop_flatMap {β γ : Type} {piece : β → List γ} {length : ℕ}
    (hlength : ∀ item, (piece item).length = length) {items : List β} {index : ℕ}
    (hindex : index < items.length) :
    ((items.flatMap piece).drop (length * index)).take length = piece items[index] := by
  induction items generalizing index with
  | nil => simp at hindex
  | cons item rest ih =>
      rw [List.flatMap_cons]
      cases index with
      | zero => exact List.take_left' (hlength item)
      | succ index =>
          rw [Nat.mul_succ, Nat.add_comm, ← List.drop_drop, List.drop_left' (hlength item)]
          exact ih (Nat.lt_of_succ_lt_succ hindex)

/-- A disk with the same index and the same data in every zone, below any directory. -/
def uniformDisk (index data : ByteArray) : Disk where
  lookup path :=
    match path.toList.getLast? with
    | none => .error .notFound
    | some 'c' => .ok (.file index)
    | some 't' => .ok (.file data)
    | some _ => .ok .directory

theorem getLast?_join (root name : String) (hname : name.toList ≠ []) :
    (Disk.join root name).toList.getLast? = name.toList.getLast? := by
  unfold Disk.join
  split_ifs
  · rw [String.toList_append, List.getLast?_append_of_ne_nil _ hname]
  · rw [String.toList_append, List.getLast?_append_of_ne_nil _ hname]

/-- Index files and data files are told apart by the last letters of their paths. -/
theorem getLast?_indexPath (connection : Connection) (zone : ℕ) :
    (connection.indexPath zone).toList.getLast? = some 'c' := by
  rw [Connection.indexPath, getLast?_join] <;> simp [indexName]

theorem getLast?_dataPath (connection : Connection) (zone : ℕ) :
    (connection.dataPath zone).toList.getLast? = some 't' := by
  rw [Connection.dataPath, getLast?_join] <;> simp [dataName]

theorem uniformDisk_index (index data : ByteArray) (connection : Connection) (zone : ℕ) :
    (uniformDisk index data).lookup (connection.indexPath zone) = .ok (.file index) := by
  simp only [uniformDisk, getLast?_indexPath]

theorem uniformDisk_data (index data : ByteArray) (connection : Connection) (zone : ℕ) :
    (uniformDisk index data).lookup (connection.dataPath zone) = .ok (.file data) := by
  simp only [uniformDisk, getLast?_dataPath]

/-- An index record with a one-digit number. -/
def sampleRow (figure : UInt8) : List UInt8 := [48, 32, figure] ++ List.replicate 26 32 ++ [10]

theorem length_sampleRow (figure : UInt8) : (sampleRow figure).length = Index.recordSize := by
  simp [sampleRow, Index.recordSize]

/-- Five stars half a degree north of the equator: one at 121 degrees, three between 151 and 153
degrees and one at 160.  Of those three the second is fainter than the others, and the third
belongs to the secondary catalog, too. -/
def sampleRecords : List Packed :=
  [⟨43560000, 32580000, 100⟩, ⟨54540000, 32580000, 100⟩, ⟨54720000, 32580000, 150⟩,
    ⟨54900000, 32580000, 2147483758⟩, ⟨57600000, 32580000, 100⟩]

/-- The data of the five stars. -/
def sampleData : ByteArray := ⟨(sampleRecords.flatMap Packed.bytes).toArray⟩

/-- The number in each index record, as its digit. -/
def sampleFigures : List UInt8 :=
  List.replicate 33 49 ++ List.replicate 8 50 ++ List.replicate 2 53 ++ List.replicate 53 54

/-- The index of the five stars. -/
def sampleIndex : ByteArray := ⟨(sampleFigures.flatMap sampleRow).toArray⟩

/-- A catalog of the five stars, in every zone and below any directory. -/
def sampleDisk : Disk := uniformDisk sampleIndex sampleData

theorem sampleDisk_root : sampleDisk.lookup "." = .ok .directory := rfl

theorem length_sampleFigures : sampleFigures.length = binCount := by decide

/-- The records of the sample's index. -/
theorem sampleIndex_extract {bin : ℕ} (hbin : bin < sampleFigures.length) :
    sampleIndex.extract (Index.recordSize * bin) (Index.recordSize * bin + Index.recordSize) =
      ⟨(sampleRow sampleFigures[bin]).toArray⟩ := by
  apply ByteArray.ext
  apply Array.ext'
  rw [ByteArray.data_extract, Array.toList_extract, List.extract_eq_take_drop,
    Nat.add_sub_cancel_left]
  exact take_drop_flatMap length_sampleRow _

/-- The stars of the sample's data. -/
theorem sampleStars :
    (starsFrom sampleData 0 (sampleData.size / recordSize) : List (Star Exact)) =
      sampleRecords.map Star.decode := by
  have hread : (List.range' 0 (sampleData.size / recordSize)).map
      (fun index => Packed.read sampleData (recordSize * index)) = sampleRecords := by decide
  rw [starsFrom, ← hread, List.map_map]
  rfl

/-- A record lies below the edge of a bin if its packed right ascension does. -/
theorem decode_ra_lt_binEdge (record : Packed) (bin : ℕ) :
    (Star.decode record : Star Exact).ra < Angle.ofDegrees (binEdge bin) ↔
      record.ra.toNat < 1350000 * bin := by
  have hscale : (record.ra.toNat / 5400000 * 15 : ℝ) < bin * (15 / 4) ↔
      (record.ra.toNat : ℝ) < 1350000 * bin := by
    constructor <;> intro h <;> linarith
  rw [decode_ra]
  simp only [binEdge, ofNat_eq, numeral_eq, real_div _ (four_ne_zero' ℝ), real_mul,
    ofDegrees_real, real_lt, radians_lt_radians, hscale]
  exact_mod_cast Iff.rfl

/-- Of two records, that with the greater packed right ascension lies farther east. -/
theorem decode_ra_le {first second : Packed} (h : first.ra.toNat ≤ second.ra.toNat) :
    (Star.decode first : Star Exact).ra ≤ (Star.decode second).ra := by
  have hcast : (first.ra.toNat : ℝ) ≤ second.ra.toNat := by exact_mod_cast h
  rw [decode_ra, decode_ra, real_le, radians_le_radians]
  linarith

/-- What the index records of the sample say. -/
theorem parse?_sampleRow : ∀ figure ∈ sampleFigures,
    Index.parse? ⟨(sampleRow figure).toArray⟩ = some (figure.toNat - 48) := by
  decide +kernel

/-- The sample is well formed, whatever it is taken for. -/
theorem sampleDisk_wellFormed (connection : Connection) : WellFormed sampleDisk connection := by
  refine fun band _ => ⟨sampleIndex, sampleData, uniformDisk_index _ _ connection _,
    uniformDisk_data _ _ connection _, by decide, by decide, ?_, by decide +kernel,
    fun bin hbin => ?_⟩
  · rw [sampleStars, List.pairwise_map]
    have hsorted : sampleRecords.Pairwise fun first second =>
        first.ra.toNat ≤ second.ra.toNat := by decide
    exact hsorted.imp decode_ra_le
  · have hcount : ∀ bin (hbin : bin < sampleFigures.length),
        sampleFigures[bin].toNat - 48 =
          sampleRecords.countP (fun record => record.ra.toNat < 1350000 * bin) + 1 := by
      decide +kernel
    rw [← length_sampleFigures] at hbin
    rw [sampleIndex_extract hbin, parse?_sampleRow _ (List.getElem_mem _), hcount, sampleStars,
      List.countP_map]
    simp only [Function.comp_def, decode_ra_lt_binEdge]

/-- Where the index of the sample leads to. -/
theorem startRecord_sampleDisk {α : Type} [Scalar α] (connection : Connection) {range : Range α}
    {bin : ℕ} (hrange : indexBin range = bin) (hbin : bin < sampleFigures.length) :
    startRecord sampleDisk connection range = some (.ok (sampleFigures[bin].toNat - 48)) := by
  have hlength := length_sampleFigures
  have hposition : indexPosition? range = some (Index.recordSize * bin) := by
    rw [indexPosition?, hrange]
    refine Word.ofNat?_of_lt (Nat.lt_of_lt_of_le (m := Index.recordSize * binCount) ?_ (by decide))
    exact Nat.mul_lt_mul_of_pos_left (hbin.trans_eq hlength) (by decide)
  have hthere : sampleDisk.lookup (connection.indexPath range.zone) = .ok (.file sampleIndex) :=
    uniformDisk_index _ _ connection _
  have hseek : (Node.file sampleIndex).seek (Index.recordSize * bin) = .ok () := by
    refine if_neg (Nat.not_le.mpr (Nat.lt_of_lt_of_le (m := Index.recordSize * binCount) ?_
      (by decide)))
    exact Nat.mul_lt_mul_of_pos_left (hbin.trans_eq hlength) (by decide)
  have hcomplete : ¬ sampleIndex.size < Index.recordSize * bin + Index.recordSize := by
    have hsize : sampleIndex.size = binCount * Index.recordSize := by decide +kernel
    simp only [Index.recordSize] at *
    omega
  simp only [startRecord, hthere, hposition, Option.map_some, recordNumber, hseek, Node.bytes,
    if_neg hcomplete, sampleIndex_extract hbin, parse?_sampleRow _ (List.getElem_mem hbin)]

/-! ### A scan of the sample -/

/-- A record is wanted for its magnitude and its position, which is one of degrees. -/
theorem wanted?_decode (range : Range ℝ) (keepSecondary : Bool) (limit : Exact)
    (record : Packed) :
    wanted? range.exact.radians keepSecondary limit (Star.decode record) =
      ((Photometry.ofWord record.light).accepted keepSecondary).filter fun mag =>
        mag ≤ limit ∧
          (range.raMin ≤ record.ra.toNat / 5400000 * 15 ∧
            record.ra.toNat / 5400000 * 15 ≤ range.raMax) ∧
          range.decMin ≤ record.polar.toNat / 360000 - 90 ∧
            record.polar.toNat / 360000 - 90 ≤ range.decMax := by
  have hdec : (Star.decode record : Star Exact).dec =
      real (Angle.radians (record.polar.toNat / 360000 - 90)) := by
    simp [Star.decode, decScale]
  have hlight : (Star.decode record : Star Exact).light = Photometry.ofWord record.light := rfl
  simp only [wanted?, hlight, decode_ra, hdec, Range.exact_contains, degrees_radians]

/-- The words of the sample that say how bright its stars are. -/
theorem sampleLights : (Photometry.ofWord 100 : Photometry Exact) = .usable (real 10) false ∧
    (Photometry.ofWord 150 : Photometry Exact) = .usable (real 15) false ∧
    (Photometry.ofWord 2147483758 : Photometry Exact) = .usable (real 11) true := by
  refine ⟨?_, ?_, ?_⟩ <;>
    · simp [Photometry.ofWord, Photometry.wordLimit, Photometry.colorLimit]
      norm_num

/-- The cone of the stars within a degree of a point of the equator. -/
def around {α : Type} [Analytic α] (ra : α) : Cone α := ⟨Angle.ofDegrees ra, 0, Angle.ofDegrees 1⟩

/-- A plain scan of the sample is a selection from its five records. -/
theorem scanZone_sample (connection : Connection) (limit : Exact) (range : Range Exact) :
    (scanZone sampleDisk connection limit range).map Finding.place =
      (sampleRecords.zipIdx.filter fun item =>
        (wanted? range.radians connection.keepSecondary limit (Star.decode item.1)).isSome).map
          fun item => (range.zone, item.2) := by
  have hdata : zoneData sampleDisk connection range.zone = sampleData := by
    rw [zoneData, sampleDisk, uniformDisk_data]
    rfl
  have hread : (List.range (sampleData.size / recordSize)).map
      (fun index => (Packed.read sampleData (recordSize * index), index)) =
      sampleRecords.zipIdx := by decide
  rw [scanZone, hdata, ← hread, List.filter_map, List.map_map, List.map_filterMap,
    ← List.filterMap_eq_filter, List.map_filterMap]
  refine List.filterMap_congr fun index _ => ?_
  rcases Option.eq_none_or_eq_some (wanted? range.radians connection.keepSecondary limit
    (Star.decode (Packed.read sampleData (recordSize * index)))) with h | ⟨mag, h⟩ <;>
    simp [h, Option.guard, Finding.place]

/-- The ranges of the stars within a degree of a point of the equator. -/
theorem sectors_sample : sectors 152 0 1 = [⟨825, 151, 153, -1, 0⟩, ⟨900, 151, 153, 0, 1⟩] := by
  have hfirst : bandIndex (real (0 - 1)) = 11 :=
    bandIndex_eq (by decide) (by norm_num [bandBottom]) (by norm_num [bandBottom])
  have hlast : bandIndex (real (0 + 1)) = 12 :=
    bandIndex_eq (by decide) (by norm_num [bandBottom]) (by norm_num [bandBottom])
  have hbands : bandNumbers 0 1 = [11, 12] := by
    rw [bandNumbers, hfirst, hlast]
    decide
  have hwindows : windowsOf 152 0 1 = [(151, 153)] := by
    have hcos : Real.cos (Angle.radians 0) = 1 := by simp [Angle.radians]
    norm_num [windowsOf, windows, hcos, degrees_pi]
  rw [sectors, hbands, hwindows]
  norm_num [sector, bandBottom, zoneStep]

/-- Of the stars that lie there, one belongs to the secondary catalog. -/
theorem fullScan_sample :
    (fullScan sampleDisk ⟨".", false⟩ (real 20)
        ([⟨825, 151, 153, -1, 0⟩, ⟨900, 151, 153, 0, 1⟩].map Range.exact)).map Finding.place =
      [(900, 1), (900, 2)] := by
  obtain ⟨hlight, hfaint, hother⟩ := sampleLights
  simp only [fullScan, List.flatMap_cons, List.flatMap_nil, List.map_cons, List.map_nil,
    List.map_append, scanZone_sample, sampleRecords, wanted?_decode]
  simp [hlight, hfaint, hother, Range.exact, Photometry.accepted, Option.filter, List.zipIdx,
    List.filter]
  norm_num

/-- The index leads past the first star, which lies below the bin. -/
theorem startRecord_sample {range : Range ℝ} (hedge : range.raMin = 151)
    (connection : Connection) :
    startRecord sampleDisk connection range.exact = some (.ok 2) := by
  have hfloor : ⌊(151 / (15 / 4) : ℝ)⌋₊ = 40 :=
    (Nat.floor_eq_iff (by norm_num)).mpr (by norm_num)
  have hbin : indexBin range.exact = 40 := by
    simp [indexBin, Range.exact, hedge, hfloor, Word.limit]
  exact startRecord_sampleDisk connection hbin (by decide)

end Sample

/-! ## The query -/

/-- Ranges that do not overlap share no record. -/
theorem disjoint_scanZone (disk : Disk) (connection : Connection) (limit : Exact)
    {first second : Range ℝ} (h : first.zone ≠ second.zone ∨ first.raMax < second.raMin) :
    List.Disjoint ((scanZone disk connection limit first.exact).map Finding.place)
      ((scanZone disk connection limit second.exact).map Finding.place) := by
  intro place hfirst hsecond
  obtain ⟨left, hleft, rfl⟩ := List.mem_map.mp hfirst
  obtain ⟨right, hright, hplace⟩ := List.mem_map.mp hsecond
  obtain ⟨hzone, hindex⟩ := Prod.mk.inj hplace
  obtain ⟨hfirstZone, ⟨-, hbefore⟩, -⟩ := of_mem_scanZone hleft
  obtain ⟨hsecondZone, ⟨hafter, -⟩, -⟩ := of_mem_scanZone hright
  rcases h with hne | hless
  · exact hne (hfirstZone.symm.trans (hzone.symm.trans hsecondZone))
  · -- The two findings are one star, which cannot be in both windows.
    rw [star_of_mem_scanZone hright, hzone, hindex, ← star_of_mem_scanZone hleft,
      Range.exact_radians_raMin] at hafter
    rw [Range.exact_radians_raMax] at hbefore
    have hbetween : left.star.ra < real (Angle.radians second.raMin) :=
      lt_of_le_of_lt hbefore (real_lt.mpr (radians_lt_radians.mpr hless))
    exact lt_irrefl (Angle.radians second.raMin) (real_lt.mp (lt_of_le_of_lt hafter hbetween))

/-- A plain scan of ranges that do not overlap comes to every record once. -/
theorem nodup_fullScan (disk : Disk) (connection : Connection) (limit : Exact)
    {ranges : List (Range ℝ)} (hdisjoint : ranges.Pairwise fun first second =>
      first.zone ≠ second.zone ∨ first.raMax < second.raMin) :
    ((fullScan disk connection limit (ranges.map Range.exact)).map Finding.place).Nodup := by
  rw [fullScan, List.map_flatMap, List.flatMap_map, List.nodup_flatMap]
  exact ⟨fun range _ => nodup_scanZone disk connection limit range.exact,
    hdisjoint.imp (disjoint_scanZone disk connection limit)⟩

/-- The rectangles of a cone are in zones that there are, and begin within a turn. -/
theorem sectors_bounds {ra dec radius : ℝ} (hra : 0 ≤ ra ∧ ra < 360) (hradius : 0 ≤ radius)
    {range : Range ℝ} (hmem : range ∈ sectors ra dec radius) :
    (∃ band < bandCount, range.zone = band * zoneStep) ∧ 0 ≤ range.raMin ∧ range.raMin < 360 := by
  obtain ⟨band, hband, window, hwindow, rfl⟩ := mem_sectors_iff.mp hmem
  obtain ⟨hlow, hhigh, -, -⟩ := windowsOf_bounds hra hradius hwindow
  refine ⟨⟨band, ?_, rfl⟩, hlow, hhigh⟩
  have hlast : bandIndex (real (dec + radius)) ≤ bandCount - 1 := by
    rw [bandIndex_real]
    exact min_le_right _ _
  have hcount : 0 < bandCount := by decide
  have := (mem_bandNumbers_iff.mp hband).2.1
  omega

/-- **A query is a full scan.**  In a connected catalog with well-formed files, take any
cone whose centre is a position on the sky and whose radius is below the limit, any limit of
magnitude and any allocator.  The cone has ranges, and reading every record of all their files
finds no record twice.  The query succeeds, and appends exactly what that finds — range by
range and in the order of the files — if and only if the directory of the catalog can be
looked up and there is room for it. -/
theorem fetch_eq_fullScan_iff {disk : Disk} {connection : Connection}
    (hwell : WellFormed disk connection) {ra dec radius : ℝ} (hra : 0 ≤ ra ∧ ra < 2 * Real.pi)
    (hdec : |dec| ≤ Real.pi / 2) (hradius : 0 ≤ radius ∧ radius < Angle.radians (15 / 2))
    (limit : Exact) (grants : Grants) (acc : Accumulator Exact) :
    ∃ ranges,
      partition ⟨real ra, real dec, real radius⟩ = .ok ranges ∧
      ((fullScan disk connection limit ranges).map Finding.place).Nodup ∧
      ((∃ filled,
          ZoneCatalog.fetch ⟨some connection⟩ disk grants ⟨real ra, real dec, real radius⟩ limit
              acc =
            some (.ok (fullScan disk connection limit ranges).length, filled) ∧
          filled.toList = acc.toList ++
            entriesFrom acc.size ((fullScan disk connection limit ranges).map Finding.hit)) ↔
        (∃ node, disk.lookup connection.root = .ok node) ∧
          (acc.extend grants (entriesFrom acc.size
            ((fullScan disk connection limit ranges).map Finding.hit))).1 = true) := by
  have hdegrees : 0 ≤ degrees ra ∧ degrees ra < 360 :=
    ⟨degrees_nonneg.mpr hra.1, degrees_lt_turn.mpr hra.2⟩
  have hdegrees' : 0 ≤ degrees radius := degrees_nonneg.mpr hradius.1
  have hranges := partition_real ra hdec hradius.1 hradius.2
  set ranges := sectors (degrees ra) (degrees dec) (degrees radius)
  have hscan := scanAll_eq_fullScan hwell grants limit
    (fun range (hmem : range ∈ ranges) => sectors_bounds hdegrees hdegrees' hmem) acc
  refine ⟨ranges.map Range.exact, hranges,
    nodup_fullScan disk connection limit (sectors_disjoint _ _ hdegrees'), ?_⟩
  set found := (fullScan disk connection limit (ranges.map Range.exact)).map Finding.hit
  -- Without its directory a query fails before it scans; with it, only room can be wanting.
  cases hroot : disk.lookup connection.root with
  | error e => simp [ZoneCatalog.fetch, Connection.ensurePresent, hroot]
  | ok node =>
      have hpresent : connection.ensurePresent disk = .ok () := by
        simp only [Connection.ensurePresent, hroot]
      rcases hextend : acc.extend grants (entriesFrom acc.size found) with ⟨room, filled⟩
      rw [hextend] at hscan
      cases room with
      | false => simp [ZoneCatalog.fetch, hpresent, hranges, hscan, ZoneCatalog.conclude]
      | true =>
          have hfilled := Accumulator.toList_of_extend hextend
          have hcount := Accumulator.size_of_toList hfilled
          rw [length_entriesFrom, List.length_map] at hcount
          simp only [ZoneCatalog.fetch, hpresent, hranges, hscan, Option.map_some,
            ZoneCatalog.conclude, hcount]
          exact ⟨fun _ => ⟨⟨node, rfl⟩, trivial⟩, fun _ => ⟨filled, rfl, hfilled⟩⟩

/-- **A query of the sample**, from within its directory, for the stars within a degree of a point
of the equator.  It reads the northern of its two zones from the second record to the fifth,
which lies past its edge, and finds the second and the third; the fourth belongs to the secondary
catalog. -/
theorem fetch_eq_fullScan_sample :
    let center := Angle.radians 152
    let radius := Angle.radians 1
    let ranges := [⟨825, 151, 153, -1, 0⟩, ⟨900, 151, 153, 0, 1⟩].map Range.exact
    WellFormed sampleDisk ⟨".", false⟩ ∧ (0 ≤ center ∧ center < 2 * Real.pi) ∧
      |(0 : ℝ)| ≤ Real.pi / 2 ∧ (0 ≤ radius ∧ radius < Angle.radians (15 / 2)) ∧
      partition ⟨real center, real 0, real radius⟩ = .ok ranges ∧
      ranges.map (startRecord sampleDisk ⟨".", false⟩) = [some (.ok 2), some (.ok 2)] ∧
      (fullScan sampleDisk ⟨".", false⟩ (real 20) ranges).map Finding.place = [(900, 1), (900, 2)] ∧
      ∃ filled,
        ZoneCatalog.fetch ⟨some ⟨".", false⟩⟩ sampleDisk .always ⟨real center, real 0, real radius⟩
            (real 20) .empty =
          some (.ok 2, filled) ∧
        filled.toList = entriesFrom 0
          ((fullScan sampleDisk ⟨".", false⟩ (real 20) ranges).map Finding.hit) := by
  intro center radius ranges
  have hcenter : 0 ≤ center ∧ center < 2 * Real.pi := by
    constructor
    · simp only [center, Angle.radians]
      positivity
    · rw [← degrees_lt_turn, degrees_radians]
      norm_num
  have hpole : |(0 : ℝ)| ≤ Real.pi / 2 := by
    rw [abs_zero]
    positivity
  have hradius : 0 ≤ radius ∧ radius < Angle.radians (15 / 2) := by
    constructor
    · simp only [radius, Angle.radians]
      positivity
    · exact radians_lt_radians.mpr (by norm_num)
  obtain ⟨found, hranges, -, hfetch⟩ := fetch_eq_fullScan_iff (sampleDisk_wellFormed ⟨".", false⟩)
    hcenter hpole hradius (real 20) .always .empty
  have hsectors : partition ⟨real center, real 0, real radius⟩ = .ok ranges := by
    have hzero : degrees 0 = 0 := zero_mul _
    rw [partition_real center hpole hradius.1 hradius.2, degrees_radians, degrees_radians, hzero,
      sectors_sample]
  obtain rfl : found = ranges := Except.ok.inj (hranges.symm.trans hsectors)
  have hfound := fullScan_sample
  have hlength := congrArg List.length hfound
  rw [List.length_map] at hlength
  obtain ⟨_, hroom, -⟩ := Accumulator.extend_always (.empty : Accumulator Exact)
    (entriesFrom (Accumulator.empty : Accumulator Exact).size
      ((fullScan sampleDisk ⟨".", false⟩ (real 20) ranges).map Finding.hit))
  obtain ⟨filled, hresult, hfilled⟩ :=
    hfetch.mpr ⟨⟨.directory, sampleDisk_root⟩, congrArg Prod.fst hroom⟩
  refine ⟨sampleDisk_wellFormed _, hcenter, hpole, hradius, hsectors, ?_, hfound, filled, ?_,
    hfilled⟩
  · simp only [ranges, List.map_cons, List.map_nil, startRecord_sample]
  · rw [hresult, hlength]
    rfl

/-- The same catalog in the current directory, given by the empty path: it can be connected
and all its files are well formed, and yet every query fails. -/
theorem fetch_empty_root :
    Connection.connect sampleDisk "" false = .ok ⟨"", false⟩ ∧
      WellFormed sampleDisk ⟨"", false⟩ ∧
      ZoneCatalog.fetch ⟨some ⟨"", false⟩⟩ sampleDisk .always ⟨real 0, real 0, real 0⟩
          (real 20) .empty =
        some (.error (.connection (.notFound "" .notFound)), .empty) :=
  ⟨rfl, sampleDisk_wellFormed _, rfl⟩

end PlateSolver.Zone
