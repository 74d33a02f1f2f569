import Mathlib
import PlateSolver.Proofs.Zone.Edges
import PlateSolver.Proofs.Zone.Positions

/-!
# Scans of any files

Nothing is assumed here of the two files of a zone but that they can be read: their records may
be in any order, their ends may be cut off, and they may be no catalog at all.  A scan still
does what can be said without knowing them.  It looks up the record to begin at, reads from there
record by record, stops at the first one past the upper edge of its range, whether or not that
has a usable magnitude, and at the last complete one at the latest, and appends those that it is
to find.

Whether a record lies past the upper edge is the only question about that edge.  So an upper edge
that is undefined, past which nothing lies, excludes nothing.

* `radianWindow` — a range, which is given in degrees, in radians.
* `Encloses`, `sought?`, `selected`, `picks_eq_selected` — which records a scan is to find.
* `Reads`, `exists_reads_sweep`, `Reads.count_le` — a scan record by record.
* `ScansRecords`, `ScansFiles` — what a scan does with records and with files.
* `swath_files` — it does this for all files.
-/

namespace PlateSolver.Zone

open Double

/-! ## What is to be found -/

/-- **The edges of a range**, which are degrees, in radians. -/
def radianWindow (range : Range Float) : Range Float where
  zone := range.zone
  raMin := range.raMin * (Analytic.pi / 180)
  raMax := range.raMax * (Analytic.pi / 180)
  decMin := range.decMin * (Analytic.pi / 180)
  decMax := range.decMax * (Analytic.pi / 180)

theorem radians_eq_radianWindow (range : Range Float) : range.radians = radianWindow range := rfl

section Selection

variable {α : Type}

/-- **Whether a star lies in a range**, given in radians, of which an upper edge that is undefined
excludes nothing.  An undefined number is one that is not even at most itself. -/
def Encloses [Scalar α] (window : Range α) (star : Star α) : Prop :=
  window.raMin ≤ star.ra ∧ (¬ window.raMax ≤ window.raMax ∨ star.ra ≤ window.raMax) ∧
    window.decMin ≤ star.dec ∧ star.dec ≤ window.decMax

instance [Scalar α] (window : Range α) (star : Star α) : Decidable (Encloses window star) :=
  inferInstanceAs (Decidable (_ ∧ (_ ∨ _) ∧ _ ∧ _))

/-- **The magnitude of a star that a scan is to find**: one that is accepted and not too faint, of a
star in the range, given in radians. -/
def sought? [Scalar α] (window : Range α) (keepSecondary : Bool) (limit : α) (star : Star α) :
    Option α :=
  (star.light.accepted keepSecondary).filter fun mag => mag ≤ limit ∧ Encloses window star

/-- **The records that a scan is to find**, with their magnitudes, of those before the first one
past the upper edge of the range, given in radians. -/
def selected [Analytic α] (window : Range α) (keepSecondary : Bool) (limit : α)
    (records : List Packed) : List (Packed × α) :=
  (comeTo window records).filterMap fun record =>
    (sought? window keepSecondary limit (Star.decode record)).map fun mag => (record, mag)

end Selection

/-- The right ascension of a record is a number. -/
theorem value?_decode_ra (record : Packed) :
    value? (Star.decode record : Star Float).ra ≠ none := by
  have hword : record.ra.toNat < 2 ^ 53 := record.ra.toNat_lt.trans (by norm_num)
  have hscale : value? 5400000 = some ((5400000 : ℝ) : EReal) :=
    value?_of_unpack (m := 5400000 * 2 ^ 30) (e := -30) (by decide) rfl (by norm_num)
  obtain ⟨hours, hhours, -⟩ := value?_div (value?_ofNat hword) hscale (by norm_num)
  obtain ⟨degrees, hdegrees, -⟩ := value?_mul hhours value?_fifteen (by norm_num)
  obtain ⟨ra, hra, -⟩ := value?_mul hdegrees value?_radian (by positivity)
  exact Option.ne_none_iff_exists'.mpr ⟨ra, hra⟩

/-- Before the upper edge, a scan lets through what it is to find. -/
theorem admit?_eq_sought? {window : Range Float} {record : Packed}
    (hbefore : ¬ window.raMax < (Star.decode record : Star Float).ra) (keepSecondary : Bool)
    (limit : Float) :
    admit? window keepSecondary limit (Star.decode record) =
      sought? window keepSecondary limit (Star.decode record) := by
  have hupper := (not_lt_iff (value?_decode_ra record)).mp hbefore
  rw [admit?, sought?]
  refine congrArg (Option.filter · _) (funext fun mag => ?_)
  simp [Encloses, hupper, Bool.and_assoc]

/-- **What a scan lets through is what it is to find.** -/
theorem picks_eq_selected (window : Range Float) (keepSecondary : Bool) (limit : Float)
    (records : List Packed) :
    picks window keepSecondary limit records = selected window keepSecondary limit records := by
  refine List.filterMap_congr fun record hrecord => ?_
  have hbefore : ¬ window.raMax < (Star.decode record : Star Float).ra := by
    simpa [isPast] using List.mem_takeWhile_imp hrecord
  rw [admit?_eq_sought? hbefore]

/-! ## Record by record -/

section Records

variable {window : Range Float} {keepSecondary : Bool} {limit : Float} {grants : Grants}

/-- **A scan record by record**, how many it reads, and what it comes to. -/
inductive Reads (window : Range Float) (keepSecondary : Bool) (limit : Float) (grants : Grants) :
    List Packed → Accumulator Float → ℕ → Except ScanError Unit × Accumulator Float → Prop
  /-- There is no other record. -/
  | done (acc : Accumulator Float) : Reads window keepSecondary limit grants [] acc 0 (.ok (), acc)
  /-- The next record lies past the upper edge. -/
  | past {record : Packed} (rest : List Packed) (acc : Accumulator Float)
      (hpast : window.raMax < (Star.decode record : Star Float).ra) :
      Reads window keepSecondary limit grants (record :: rest) acc 1 (.ok (), acc)
  /-- The next record is not to be found. -/
  | skip {record : Packed} {rest : List Packed} {acc : Accumulator Float} {count : ℕ}
      {result : Except ScanError Unit × Accumulator Float}
      (hpast : ¬ window.raMax < (Star.decode record : Star Float).ra)
      (hskip : sought? window keepSecondary limit (Star.decode record) = none)
      (hrest : Reads window keepSecondary limit grants rest acc count result) :
      Reads window keepSecondary limit grants (record :: rest) acc (count + 1) result
  /-- The next record is to be found, and there is room for it. -/
  | keep {record : Packed} {rest : List Packed} {acc more : Accumulator Float} {mag : Float}
      {count : ℕ}
      {result : Except ScanError Unit × Accumulator Float}
      (hpast : ¬ window.raMax < (Star.decode record : Star Float).ra)
      (hkeep : sought? window keepSecondary limit (Star.decode record) = some mag)
      (hroom : acc.append grants (entryAt acc.size (hitOf (record, mag))) = (true, more))
      (hrest : Reads window keepSecondary limit grants rest more count result) :
      Reads window keepSecondary limit grants (record :: rest) acc (count + 1) result
  /-- The next record is to be found, but there is no room for it. -/
  | full {record : Packed} (rest : List Packed) {acc same : Accumulator Float} {mag : Float}
      (hpast : ¬ window.raMax < (Star.decode record : Star Float).ra)
      (hkeep : sought? window keepSecondary limit (Star.decode record) = some mag)
      (hroom : acc.append grants (entryAt acc.size (hitOf (record, mag))) = (false, same)) :
      Reads window keepSecondary limit grants (record :: rest) acc 1 (.error .outOfMemory, same)

/-- **A scan reads at most one record more than it comes to.** -/
theorem Reads.count_le {records : List Packed} {acc : Accumulator Float} {count : ℕ}
    {result : Except ScanError Unit × Accumulator Float}
    (h : Reads window keepSecondary limit grants records acc count result) :
    count ≤ (comeTo window records).length + 1 := by
  induction h with
  | done => exact Nat.zero_le _
  | past | full => exact Nat.le_add_left _ _
  | skip hpast _ _ ih | keep hpast _ _ _ ih =>
      rw [comeTo, List.takeWhile_cons_of_pos (by simpa [isPast] using hpast)]
      exact Nat.succ_le_succ ih

/-- The loop of the program reads its data in this way. -/
theorem exists_reads_sweep (window : Range Float) (keepSecondary : Bool) (limit : Float)
    (grants : Grants) (data : ByteArray) (file : String) (index : ℕ) (acc : Accumulator Float) :
    ∃ count, Reads window keepSecondary limit grants
      (recordsOf (data.data.toList.drop (recordSize * index))) acc count
      (sweep window keepSecondary limit grants data (endOfData file none)
        (data.size / recordSize - index) index acc) := by
  -- By induction on the records left, of which there are as many as fit into the bytes left.
  induction hleft : data.size / recordSize - index generalizing index acc with
  | zero =>
      have hshort : data.size < recordSize * (index + 1) := by
        simp only [recordSize] at hleft ⊢
        omega
      rw [recordsOf_drop_eq_nil data hshort]
      exact ⟨0, .done acc⟩
  | succ left ih =>
      have hfits : recordSize * (index + 1) ≤ data.size := by
        simp only [recordSize] at hleft ⊢
        omega
      have hless : data.size / recordSize - (index + 1) = left := by omega
      rw [recordsOf_drop data hfits, sweep]
      generalize Packed.read data (recordSize * index) = record
      by_cases hpast : window.raMax < (Star.decode record : Star Float).ra
      · rw [if_pos hpast]
        exact ⟨1, .past _ acc hpast⟩
      rw [if_neg hpast]
      have hsought := admit?_eq_sought? hpast keepSecondary limit
      cases hadmit : admit? window keepSecondary limit (Star.decode record) with
      | none =>
          obtain ⟨count, hrest⟩ := ih (index + 1) acc hless
          exact ⟨count + 1, .skip hpast (hsought.symm.trans hadmit) hrest⟩
      | some mag =>
          dsimp only
          rcases happend : acc.append grants (entryAt acc.size (hitOf (record, mag))) with
            ⟨room, more⟩
          rw [entryAt, hitOf] at happend
          simp only [happend]
          cases room with
          | false => exact ⟨1, .full _ hpast (hsought.symm.trans hadmit) happend⟩
          | true =>
              obtain ⟨count, hrest⟩ := ih (index + 1) more hless
              exact ⟨count + 1, .keep hpast (hsought.symm.trans hadmit) happend hrest⟩

end Records

/-! ## Whole scans -/

/-- **What a scan does with records.** -/
structure ScansRecords (window : Range Float) (keepSecondary : Bool) (limit : Float)
    (grants : Grants) (records : List Packed) (acc : Accumulator Float)
    (answer : Except ScanError ℕ × Accumulator Float) : Prop where
  /-- It reads one after the other, at most one more than there are before the first one past the
  upper edge, and counts what it has appended. -/
  reads : ∃ count ≤ (comeTo window records).length + 1, ∃ outcome,
    Reads window keepSecondary limit grants records acc count (outcome, answer.2) ∧
      answer.1 = outcome.map fun _ => answer.2.size - acc.size
  /-- It succeeds and appends those that it is to find, in order, unless it is refused memory. -/
  finds : (answer.1 = .ok (selected window keepSecondary limit records).length ∧
      Appends (selected window keepSecondary limit records) acc answer.2) ∨
    answer.1 = .error .outOfMemory ∧ grants (answer.2.size + growStep) = false

/-- **What a scan does with the files of a zone**, whatever their bytes are, if the lower edge of
its range lies in a given bin. -/
structure ScansFiles (index data : ByteArray) (range : Range Float) (bin : ℕ)
    (keepSecondary : Bool) (limit : Float) (grants : Grants) (acc : Accumulator Float)
    (answer : Except ScanError ℕ × Accumulator Float) : Prop where
  /-- An index that ends before the record of the bin does. -/
  short : index.size < 30 * bin + 30 →
    answer = (.error (.unexpectedEnd (indexName range.zone) (30 * bin)), acc)
  /-- An index whose record makes no sense. -/
  garbled : 30 * bin + 30 ≤ index.size →
    Index.parse? (index.extract (30 * bin) (30 * bin + 30)) = none →
    answer = (.error (.badIndexRecord (indexName range.zone)
      (Text.trim (Text.lossy (index.extract (30 * bin) (30 * bin + 30))))), acc)
  /-- An index that names a record.  The data are scanned from its first byte on. -/
  scanned : 30 * bin + 30 ≤ index.size →
    ∀ first, Index.parse? (index.extract (30 * bin) (30 * bin + 30)) = some first →
    12 * (first - 1) < Nat.pow 2 63 →
    ScansRecords (radianWindow range) keepSecondary limit grants
      (recordsOf (data.data.toList.drop (12 * (first - 1)))) acc answer

section Files

variable {disk : Disk} {connection : Connection} {range : Range Float} {index data : ByteArray}

/-- What becomes of the records from a given one on. -/
theorem scanAsIndexed_scansRecords
    (hdata : disk.lookup (connection.dataPath range.zone) = .ok (.file data)) {first : ℕ}
    (hsmall : recordSize * (first - 1) < Disk.seekLimit) (grants : Grants) (limit : Float)
    (acc : Accumulator Float) :
    ScansRecords (radianWindow range) connection.keepSecondary limit grants
      (recordsOf (data.data.toList.drop (recordSize * (first - 1)))) acc
      (scanAsIndexed disk grants connection range limit acc (.ok first)) := by
  have hword : recordSize * (first - 1) < Word.limit := hsmall.trans (by decide)
  have hseek : (Node.file data).seek (recordSize * (first - 1)) = .ok () :=
    if_neg (Nat.not_le.mpr hsmall)
  rw [scanAsIndexed, ← radians_eq_radianWindow]
  constructor
  · have hscan : scanFrom disk grants connection range limit first acc =
        sweep range.radians connection.keepSecondary limit grants data
          (endOfData (dataName range.zone) none) (data.size / recordSize - (first - 1)) (first - 1)
          acc := by
      simp only [scanFrom, hdata, if_neg (Nat.not_le.mpr hword), hseek]
      rfl
    rw [hscan]
    obtain ⟨count, hreads⟩ := exists_reads_sweep range.radians connection.keepSecondary limit
      grants data (dataName range.zone) (first - 1) acc
    exact ⟨count, hreads.count_le, _, hreads, rfl⟩
  · rw [scanFrom_eq_scanAt disk grants connection range limit hword acc, scanAt, hdata]
    simp only [hseek, Node.bytes, picks_eq_selected]
    generalize selected range.radians connection.keepSecondary limit _ = found
    rcases Accumulator.extend_cases grants acc (entriesFrom acc.size (found.map hitOf)) with
      ⟨filled, hextend, hfilled⟩ | ⟨filled, added, hextend, -, -, hrefused⟩
    · left
      have happends : Appends found acc filled := hfilled
      simp only [hextend, endAt, Node.fault, ite_self]
      rw [happends.size_eq, Nat.add_sub_cancel_left]
      exact ⟨rfl, hfilled⟩
    · right
      simp only [hextend]
      exact ⟨rfl, hrefused⟩

/-- **A scan of any files** ends, and ends as it should, with what it should find. -/
theorem swath_files (hindex : disk.lookup (connection.indexPath range.zone) = .ok (.file index))
    (hdata : disk.lookup (connection.dataPath range.zone) = .ok (.file data)) {bin : ℕ}
    (hbin : binNumber range = bin) (hsmall : 30 * bin < Nat.pow 2 63) (grants : Grants)
    (limit : Float) (acc : Accumulator Float) :
    ∃ answer, swath disk grants connection range limit acc = some answer ∧
      ScansFiles index data range bin connection.keepSecondary limit grants acc answer := by
  have hseek : (Node.file index).seek (30 * bin) = .ok () := if_neg (Nat.not_le.mpr hsmall)
  have hstart := startRecord_eq_recordAt disk connection
    (indexPosition?_of_binNumber hbin (hsmall.trans (by decide)))
  simp only [recordAt, hindex, hseek, Node.bytes, Index.recordSize] at hstart
  refine ⟨_, by rw [swath, hstart, Option.map_some], ?_⟩
  constructor
  · intro hshort
    simp only [hshort, if_true, Node.fault, scanAsIndexed]
  · intro hlong hparse
    simp only [if_neg (Nat.not_lt.mpr hlong), hparse, scanAsIndexed]
  · intro hlong first hparse hfirst
    simp only [if_neg (Nat.not_lt.mpr hlong), hparse]
    exact scanAsIndexed_scansRecords hdata hfirst grants limit acc

end Files

/-- The data of the sample, with three bytes more. -/
def sampleDataCutOff : ByteArray := ⟨(sampleRecords.flatMap Packed.bytes ++ [1, 2, 3]).toArray⟩

/-- **A scan of the sample** from the second record on, which finds three.  The fifth lies past the
edge, and there are a few bytes more behind it. -/
theorem swath_files_sample :
    let disk := uniformDisk sampleIndex sampleDataCutOff
    let connection : Connection := ⟨".", true⟩
    let range : Range Float := ⟨1050, 151, 153, -90, 90⟩
    disk.lookup (connection.indexPath range.zone) = .ok (.file sampleIndex) ∧
      disk.lookup (connection.dataPath range.zone) = .ok (.file sampleDataCutOff) ∧
      binNumber range = (40 : ℕ) ∧ 30 * 40 < Nat.pow 2 63 ∧
      ∃ answer, swath disk .always connection range 20 .empty = some answer ∧
        answer.1 = .ok 3 ∧
        ScansFiles sampleIndex sampleDataCutOff range 40 true 20 .always .empty answer := by
  intro disk connection range
  have hindex := uniformDisk_index sampleIndex sampleDataCutOff connection range.zone
  have hdata := uniformDisk_data sampleIndex sampleDataCutOff connection range.zone
  have hbin : binNumber range = (40 : ℕ) := binNumber_of_indexBin (by decide) (by decide)
  obtain ⟨answer, hswath, hfiles⟩ := swath_files hindex hdata hbin (by decide) .always 20 .empty
  have hcount : (swath disk .always connection range 20 .empty).map (·.1) = some (.ok 3) := by
    decide +kernel
  rw [hswath] at hcount
  exact ⟨hindex, hdata, hbin, by decide, answer, hswath, Option.some.inj hcount, hfiles⟩

/-- A range whose upper edge is undefined: all stars are found in it, although none lies between its
edges. -/
theorem swath_undefined_edge :
    let range : Range Float := ⟨1050, 0, undefined, -90, 90⟩
    (swath sampleDisk .always ⟨".", true⟩ range 20 .empty).map (·.1) = some (.ok 5) ∧
      (comeTo (radianWindow range) (recordsOf sampleData.data.toList)).filterMap
        (fun record => wanted? (radianWindow range) true 20 (Star.decode record)) = [] := by
  constructor <;> decide +kernel

end PlateSolver.Zone
