import Mathlib
import PlateSolver.Proofs.Arithmetic.Operations
import PlateSolver.Proofs.Zone.FullScan
import PlateSolver.Proofs.Zone.Records

/-!
# Positions in files

A scan works out two positions, both in words of 64 bits.  In the index it is the position of
the bin that holds the lower edge of its range, and in the data that of the record which the index
names.  Neither number is bounded beforehand: the edge may be any number, and the index
may name any record.  The second product is checked, so it is either exact or refused.  The first
is not, and a range that begins far enough to the east leaves no word for it.  Its scan is not
refused then, as one of the second kind is, but breaks off.  No position is ever taken for another.

* `binNumber`, `indexBin_eq` — the number of a bin, without bound and as a word.
* `tooFarEast_iff` — where a scan breaks off, without words.
* `recordAt`, `startRecord_eq_recordAt` — reading the index at a given byte.
* `IndexedExactly`, `indexedExactly_iff` — which ranges are read where they should be, or refused.
* `ReadExactly`, `readExactly` — where the data are read.
-/

namespace PlateSolver.Zone

open Double

/-! ## The number of a bin -/

/-- The whole part of a number; that of an infinite one has no bound. -/
noncomputable def wholePart (number : EReal) : ℕ∞ :=
  if number = ⊤ then ⊤ else (⌊number.toReal⌋₊ : ℕ)

theorem le_wholePart_iff {number : EReal} {n : ℕ} (hpos : 0 < n) :
    (n : ℕ∞) ≤ wholePart number ↔ (n : EReal) ≤ number := by
  have hcount : (0 : EReal) < n := by exact_mod_cast hpos
  induction number with
  | bot => simp [wholePart, hpos.ne', EReal.natCast_ne_bot]
  | top => simp [wholePart]
  | coe r =>
      rw [wholePart, if_neg (EReal.coe_ne_top r), EReal.toReal_coe, Nat.cast_le,
        Nat.le_floor_iff' hpos.ne']
      exact_mod_cast Iff.rfl

/-- **The number of the bin that holds the lower edge of a range**, whether or not a word can
hold it.  It is zero for an edge that is negative or undefined. -/
noncomputable def binNumber (range : Range Float) : ℕ∞ :=
  (value? (range.raMin / (15 / 4))).elim 0 wholePart

/-- The program counts bins in words, up to the greatest. -/
theorem indexBin_eq (range : Range Float) :
    (indexBin range : ℕ∞) = min (binNumber range) (Nat.pow 2 64 - 1 : ℕ) := by
  refine ENat.eq_of_forall_natCast_le_iff fun n => ?_
  rcases Nat.eq_zero_or_pos n with rfl | hpos
  · simp
  rw [Nat.cast_le, indexBin, Word.limit, le_min_iff, le_min_iff, Nat.cast_le]
  refine and_congr_left fun hbound => ?_
  have hn : n < 2 ^ 64 := by
    have hpow : Nat.pow 2 64 = 2 ^ 64 := rfl
    omega
  rw [binNumber]
  cases hvalue : value? (range.raMin / (15 / 4)) with
  | none => simp [whole_of_undefined hvalue]
  | some quotient => rw [le_whole_iff hvalue hpos hn, Option.elim_some, le_wholePart_iff hpos]

theorem indexBin_of_binNumber {range : Range Float} {bin : ℕ} (h : binNumber range = bin) :
    indexBin range = min bin (Nat.pow 2 64 - 1) := by
  have hword := indexBin_eq range
  rw [h, ← Nat.mono_cast.map_min] at hword
  exact_mod_cast hword

theorem binNumber_of_indexBin {range : Range Float} {bin : ℕ} (h : indexBin range = bin)
    (hless : bin < Nat.pow 2 64 - 1) : binNumber range = bin := by
  have hword := indexBin_eq range
  rw [h] at hword
  rcases min_choice (binNumber range) (Nat.pow 2 64 - 1 : ℕ) with hexact | hgreatest
  · exact hexact.symm.trans hword.symm
  · exact absurd (by exact_mod_cast hword.trans hgreatest) hless.ne

/-- A bin that no word can count is far enough to the east, too. -/
theorem indexBin_of_binNumber_top {range : Range Float} (h : binNumber range = ⊤) :
    indexBin range = Nat.pow 2 64 - 1 := by
  have hword := indexBin_eq range
  rw [h, top_inf_eq] at hword
  exact_mod_cast hword

/-- **Where a scan breaks off**: the number of the bin, thirty times over, is not a word. -/
theorem tooFarEast_iff (range : Range Float) :
    TooFarEast range ↔ (Nat.pow 2 64 : ℕ) ≤ 30 * binNumber range := by
  have hpow : Nat.pow 2 64 = 2 ^ 64 := rfl
  rw [TooFarEast, Index.recordSize, Word.limit]
  induction hbin : binNumber range using ENat.recTopCoe with
  | top =>
      rw [indexBin_of_binNumber_top hbin, ENat.mul_top (by norm_num)]
      simp
  | coe bin =>
      have hcast : ((Nat.pow 2 64 : ℕ) : ℕ∞) ≤ 30 * bin ↔ Nat.pow 2 64 ≤ 30 * bin := by
        exact_mod_cast Iff.rfl
      rw [indexBin_of_binNumber hbin, hcast]
      omega

/-- A position that is a word is worked out exactly. -/
theorem indexPosition?_of_binNumber {range : Range Float} {bin : ℕ} (hbin : binNumber range = bin)
    (hword : 30 * bin < Nat.pow 2 64) : indexPosition? range = some (30 * bin) := by
  have hexact : indexBin range = bin := by
    rw [indexBin_of_binNumber hbin]
    omega
  rw [indexPosition?, hexact]
  exact Word.ofNat?_of_lt hword

/-! ## Reading the index -/

/-- The record number in the index record at a position. -/
def recordAt (disk : Disk) (connection : Connection) (zone position : ℕ) : Except ScanError ℕ :=
  match disk.lookup (connection.indexPath zone) with
  | .error e => .error (.unopened (indexName zone) e)
  | .ok node =>
    match node.seek position with
    | .error e => .error (.unsought (indexName zone) position e)
    | .ok _ =>
      if node.bytes.size < position + Index.recordSize then
        match node.fault with
        | none => .error (.unexpectedEnd (indexName zone) position)
        | some cause => .error (.unread (indexName zone) position cause)
      else
        let record := node.bytes.extract position (position + Index.recordSize)
        match Index.parse? record with
        | some n => .ok n
        | none => .error (.badIndexRecord (indexName zone) (Text.trim (Text.lossy record)))

/-- What is read is the record at the position of the range. -/
theorem startRecord_eq_recordAt (disk : Disk) (connection : Connection) {range : Range Float}
    {position : ℕ} (hposition : indexPosition? range = some position) :
    startRecord disk connection range =
      some (recordAt disk connection range.zone position) := by
  rw [startRecord, recordAt, hposition]
  cases disk.lookup (connection.indexPath range.zone) with
  | error e => rfl
  | ok node => rfl

/-- Nothing can be sought from the limit of positions on. -/
theorem exists_seek_eq_error (node : Node) {position : ℕ} (h : Disk.seekLimit ≤ position) :
    ∃ e, node.seek position = .error e := by
  unfold Node.seek
  split
  · exact ⟨_, rfl⟩
  · exact ⟨_, if_pos h⟩

theorem exists_recordAt_eq_error (disk : Disk) (connection : Connection) (zone : ℕ)
    {position : ℕ} (h : Disk.seekLimit ≤ position) :
    ∃ e, recordAt disk connection zone position = .error e := by
  unfold recordAt
  cases disk.lookup (connection.indexPath zone) with
  | error e => exact ⟨_, rfl⟩
  | ok node =>
      obtain ⟨e, hseek⟩ := exists_seek_eq_error node h
      exact ⟨_, by simp only [hseek]; rfl⟩

/-- **A range whose index is read where it should be, or else refused**, whatever the files
hold. -/
structure IndexedExactly (range : Range Float) : Prop where
  /-- A position that a file can have is the one that is read. -/
  read : ∀ bin : ℕ, binNumber range = bin → 30 * bin < Nat.pow 2 63 →
    ∀ disk connection, startRecord disk connection range =
      some (recordAt disk connection range.zone (30 * bin))
  /-- Any other is refused, and nothing is appended. -/
  refuse : (Nat.pow 2 63 : ℕ) ≤ 30 * binNumber range →
    ∀ disk grants connection limit acc, ∃ e,
      swath disk grants connection range limit acc = some (.error e, acc)

/-- A range whose index record has no position that is a word.  An index that cannot be opened is
found first; with any other the scan breaks off. -/
structure BreaksOff (range : Range Float) : Prop where
  /-- The index cannot be opened. -/
  unopened : ∀ disk (connection : Connection) e,
    disk.lookup (connection.indexPath range.zone) = .error e →
    ∀ grants limit acc, swath disk grants connection range limit acc =
      some (.error (.unopened (indexName range.zone) e), acc)
  /-- The index can be opened. -/
  opened : ∀ disk (connection : Connection) node,
    disk.lookup (connection.indexPath range.zone) = .ok node →
    ∀ grants limit acc, swath disk grants connection range limit acc = none

/-- The scan of a range that begins too far east breaks off if it comes to that. -/
theorem TooFarEast.breaksOff {range : Range Float} (h : TooFarEast range) : BreaksOff range where
  unopened disk connection e herror grants limit acc := by
    rw [swath, startRecord, herror]
    rfl
  opened disk connection node hnode grants limit acc := swath_eq_none_iff.mpr ⟨⟨node, hnode⟩, h⟩

/-- **Which ranges are read where they should be, or refused**: those of which the position in the
index is a word.  The scans of all others break off. -/
theorem indexedExactly_iff (range : Range Float) :
    IndexedExactly range ↔ 30 * binNumber range < (Nat.pow 2 64 : ℕ) := by
  rw [← not_le, ← tooFarEast_iff]
  constructor
  · -- A position beyond all words is beyond all files, so there would have to be an error.
    intro hexact hfar
    have hseek : ((Nat.pow 2 63 : ℕ) : ℕ∞) ≤ (Nat.pow 2 64 : ℕ) := by
      exact_mod_cast (by decide : Nat.pow 2 63 ≤ Nat.pow 2 64)
    have hlarge := hseek.trans ((tooFarEast_iff range).mp hfar)
    obtain ⟨e, herror⟩ := hexact.refuse hlarge sampleDisk .always ⟨".", true⟩ 20 .empty
    have hnone := hfar.breaksOff.opened sampleDisk ⟨".", true⟩ _ (uniformDisk_index _ _ _ _)
      .always 20 .empty
    rw [hnone] at herror
    cases herror
  · intro hnear
    rw [tooFarEast_iff, not_le] at hnear
    refine
      { read := fun bin hbin hsmall disk connection => ?_
        refuse := fun hlarge disk grants connection limit acc => ?_ }
    · exact startRecord_eq_recordAt disk connection
        (indexPosition?_of_binNumber hbin (hsmall.trans (by decide)))
    · induction hbin : binNumber range using ENat.recTopCoe with
      | top =>
          rw [hbin, ENat.mul_top (by norm_num)] at hnear
          exact absurd hnear (by simp)
      | coe bin =>
          rw [hbin] at hnear hlarge
          have hword : 30 * bin < Nat.pow 2 64 := by exact_mod_cast hnear
          have hseek : Disk.seekLimit ≤ 30 * bin := by exact_mod_cast hlarge
          obtain ⟨e, herror⟩ := exists_recordAt_eq_error disk connection range.zone hseek
          exact ⟨e, by
            rw [swath, startRecord_eq_recordAt disk connection
              (indexPosition?_of_binNumber hbin hword), herror]
            rfl⟩

/-! ## Reading the data -/

/-- The numbers that an index can show. -/
theorem bounds_of_parse {bytes : ByteArray} {n : ℕ} (h : Index.parse? bytes = some n) :
    0 < n ∧ n < Nat.pow 2 64 := by
  simp only [Index.parse?, Option.bind_eq_bind, Option.bind_eq_some_iff] at h
  obtain ⟨text, -, h⟩ := h
  split at h
  · obtain ⟨_, -, h⟩ := Option.bind_eq_some_iff.mp h
    obtain ⟨hcount, hleast⟩ := Option.filter_eq_some_iff.mp h
    unfold Index.count? at hcount
    have hmost : n ≤ Index.countLimit := of_decide_eq_true (Option.filter_eq_some_iff.mp hcount).2
    exact ⟨of_decide_eq_true hleast, Nat.lt_of_le_pred (by decide) hmost⟩
  · cases h

theorem bounds_of_startRecord {disk : Disk} {connection : Connection} {range : Range Float}
    {first : ℕ} (h : startRecord disk connection range = some (.ok first)) :
    0 < first ∧ first < Nat.pow 2 64 := by
  rw [startRecord] at h
  cases hnode : disk.lookup (connection.indexPath range.zone) with
  | error e => simp [hnode] at h
  | ok node =>
      rw [hnode] at h
      obtain ⟨position, -, hrecord⟩ := Option.map_eq_some_iff.mp h
      rw [recordNumber] at hrecord
      split at hrecord
      · cases hrecord
      split_ifs at hrecord
      · split at hrecord <;> cases hrecord
      · dsimp only at hrecord
        split at hrecord
        · next hparse =>
            cases hrecord
            exact bounds_of_parse hparse
        · cases hrecord

/-- **A range whose data are read where they should be**, whatever the files hold: from the
first byte of the record that the index names, or not at all. -/
def ReadExactly (range : Range Float) : Prop :=
  ∀ disk connection first, startRecord disk connection range = some (.ok first) →
    0 < first ∧ first < Nat.pow 2 64 ∧ ∀ grants limit acc,
      if 12 * (first - 1) < Nat.pow 2 63 then
        let result := scanAt disk grants connection range limit (12 * (first - 1)) acc
        swath disk grants connection range limit acc =
          some (result.1.map fun _ => result.2.size - acc.size, result.2)
      else ∃ e, swath disk grants connection range limit acc = some (.error e, acc)

theorem exists_scanFrom_eq_error (disk : Disk) (grants : Grants) (connection : Connection)
    (range : Range Float) (limit : Float) {first : ℕ}
    (h : Disk.seekLimit ≤ recordSize * (first - 1)) (acc : Accumulator Float) :
    ∃ e, scanFrom disk grants connection range limit first acc = (.error e, acc) := by
  unfold scanFrom
  cases disk.lookup (connection.dataPath range.zone) with
  | error e => exact ⟨_, rfl⟩
  | ok node =>
      dsimp only
      split_ifs
      · exact ⟨_, rfl⟩
      · obtain ⟨e, hseek⟩ := exists_seek_eq_error node h
        exact ⟨_, by rw [hseek]⟩

/-- **Where the data of a range are read.** -/
theorem readExactly (range : Range Float) : ReadExactly range := by
  intro disk connection first hfirst
  obtain ⟨hpos, hword⟩ := bounds_of_startRecord hfirst
  refine ⟨hpos, hword, fun grants limit acc => ?_⟩
  split_ifs with hsmall
  · have hscan := scanFrom_eq_scanAt disk grants connection range limit
      (show recordSize * (first - 1) < Word.limit from hsmall.trans (by decide)) acc
    rw [swath, hfirst, Option.map_some, scanAsIndexed, hscan]
    rfl
  · obtain ⟨e, hscan⟩ := exists_scanFrom_eq_error disk grants connection range limit
      (Nat.not_lt.mp hsmall) acc
    refine ⟨e, ?_⟩
    rw [swath, hfirst, Option.map_some, scanAsIndexed, hscan]
    rfl

/-- **No position is mistaken for another.**  Whatever the lower edge of a range is, its index is
read at the position of its bin, or the scan is refused and nothing is read, if and only if that
position is a word.  If it is none, the scan breaks off as soon as the index is open.  The data are
read at the position of the record that the index names, or nothing is read. -/
theorem positions_exact (range : Range Float) :
    (IndexedExactly range ↔ 30 * binNumber range < (Nat.pow 2 64 : ℕ)) ∧
      ((Nat.pow 2 64 : ℕ) ≤ 30 * binNumber range → BreaksOff range) ∧ ReadExactly range :=
  ⟨indexedExactly_iff range, fun hfar => ((tooFarEast_iff range).mpr hfar).breaksOff,
    readExactly range⟩

/-- A range that begins fifteen times the 61st power of two degrees east: its bin is the 63rd power
of two, no word is thirty times that, and its scan does not end with an error. -/
theorem positions_overflow :
    let range : Range Float := ⟨1050, 34587645138205409280, 360, -90, 90⟩
    binNumber range = (Nat.pow 2 63 : ℕ) ∧ ¬ IndexedExactly range ∧
      swath sampleDisk .always ⟨".", true⟩ range 18 .empty = none := by
  intro range
  have hbin : binNumber range = (Nat.pow 2 63 : ℕ) := binNumber_of_indexBin (by decide) (by decide)
  have hlarge : (Nat.pow 2 64 : ℕ) ≤ 30 * binNumber range := by
    rw [hbin]
    exact_mod_cast (by decide : Nat.pow 2 64 ≤ 30 * Nat.pow 2 63)
  refine ⟨hbin, fun hexact => hlarge.not_gt ((indexedExactly_iff range).mp hexact), ?_⟩
  exact ((tooFarEast_iff range).mpr hlarge).breaksOff.opened sampleDisk ⟨".", true⟩ _
    (uniformDisk_index _ _ _ _) .always 18 .empty

end PlateSolver.Zone
