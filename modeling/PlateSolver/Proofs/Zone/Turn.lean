import PlateSolver.Proofs.Zone.Atomic
import PlateSolver.Proofs.Zone.Edges

/-!
# Cones that lead outside the index

A window of right ascension is cut where it leaves the turn, but only once: its centre is taken
to lie in the turn already.  That of a cone need not.  A search hands over a centre as the
alignment with the sky has it, and then a window may begin past the end of the turn, in a bin
that no index has a record for.  Within the turn there is one more way: a window that begins
before zero hours by less than rounding can tell comes to begin at the very end.

* `Indexed` — a range the index leads to.
* `Fits`, `WithinTurn` — the windows for which neither happens.
* `spans_indexed_iff` — these are the ones that the index leads to.
* `exists_fetch_ne_unexpectedEnd` — where it does, a query has an answer, and does not come to the
  end of the index.
* `fetch_indexed`, `fetch_beyond_turn` — both for the ranges of a cone, and what happens
  otherwise.

## Design decisions

The question is one about the arithmetic that the program runs on, so the carrier is binary
floating point, and no law is assumed of the cosine: whatever half-width it leads to, `WithinTurn`
says for which centres it is harmless.  Only where the ranges of one cone are written out, the
cosine of zero has to be known.
-/

namespace PlateSolver.Zone

open Double Exact Angle

/-! ## Windows -/

/-- **A range that the index leads to**: its window lies within a turn, and the index has a
record for the bin where it begins. -/
def Indexed {α : Type} [Scalar α] (range : Range α) : Prop :=
  (0 ≤ range.raMin ∧ range.raMin ≤ range.raMax ∧ range.raMax ≤ 360) ∧ indexBin range < binCount

/-- **Edges that fit into a turn**: the upper one is not before it, the lower one not behind it,
nor brought to its end by rounding. -/
def Fits {α : Type} [Scalar α] (low high : α) : Prop :=
  0 ≤ high ∧ low < 360 ∧ (low < 0 → 360 + low < 360)

/-- **A cone within a turn.** Unless its window is the whole turn, the edges fit. -/
def WithinTurn {α : Type} [Scalar α] (ra halfWidth : α) : Prop :=
  0 ≤ halfWidth ∧ halfWidth < 180 → Fits (ra - halfWidth) (ra + halfWidth)

/-- A window in a band. -/
def Band.range {α : Type} (band : Band α) (window : α × α) : Range α :=
  ⟨band.zone, window.1, window.2, band.low, band.high⟩

theorem indexed_iff (range : Range Float) {p q : EReal} (hmin : value? range.raMin = some p)
    (hmax : value? range.raMax = some q) :
    Indexed range ↔ (0 ≤ p ∧ p ≤ q ∧ q ≤ ((360 : ℝ) : EReal)) ∧ p < ((360 : ℝ) : EReal) := by
  have hbounds : (0 ≤ range.raMin ∧ range.raMin ≤ range.raMax ∧ range.raMax ≤ 360) ↔
      0 ≤ p ∧ p ≤ q ∧ q ≤ ((360 : ℝ) : EReal) :=
    and_congr (le_iff_of_value value?_zero hmin)
      (and_congr (le_iff_of_value hmin hmax) (le_iff_of_value hmax value?_turn))
  refine (and_congr_left' hbounds).trans (and_congr_right fun h => ?_)
  induction p with
  | bot => exact absurd h.1 (by simp)
  | top =>
    have htop := h.2.1.trans h.2.2
    exact absurd htop (by simp)
  | coe p => rw [indexBin_lt_iff hmin, EReal.coe_lt_coe_iff]

section Windows

variable {x y : Float} {p low high : EReal}

/-- A window that begins before the turn. -/
theorem before_indexed_iff (hx : value? x = some low) (hy : value? y = some high)
    (hedges : Edges p low high) (hneg : x < 0) (band : Band Float) :
    (∀ window ∈ [(0, y), (360 + x, 360)], Indexed (band.range window)) ↔ Fits x y := by
  have hlow : low < 0 := (lt_iff_of_value hx value?_zero).mp hneg
  have hreach : 0 ≤ y ↔ 0 ≤ high := le_iff_of_value value?_zero hy
  have hfirst := indexed_iff (band.range (0, y)) value?_zero hy
  rw [List.forall_mem_cons, List.forall_mem_singleton, hfirst]
  by_cases hhigh : 0 ≤ high
  swap
  · exact iff_of_false (fun h => hhigh h.1.1.2.1) fun h => hhigh (hreach.mp h.1)
  -- The upper edge keeps the lower one from being infinite.
  have hfinite := hedges.le_low hlow hhigh
  induction low with
  | bot => exact absurd hfinite (by simp)
  | top => exact absurd hlow (by simp)
  | coe b =>
    obtain ⟨w, hw, hrounds⟩ := value?_add value?_turn hx
    have hnonneg : ((0 : ℝ) : EReal) ≤ w := by
      refine hrounds.ge_of_ge number_zero ?_
      rw [EReal.coe_le_coe_iff] at hfinite
      rw [← EReal.coe_add, EReal.coe_le_coe_iff]
      linarith
    have hsecond := indexed_iff (band.range (360 + x, 360)) hw value?_turn
    have hend : 360 + x < 360 ↔ w < ((360 : ℝ) : EReal) := lt_iff_of_value hw value?_turn
    rw [hsecond]
    constructor
    · rintro ⟨-, -, hlt⟩
      have hbegin : (b : EReal) < ((360 : ℝ) : EReal) := hlow.trans (by norm_num)
      exact ⟨hreach.mpr hhigh, (lt_iff_of_value hx value?_turn).mpr hbegin, fun _ => hend.mpr hlt⟩
    · rintro ⟨-, -, hlt⟩
      have hlt := hend.mp (hlt hneg)
      refine ⟨⟨⟨le_rfl, hhigh, hedges.high_le hlow⟩, ?_⟩, ⟨hnonneg, hlt.le, le_rfl⟩, hlt⟩
      norm_num

/-- A window that reaches the end of the turn. -/
theorem past_indexed_iff (hx : value? x = some low) (hy : value? y = some high)
    (hedges : Edges p low high) (hneg : ¬ x < 0) (hpast : 360 ≤ y) (band : Band Float) :
    (∀ window ∈ [(0, y - 360), (x, 360)], Indexed (band.range window)) ↔ Fits x y := by
  have hlow : 0 ≤ low := not_lt.mp ((lt_iff_of_value hx value?_zero).not.mp hneg)
  have hhigh : ((360 : ℝ) : EReal) ≤ high := (le_iff_of_value value?_turn hy).mp hpast
  have hbegin : x < 360 ↔ low < ((360 : ℝ) : EReal) := lt_iff_of_value hx value?_turn
  obtain ⟨w, hw, hrounds⟩ := value?_sub hy value?_turn
  have hfirst := indexed_iff (band.range (0, y - 360)) value?_zero hw
  have hsecond := indexed_iff (band.range (x, 360)) hx value?_turn
  rw [List.forall_mem_cons, List.forall_mem_singleton, hfirst, hsecond]
  constructor
  · rintro ⟨-, -, hlt⟩
    have hreach : ((0 : ℝ) : EReal) ≤ high := hhigh.trans' (by norm_num)
    exact ⟨(le_iff_of_value value?_zero hy).mpr hreach, hbegin.mpr hlt, fun h => absurd h hneg⟩
  · rintro ⟨-, hlt, -⟩
    have hlt := hbegin.mp hlt
    have hfinite := hedges.high_le_two hlt
    have hbounds : ((0 : ℝ) : EReal) ≤ w ∧ w ≤ ((360 : ℝ) : EReal) := by
      induction high with
      | bot => exact absurd hhigh (by simp)
      | top => exact absurd hfinite (by simp)
      | coe u =>
        rw [EReal.coe_le_coe_iff] at hhigh hfinite
        rw [← EReal.coe_sub] at hrounds
        exact ⟨hrounds.ge_of_ge number_zero (EReal.coe_le_coe_iff.mpr (by linarith)),
          hrounds.le_of_le number_turn (EReal.coe_le_coe_iff.mpr (by linarith))⟩
    refine ⟨⟨⟨le_rfl, hbounds⟩, ?_⟩, ⟨hlow, hlt.le, le_rfl⟩, hlt⟩
    norm_num

/-- A window within the turn. -/
theorem inside_indexed_iff (hx : value? x = some low) (hy : value? y = some high)
    (hedges : Edges p low high) (hneg : ¬ x < 0) (hpast : ¬ 360 ≤ y) (band : Band Float) :
    (∀ window ∈ [(x, y)], Indexed (band.range window)) ↔ Fits x y := by
  have hlow : 0 ≤ low := not_lt.mp ((lt_iff_of_value hx value?_zero).not.mp hneg)
  have hhigh : high < ((360 : ℝ) : EReal) :=
    not_le.mp ((le_iff_of_value value?_turn hy).not.mp hpast)
  have horder : low ≤ high := hedges.low_le.trans hedges.le_high
  have hlt : low < ((360 : ℝ) : EReal) := horder.trans_lt hhigh
  have hrange := indexed_iff (band.range (x, y)) hx hy
  rw [List.forall_mem_singleton, hrange]
  have hreach : 0 ≤ y := (le_iff_of_value value?_zero hy).mpr (hlow.trans horder)
  have hbegin : x < 360 := (lt_iff_of_value hx value?_turn).mpr hlt
  exact iff_of_true ⟨⟨hlow, horder, hhigh.le⟩, hlt⟩ ⟨hreach, hbegin, fun h => absurd h hneg⟩

end Windows

/-- Every window is on the index if and only if the cone is within the turn. -/
theorem spans_indexed_iff (ra dec radius : Float) (band : Band Float) :
    (∀ window ∈ spans ra dec radius, Indexed (band.range window)) ↔
      WithinTurn ra (radius / Analytic.cos (Angle.ofDegrees dec)) := by
  unfold spans
  simp only
  generalize radius / Analytic.cos (Angle.ofDegrees dec) = halfWidth
  by_cases hnarrow : 0 ≤ halfWidth ∧ halfWidth < 180
  swap
  · rw [if_neg hnarrow]
    refine iff_of_true ?_ fun h => absurd h hnarrow
    intro window hwindow
    obtain rfl := List.mem_singleton.mp hwindow
    refine (indexed_iff (band.range (0, 360)) value?_zero value?_turn).mpr ?_
    norm_num
  rw [if_pos hnarrow, WithinTurn, forall_prop_of_true hnarrow]
  obtain ⟨c, hhalf, hc⟩ := exists_value_of_narrow hnarrow
  cases hra : value? ra with
  | none =>
    have hlow : value? (ra - halfWidth) = none := value?_sub_undefined hra
    have hhigh : value? (ra + halfWidth) = none := value?_add_undefined hra
    rw [if_neg (not_lt_of_undefined (.inl hlow)), if_neg (not_le_of_undefined (.inr hhigh))]
    refine iff_of_false (fun h => ?_) fun h => not_le_of_undefined (.inr hhigh) h.1
    exact not_le_of_undefined (.inr hlow) (h _ (List.mem_singleton_self _)).1.1
  | some p =>
    obtain ⟨low, high, hlow, hhigh, hedges⟩ := edges hra hhalf hc
    split_ifs with hneg hpast
    · exact before_indexed_iff hlow hhigh hedges hneg band
    · exact past_indexed_iff hlow hhigh hedges hneg hpast band
    · exact inside_indexed_iff hlow hhigh hedges hneg hpast band

/-! ## Queries -/

section Queries

variable {α : Type} [Analytic α]

/-- The half-width of the window of a cone, in degrees. -/
def halfWidth (cone : Cone α) : α :=
  Angle.toDegrees cone.radius / Analytic.cos (Angle.ofDegrees (Angle.toDegrees cone.dec))

/-- The ranges of a cone are its windows in its bands. -/
theorem partition_eq {cone : Cone α} {ranges : List (Range α)} (h : partition cone = .ok ranges) :
    ranges = (bands (Angle.toDegrees cone.dec) (Angle.toDegrees cone.radius)).flatMap fun band =>
      (spans (Angle.toDegrees cone.ra) (Angle.toDegrees cone.dec)
        (Angle.toDegrees cone.radius)).map band.range := by
  unfold partition at h
  simp only at h
  split at h
  · exact (Except.ok.inj h).symm
  · cases h

/-- The bands of a cone are among those that there are. -/
theorem exists_zone_of_mem_bands {dec radius : α} {band : Band α}
    (hband : band ∈ bands dec radius) :
    ∃ index < bandCount, band.zone = index * zoneStep := by
  obtain ⟨i, hi, rfl⟩ := List.mem_map.mp hband
  refine ⟨_, ?_, rfl⟩
  have hlast : bandIndex (dec + radius) ≤ bandCount - 1 := min_le_right _ _
  have hcount : 0 < bandCount := by decide
  rw [List.mem_range] at hi
  omega

/-- A catalog whose indexes have all their records. -/
def CompleteIndexes (disk : Disk) (connection : Connection) : Prop :=
  ∀ band < bandCount, ∃ node, disk.lookup (connection.indexPath (band * zoneStep)) = .ok node ∧
    binCount * Index.recordSize ≤ node.bytes.size

/-- A bin that the index has a record for is at a position that is a word. -/
theorem not_tooFarEast {range : Range α} (hbin : indexBin range < binCount) :
    ¬ TooFarEast range := by
  have hcount : Index.recordSize * binCount < Word.limit := by decide
  exact Nat.not_le.mpr ((Nat.mul_le_mul_left Index.recordSize hbin.le).trans_lt hcount)

/-- It is found in a complete index. -/
theorem startRecord_ne_unexpectedEnd {disk : Disk} {connection : Connection}
    (hcomplete : CompleteIndexes disk connection) {range : Range α}
    (hzone : ∃ index < bandCount, range.zone = index * zoneStep) (hbin : indexBin range < binCount)
    (file : String) (position : ℕ) :
    startRecord disk connection range ≠ some (.error (.unexpectedEnd file position)) := by
  obtain ⟨index, hindex, hzone⟩ := hzone
  obtain ⟨node, hnode, hsize⟩ := hcomplete index hindex
  have hposition : ¬ node.bytes.size < Index.recordSize * indexBin range + Index.recordSize := by
    simp only [Index.recordSize, binCount] at *
    omega
  rw [startRecord, hzone]
  simp only [hnode, indexPosition?_of_not_tooFarEast (not_tooFarEast hbin), Option.map_some,
    recordNumber, if_neg hposition]
  split
  · simp
  · split <;> simp

/-- Only reading an index can end too early. -/
theorem scanFrom_ne_unexpectedEnd (disk : Disk) (grants : Grants) (connection : Connection)
    (range : Range α) (limit : α) (first : ℕ) (acc : Accumulator α) (file : String)
    (position : ℕ) :
    (scanFrom disk grants connection range limit first acc).1 ≠
      .error (.unexpectedEnd file position) := by
  have hend (name : String) (fault : Option OsError) (index : ℕ) (stars : List (Star α)) :
      sweepEnd range.radians (endOfData name fault) index stars ≠
        .error (.unexpectedEnd file position) := by
    unfold sweepEnd endOfData
    split
    · simp
    · cases fault <;> simp
  unfold scanFrom
  simp only
  cases disk.lookup (connection.dataPath range.zone) with
  | error e => simp
  | ok node =>
    simp only
    split
    · simp
    · cases node.seek (recordSize * (first - 1)) with
      | error e => simp
      | ok _ =>
        simp only [sweep_eq_extend]
        split
        · simp
        · exact hend _ _ _ _

/-- Scans of ranges that the index leads to never come to its end. -/
theorem scanAll_ne_unexpectedEnd {disk : Disk} {connection : Connection}
    (hcomplete : CompleteIndexes disk connection) {grants : Grants} {limit : α}
    {ranges : List (Range α)}
    (hranges : ∀ range ∈ ranges, (∃ index < bandCount, range.zone = index * zoneStep) ∧
      indexBin range < binCount) {acc : Accumulator α}
    {answer : Except ScanError Unit × Accumulator α}
    (h : answer ∈ ZoneCatalog.scanAll disk grants connection limit ranges acc) (file : String)
    (position : ℕ) : answer.1 ≠ .error (.unexpectedEnd file position) := by
  induction ranges generalizing acc with
  | nil =>
    obtain rfl := Option.mem_some.mp h
    simp
  | cons range rest ih =>
    obtain ⟨hzone, hbin⟩ := hranges range List.mem_cons_self
    obtain ⟨e, filled, hswath, rfl⟩ | ⟨n, filled, -, hrest⟩ := mem_scanAll_cons.mp h
    · obtain ⟨hstart, -⟩ | ⟨first, -, hscan⟩ := startRecord_or_scanFrom_of_swath hswath
      · have hindex := startRecord_ne_unexpectedEnd hcomplete hzone hbin file position
        simpa [hstart] using hindex
      · have hdata := scanFrom_ne_unexpectedEnd disk grants connection range limit first acc file
          position
        simpa [hscan] using hdata
    · exact ih (fun range hmem => hranges range (List.mem_cons_of_mem _ hmem)) hrest

/-- A query whose ranges the index leads to has an answer, and never comes to its end. -/
theorem exists_fetch_ne_unexpectedEnd {catalog : ZoneCatalog} {disk : Disk}
    (hcomplete : ∀ connection ∈ catalog.connection, CompleteIndexes disk connection)
    {cone : Cone α} {ranges : List (Range α)} (hpartition : partition cone = .ok ranges)
    (hbins : ∀ range ∈ ranges, indexBin range < binCount) (grants : Grants) (limit : α)
    (acc : Accumulator α) :
    ∃ answer, catalog.fetch disk grants cone limit acc = some answer ∧
      ∀ file position, answer.1 ≠ .error (.scan (.unexpectedEnd file position)) := by
  cases hfetch : catalog.fetch disk grants cone limit acc with
  | none =>
    obtain ⟨ranges', hranges, range, hrange, hfar⟩ := ZoneCatalog.exists_tooFarEast_of_fetch hfetch
    obtain rfl := Except.ok.inj (hpartition.symm.trans hranges)
    exact absurd hfar (not_tooFarEast (hbins range hrange))
  | some answer =>
    refine ⟨answer, rfl, fun file position => ?_⟩
    unfold ZoneCatalog.fetch at hfetch
    cases hconnection : catalog.connection with
    | none =>
      rw [hconnection] at hfetch
      obtain rfl := Option.some.inj hfetch
      simp
    | some connection =>
      simp only [hconnection, hpartition] at hfetch
      cases hpresent : connection.ensurePresent disk with
      | error e =>
        rw [hpresent] at hfetch
        obtain rfl := Option.some.inj hfetch
        simp
      | ok _ =>
        rw [hpresent] at hfetch
        have hzones : ∀ range ∈ ranges, (∃ index < bandCount, range.zone = index * zoneStep) ∧
            indexBin range < binCount := by
          intro range hrange
          refine ⟨?_, hbins range hrange⟩
          rw [partition_eq hpartition] at hrange
          obtain ⟨band, hband, hrange⟩ := List.mem_flatMap.mp hrange
          obtain ⟨window, -, rfl⟩ := List.mem_map.mp hrange
          exact exists_zone_of_mem_bands hband
        obtain ⟨⟨outcome, filled⟩, hscan, rfl⟩ := Option.map_eq_some_iff.mp hfetch
        have hend := scanAll_ne_unexpectedEnd (hcomplete connection hconnection) hzones hscan file
          position
        cases outcome with
        | error e => simpa [ZoneCatalog.conclude] using hend
        | ok _ => simp [ZoneCatalog.conclude]

end Queries

/-- **The index leads to the ranges of a cone**, of any cone that has some, if and only if the
cone is within the turn. -/
theorem forall_indexed_iff {cone : Cone Float} {ranges : List (Range Float)}
    (hpartition : partition cone = .ok ranges) :
    (∀ range ∈ ranges, Indexed range) ↔
      ranges = [] ∨ WithinTurn (Angle.toDegrees cone.ra) (halfWidth cone) := by
  have hband := spans_indexed_iff (Angle.toDegrees cone.ra) (Angle.toDegrees cone.dec)
    (Angle.toDegrees cone.radius)
  rw [partition_eq hpartition]
  constructor
  · intro h
    cases hbands : bands (Angle.toDegrees cone.dec) (Angle.toDegrees cone.radius) with
    | nil => exact .inl rfl
    | cons band rest =>
      rw [hbands] at h
      refine .inr ((hband band).mp fun window hwindow => h _ ?_)
      exact List.mem_flatMap.mpr ⟨band, List.mem_cons_self, List.mem_map_of_mem hwindow⟩
  · rintro (hnil | hturn) range hrange
    · rw [hnil] at hrange
      cases hrange
    · obtain ⟨band, -, hrange⟩ := List.mem_flatMap.mp hrange
      obtain ⟨window, hwindow, rfl⟩ := List.mem_map.mp hrange
      exact (hband band).mpr hturn window hwindow

/-- Where the centre is within the turn, it is only rounding that can lead outside the index. -/
theorem withinTurn_iff {ra halfWidth : Float} (hra : 0 ≤ ra ∧ ra < 360) :
    WithinTurn ra halfWidth ↔
      (0 ≤ halfWidth ∧ halfWidth < 180 → ra - halfWidth < 0 → 360 + (ra - halfWidth) < 360) := by
  obtain ⟨_, p, hzero, hp, hnonneg⟩ := le_iff.mp hra.1
  rw [← Option.some.inj (value?_zero.symm.trans hzero)] at hnonneg
  have hlt : p < ((360 : ℝ) : EReal) := (lt_iff_of_value hp value?_turn).mp hra.2
  refine forall_congr' fun hnarrow => ?_
  obtain ⟨c, hhalf, hc⟩ := exists_value_of_narrow hnarrow
  obtain ⟨low, high, hlow, hhigh, hedges⟩ := edges hp hhalf hc
  refine ⟨fun h => h.2.2, fun h => ⟨?_, ?_, h⟩⟩
  · exact (le_iff_of_value value?_zero hhigh).mpr (hnonneg.trans hedges.le_high)
  · exact (lt_iff_of_value hlow value?_turn).mpr (hedges.low_le.trans_lt hlt)

-- A centre past the turn, and one whose window begins hardly before zero hours.
example : ¬ WithinTurn (400 : Float) 1 := by
  unfold WithinTurn Fits
  decide

example : ¬ WithinTurn (1 : Float) 1.0000000000000002 := by
  unfold WithinTurn Fits
  decide

/-- A well-formed catalog has complete indexes. -/
theorem WellFormed.completeIndexes {disk : Disk} {connection : Connection}
    (h : WellFormed disk connection) : CompleteIndexes disk connection := by
  intro band hband
  obtain ⟨index, data, hzone⟩ := h band hband
  exact ⟨.file index, hzone.index_there, hzone.index_size.ge⟩

/-- A point on the equator, at twelve hours. -/
def noon : Cone Float := ⟨Analytic.pi, 0, 0⟩

theorem value?_noon : value? (Angle.toDegrees noon.ra) = some ((180 : ℝ) : EReal) :=
  value?_of_unpack (m := 180 * 2 ^ 45) (e := -45) (by decide) rfl (by norm_num)

/-- However wide its window is. -/
theorem noon_withinTurn (halfWidth : Float) :
    WithinTurn (Angle.toDegrees noon.ra) halfWidth := by
  have hra : 0 ≤ Angle.toDegrees noon.ra ∧ Angle.toDegrees noon.ra < 360 := by
    rw [le_iff_of_value value?_zero value?_noon, lt_iff_of_value value?_noon value?_turn,
      EReal.coe_le_coe_iff, EReal.coe_lt_coe_iff]
    norm_num
  refine (withinTurn_iff hra).mpr fun hnarrow hneg => absurd hneg ?_
  obtain ⟨c, hhalf, hc⟩ := exists_value_of_narrow hnarrow
  obtain ⟨low, hlow, hrounds⟩ := value?_sub value?_noon hhalf
  rw [lt_iff_of_value hlow value?_zero, not_lt]
  exact hrounds.ge_of_ge number_zero (EReal.coe_le_coe_iff.mpr (by linarith [hc.2]))

/-- **No cone within the turn leads outside the index**, and every other does that has ranges.
Take any cone that is not refused.  All its ranges lie in one turn and begin in a bin of the index
if and only if the cone is within the turn, or has no ranges at all.  If it is, then in a
catalog with complete indexes every query of it has an answer, and none comes to the end of an
index, whatever else may go wrong with it. -/
theorem fetch_indexed {cone : Cone Float} {ranges : List (Range Float)}
    (hpartition : partition cone = .ok ranges) :
    ((∀ range ∈ ranges, Indexed range) ↔
        ranges = [] ∨ WithinTurn (Angle.toDegrees cone.ra) (halfWidth cone)) ∧
      (WithinTurn (Angle.toDegrees cone.ra) (halfWidth cone) →
        ∀ (catalog : ZoneCatalog) (disk : Disk) (grants : Grants) (limit : Float)
          (acc : Accumulator Float),
          (∀ connection ∈ catalog.connection, CompleteIndexes disk connection) →
          ∃ answer, catalog.fetch disk grants cone limit acc = some answer ∧
            ∀ file position, answer.1 ≠ .error (.scan (.unexpectedEnd file position))) := by
  have hiff := forall_indexed_iff hpartition
  refine ⟨hiff, fun hturn catalog disk grants limit acc hcomplete => ?_⟩
  have hbins : ∀ range ∈ ranges, indexBin range < binCount := fun range hrange =>
    (hiff.mpr (.inr hturn) range hrange).2
  exact exists_fetch_ne_unexpectedEnd hcomplete hpartition hbins grants limit acc

/-- Where the cosine of zero is one, the stars around midnight have four ranges. -/
theorem partition_midnight (hcos : Analytic.cos (0 : Float) = 1) :
    partition (around (0 : Float)) = .ok [⟨825, 0, 1, -1, 0⟩, ⟨825, 359, 360, -1, 0⟩,
      ⟨900, 0, 1, 0, 1⟩, ⟨900, 359, 360, 0, 1⟩] := by
  have hdec : Angle.ofDegrees (Angle.toDegrees (around (0 : Float)).dec) = 0 := by decide
  have hspans : spans (Angle.toDegrees (around (0 : Float)).ra)
      (Angle.toDegrees (around (0 : Float)).dec) (Angle.toDegrees (around (0 : Float)).radius) =
        [(0, 1), (359, 360)] := by
    rw [spans, hdec, hcos]
    decide +kernel
  rw [partition_of_spans (by decide) hspans]
  exact congrArg Except.ok (by decide +kernel)

/-- **Queries at twelve hours and around midnight.**  For the first, nothing need be known of the
cosine.  The window of the second crosses zero hours, and is cut there. -/
theorem fetch_indexed_sample :
    CompleteIndexes sampleDisk ⟨".", false⟩ ∧
      (∃ ranges, partition noon = .ok ranges ∧ (∀ range ∈ ranges, Indexed range) ∧
        ∃ answer, ZoneCatalog.fetch ⟨some ⟨".", false⟩⟩ sampleDisk .always noon 20 .empty =
            some answer ∧
          ∀ file position, answer.1 ≠ .error (.scan (.unexpectedEnd file position))) ∧
      (Analytic.cos (0 : Float) = 1 →
        ∃ ranges, partition (around (0 : Float)) = .ok ranges ∧
          ranges = [⟨825, 0, 1, -1, 0⟩, ⟨825, 359, 360, -1, 0⟩, ⟨900, 0, 1, 0, 1⟩,
            ⟨900, 359, 360, 0, 1⟩] ∧
          (∀ range ∈ ranges, Indexed range) ∧
          ∃ answer, ZoneCatalog.fetch ⟨some ⟨".", false⟩⟩ sampleDisk .always (around 0) (20 : Float)
              .empty = some answer ∧
            ∀ file position, answer.1 ≠ .error (.scan (.unexpectedEnd file position))) := by
  have hcomplete := (sampleDisk_wellFormed ⟨".", false⟩).completeIndexes
  have hconnected : ∀ connection ∈ some (⟨".", false⟩ : Connection),
      CompleteIndexes sampleDisk connection := by
    rintro connection ⟨⟩
    exact hcomplete
  refine ⟨hcomplete, ?_, fun hcos => ?_⟩
  · have hradius : noon.radius < Angle.ofDegrees radiusLimit := by decide
    have hturn := noon_withinTurn (halfWidth noon)
    obtain ⟨hindexed, hfetch⟩ := fetch_indexed (partition_of_spans hradius rfl)
    exact ⟨_, partition_of_spans hradius rfl, hindexed.mpr (.inr hturn),
      hfetch hturn ⟨some ⟨".", false⟩⟩ sampleDisk .always 20 .empty hconnected⟩
  · have hturn : WithinTurn (Angle.toDegrees (around (0 : Float)).ra)
        (halfWidth (around (0 : Float))) := by
      have hdec : Angle.ofDegrees (Angle.toDegrees (around (0 : Float)).dec) = 0 := by decide
      rw [halfWidth, hdec, hcos]
      unfold WithinTurn Fits
      decide +kernel
    obtain ⟨hindexed, hfetch⟩ := fetch_indexed (partition_midnight hcos)
    exact ⟨_, partition_midnight hcos, rfl, hindexed.mpr (.inr hturn),
      hfetch hturn ⟨some ⟨".", false⟩⟩ sampleDisk .always 20 .empty hconnected⟩

/-- **Past the turn a query comes to the end of the index**, complete as it is, where the cosine of
zero is one: of a point forty degrees past the turn each second range begins there. -/
theorem fetch_beyond_turn :
    CompleteIndexes sampleDisk ⟨".", false⟩ ∧
      (Analytic.cos (0 : Float) = 1 →
        ∃ ranges, partition (around (400 : Float)) = .ok ranges ∧
          ranges = [⟨825, 0, 41, -1, 0⟩, ⟨825, 399, 360, -1, 0⟩, ⟨900, 0, 41, 0, 1⟩,
            ⟨900, 399, 360, 0, 1⟩] ∧
          (∃ range ∈ ranges, ¬ Indexed range) ∧
          (ZoneCatalog.fetch ⟨some ⟨".", false⟩⟩ sampleDisk .always (around 400) (20 : Float)
              .empty).map (·.1) =
            some (.error (.scan (.unexpectedEnd "zone0825.acc" 3180)))) := by
  refine ⟨(sampleDisk_wellFormed ⟨".", false⟩).completeIndexes, fun hcos => ?_⟩
  have hdec : Angle.ofDegrees (Angle.toDegrees (around (400 : Float)).dec) = 0 := by decide
  have hspans : spans (Angle.toDegrees (around (400 : Float)).ra)
      (Angle.toDegrees (around (400 : Float)).dec) (Angle.toDegrees (around (400 : Float)).radius) =
        [(0, 41), (399, 360)] := by
    rw [spans, hdec, hcos]
    decide +kernel
  have hpartition : partition (around (400 : Float)) = .ok [⟨825, 0, 41, -1, 0⟩,
      ⟨825, 399, 360, -1, 0⟩, ⟨900, 0, 41, 0, 1⟩, ⟨900, 399, 360, 0, 1⟩] := by
    rw [partition_of_spans (by decide) hspans]
    exact congrArg Except.ok (by decide +kernel)
  have hpresent : Connection.ensurePresent ⟨".", false⟩ sampleDisk = .ok () := by
    simp only [Connection.ensurePresent, sampleDisk_root]
  -- The first window is scanned, the second is not even begun.
  have hfirst : indexBin (⟨825, 0, 41, -1, 0⟩ : Range Float) = 0 := by decide
  have hscan : (scanAsIndexed sampleDisk .always ⟨".", false⟩ ⟨825, 0, 41, -1, 0⟩ (20 : Float)
      .empty (.ok 1)).1 = .ok 0 := by
    decide +kernel
  have hsecond : startRecord sampleDisk ⟨".", false⟩ (⟨825, 399, 360, -1, 0⟩ : Range Float) =
      some (.error (.unexpectedEnd "zone0825.acc" 3180)) := by
    decide +kernel
  refine ⟨_, hpartition, rfl, ⟨⟨825, 399, 360, -1, 0⟩, by simp, ?_⟩, ?_⟩
  · rintro ⟨-, hbin⟩
    revert hbin
    decide
  · simp only [ZoneCatalog.fetch, hpresent, hpartition, ZoneCatalog.scanAll, swath,
      startRecord_sampleDisk _ hfirst (by decide), hsecond, Option.map_some, Option.bind_eq_bind,
      Option.bind_some]
    have hstart : sampleFigures[0].toNat - 48 = 1 := by decide
    rw [hstart]
    rcases hresult : scanAsIndexed sampleDisk .always ⟨".", false⟩ ⟨825, 0, 41, -1, 0⟩ (20 : Float)
      .empty (.ok 1) with ⟨outcome, filled⟩
    obtain rfl : outcome = .ok 0 := by rwa [hresult] at hscan
    rfl

end PlateSolver.Zone
