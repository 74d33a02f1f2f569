import Mathlib
import PlateSolver.Proofs.Arithmetic.Operations
import PlateSolver.Proofs.Zone.FullScan
import PlateSolver.Proofs.Zone.Records

/-!
# Narrower queries

A query for brighter stars only, or one that leaves out the stars of the secondary catalog, reads
the same records as the wider query does: where a scan begins, where it stops and what may go
wrong on the way does not depend on which of the stars it is to keep.  So the narrower query fails
if the wider one does, in the same way, and otherwise finds the same stars less those that it is
not to keep.  Their names are new, being their positions.

* `stillWanted`, `picks_narrower` — what a narrower selection keeps of a wider one.
* `Beside` — two runs, one of which finds what is still wanted of what the other finds.
* `swath_beside`, `scanAll_beside` — scans side by side.
* `Narrows`, `fetch_narrows` — the two queries.
* `fetch_hadRoom` — only memory that is refused cuts a query short.
* `fetch_narrower` — for a lower limit, and without the secondary catalog.

The two runs are followed step by step, and their accumulators have different sizes from the
first star that only one of them keeps.  Memory may therefore run out in one of them and
not in the other, which is all that can set them apart: a range that begins too far east breaks
off both of them, if they come to it.
-/

namespace PlateSolver.Zone

open Scalar

variable {α : Type}

/-! ## Selections -/

/-- Whether a record also belongs to the secondary catalog: the highest bit of its third word. -/
def Packed.isSecondary (record : Packed) : Bool := record.light.toNat.testBit 31

theorem isSecondary_ofWord [Scalar α] (word : UInt32) :
    (Photometry.ofWord word : Photometry α).isSecondary = word.toNat.testBit 31 := by
  have hbit : word.toNat.testBit 31 = decide (Nat.pow 2 31 ≤ word.toNat) := by
    have hword : word.toNat < 2 ^ 32 := word.toNat_lt
    have hpow : Nat.pow 2 31 = 2 ^ 31 := rfl
    rw [Nat.testBit_eq_decide_div_mod_eq, decide_eq_decide, hpow]
    omega
  rw [hbit, Photometry.ofWord]
  split_ifs <;> rfl

/-- A photometry is accepted without the secondary catalog if it is accepted with it and does not
belong to it. -/
theorem accepted_eq_filter (light : Photometry α) {keep keep' : Bool} (hkeep : keep → keep') :
    light.accepted keep =
      (light.accepted keep').filter fun _ => keep || !light.isSecondary := by
  cases light with
  | unusable secondary => rfl
  | usable mag secondary =>
      cases keep with
      | true => rw [hkeep rfl]; cases secondary <;> rfl
      | false => cases keep' <;> cases secondary <;> rfl

section Selections

variable [Analytic α] {window : Range α} {keep keep' : Bool} {limit limit' : α}

/-- Whether a narrower query still wants what a wider one has found. -/
def stillWanted (keepSecondary : Bool) (limit : α) (pick : Packed × α) : Bool :=
  (keepSecondary || !pick.1.isSecondary) && pick.2 ≤ limit

theorem admit?_narrower (hkeep : keep → keep') (hlimit : ∀ mag : α, mag ≤ limit → mag ≤ limit')
    (window : Range α) (record : Packed) :
    admit? window keep limit (Star.decode record) =
      (admit? window keep' limit' (Star.decode record)).filter fun mag =>
        stillWanted keep limit (record, mag) := by
  have hsecondary : (Star.decode record : Star α).light.isSecondary = record.isSecondary :=
    isSecondary_ofWord record.light
  rw [admit?, admit?, accepted_eq_filter _ hkeep, hsecondary, Option.filter_filter,
    Option.filter_filter]
  refine congrArg (Option.filter · _) (funext fun mag => ?_)
  by_cases hmag : mag ≤ limit
  · simp [stillWanted, hmag, hlimit mag hmag, Bool.and_comm, Bool.and_assoc]
  · simp [stillWanted, hmag]

/-- **A narrower selection** is what is still wanted of a wider one. -/
theorem picks_narrower (hkeep : keep → keep') (hlimit : ∀ mag : α, mag ≤ limit → mag ≤ limit')
    (window : Range α) (records : List Packed) :
    picks window keep limit records =
      (picks window keep' limit' records).filter (stillWanted keep limit) := by
  rw [picks, picks, List.filter_filterMap]
  refine List.filterMap_congr fun record _ => ?_
  rw [admit?_narrower hkeep hlimit]
  cases admit? window keep' limit' (Star.decode record) with
  | none => rfl
  | some mag => by_cases h : stillWanted keep limit (record, mag) <;> simp [Option.filter, h]

end Selections

/-! ## Two runs -/

section Runs

variable [Analytic α] {ε β : Type}

/-- **Two runs side by side**, from accumulators of their own.  Either has run out of memory, or
both have broken off, or both have failed in the same way, or both have succeeded: then the first
has appended what it still wants of what the second has appended, which is all from a given
source. -/
inductive Beside (wants : Packed × α → Bool) (source : Packed × α → Prop) (full : ε)
    (before before' : Accumulator α) :
    Option (Except ε β × Accumulator α) → Option (Except ε β × Accumulator α) → Prop
  | full_first {filled : Accumulator α} (run' : Option (Except ε β × Accumulator α)) :
      Beside wants source full before before' (some (.error full, filled)) run'
  | full_second (run : Option (Except ε β × Accumulator α)) {filled' : Accumulator α} :
      Beside wants source full before before' run (some (.error full, filled'))
  | broken : Beside wants source full before before' none none
  | failed (e : ε) (filled filled' : Accumulator α) :
      Beside wants source full before before' (some (.error e, filled)) (some (.error e, filled'))
  | found {found : List (Packed × α)} {answer answer' : β} {filled filled' : Accumulator α}
      (hsource : ∀ pick ∈ found, source pick) (h : Appends (found.filter wants) before filled)
      (h' : Appends found before' filled') :
      Beside wants source full before before' (some (.ok answer, filled))
        (some (.ok answer', filled'))

/-- **A record of a zone catalog**: twelve bytes of one of its data files, at a place where a
record may begin. -/
def IsRecord (disk : Disk) (root : String) (record : Packed) : Prop :=
  ∃ zone node index, disk.lookup (Disk.join root (dataName zone)) = .ok node ∧
    recordSize * (index + 1) ≤ node.bytes.size ∧
    record = Packed.read node.bytes (recordSize * index)

/-- What a query may find: records with the magnitudes that their photometry shows. -/
def MayBeFound (disk : Disk) (root : String) (keepSecondary : Bool) (limit : α)
    (pick : Packed × α) : Prop :=
  IsRecord disk root pick.1 ∧
    (Star.decode pick.1 : Star α).light.accepted keepSecondary = some pick.2 ∧ pick.2 ≤ limit

theorem accepted_of_mem_picks {window : Range α} {keepSecondary : Bool} {limit : α}
    {records : List Packed} {pick : Packed × α}
    (h : pick ∈ picks window keepSecondary limit records) :
    (Star.decode pick.1 : Star α).light.accepted keepSecondary = some pick.2 ∧
      pick.2 ≤ limit := by
  obtain ⟨record, -, hpick⟩ := List.mem_filterMap.mp h
  obtain ⟨mag, hmag, rfl⟩ := Option.map_eq_some_iff.mp hpick
  obtain ⟨haccepted, hwanted⟩ := Option.filter_eq_some_iff.mp hmag
  simp only [Bool.and_eq_true, decide_eq_true_eq] at hwanted
  exact ⟨haccepted, hwanted.1.1.1⟩

theorem exists_read_of_mem {data : ByteArray} {index : ℕ} {record : Packed}
    (h : record ∈ recordsOf (data.data.toList.drop (recordSize * index))) :
    ∃ place, recordSize * (place + 1) ≤ data.size ∧
      record = Packed.read data (recordSize * place) := by
  -- By induction on the bytes left.
  induction hleft : data.size - recordSize * index using Nat.strong_induction_on
    generalizing index with
  | _ left ih =>
      by_cases hfits : recordSize * (index + 1) ≤ data.size
      · rw [recordsOf_drop data hfits] at h
        rcases List.mem_cons.mp h with rfl | hrest
        · exact ⟨index, hfits, rfl⟩
        · refine ih _ ?_ hrest rfl
          simp only [recordSize] at *
          omega
      · rw [recordsOf_drop_eq_nil data (Nat.not_le.mp hfits)] at h
        cases h

theorem MayBeFound.of_mem_picks {disk : Disk} {root : String} {zone index : ℕ} {node : Node}
    {window : Range α} {keepSecondary : Bool} {limit : α} {pick : Packed × α}
    (hnode : disk.lookup (Disk.join root (dataName zone)) = .ok node)
    (h : pick ∈ picks window keepSecondary limit
      (recordsOf (node.bytes.data.toList.drop (recordSize * index)))) :
    MayBeFound disk root keepSecondary limit pick := by
  obtain ⟨place, hplace⟩ := exists_read_of_mem (mem_records_of_mem_picks h)
  exact ⟨⟨zone, node, place, hnode, hplace⟩, accepted_of_mem_picks h⟩

variable {keep keep' : Bool} {limit limit' : α}

/-- Two scans from a record on. -/
theorem scanFrom_beside (hkeep : keep → keep') (hlimit : ∀ mag : α, mag ≤ limit → mag ≤ limit')
    (disk : Disk) (grants : Grants) (root : String) (range : Range α) (first : ℕ)
    (acc acc' : Accumulator α) :
    Beside (stillWanted keep limit) (MayBeFound disk root keep' limit') .outOfMemory acc acc'
      (some (scanFrom disk grants ⟨root, keep⟩ range limit first acc))
      (some (scanFrom disk grants ⟨root, keep'⟩ range limit' first acc')) := by
  cases hnode : disk.lookup (Disk.join root (dataName range.zone)) with
  | error e =>
      simp only [scanFrom, Connection.dataPath, hnode]
      exact .failed _ _ _
  | ok node =>
      by_cases hbig : Word.limit ≤ recordSize * (first - 1)
      · simp only [scanFrom, Connection.dataPath, hnode, if_pos hbig]
        exact .failed _ _ _
      cases hseek : node.seek (recordSize * (first - 1)) with
      | error e =>
          simp only [scanFrom, Connection.dataPath, hnode, if_neg hbig, hseek]
          exact .failed _ _ _
      | ok _ =>
          rw [scanFrom_of_seek hnode (Nat.not_le.mp hbig) hseek,
            scanFrom_of_seek hnode (Nat.not_le.mp hbig) hseek, starsAfter_eq, hits_eq_map_picks,
            hits_eq_map_picks, picks_narrower hkeep hlimit]
          have hsource : ∀ pick ∈ picks range.radians keep' limit'
              (recordsOf (node.bytes.data.toList.drop (recordSize * (first - 1)))),
              MayBeFound disk root keep' limit' pick := fun _ => .of_mem_picks hnode
          generalize picks range.radians keep' limit' _ = found at hsource ⊢
          -- Where the data end, and how, is the same for both.
          generalize sweepEnd range.radians _ _ _ = ending
          rcases hrun : acc.extend grants (entriesFrom acc.size
            ((found.filter (stillWanted keep limit)).map hitOf)) with ⟨room, filled⟩
          rcases hrun' : acc'.extend grants (entriesFrom acc'.size (found.map hitOf)) with
            ⟨room', filled'⟩
          cases room with
          | false => exact .full_first _
          | true =>
              cases room' with
              | false => exact .full_second _
              | true =>
                  cases ending with
                  | error e => exact .failed _ _ _
                  | ok _ =>
                      exact .found hsource (Accumulator.toList_of_extend hrun)
                        (Accumulator.toList_of_extend hrun')

/-- Two scans of a range. -/
theorem swath_beside (hkeep : keep → keep') (hlimit : ∀ mag : α, mag ≤ limit → mag ≤ limit')
    (disk : Disk) (grants : Grants) (root : String) (range : Range α) (acc acc' : Accumulator α) :
    Beside (stillWanted keep limit) (MayBeFound disk root keep' limit') .outOfMemory acc acc'
      (swath disk grants ⟨root, keep⟩ range limit acc)
      (swath disk grants ⟨root, keep'⟩ range limit' acc') := by
  have hstart : startRecord disk ⟨root, keep⟩ range = startRecord disk ⟨root, keep'⟩ range := rfl
  rw [swath, swath, hstart]
  rcases startRecord disk ⟨root, keep'⟩ range with _ | e | first
  · exact .broken
  · exact .failed _ _ _
  · have hscan := scanFrom_beside hkeep hlimit disk grants root range first acc acc'
    simp only [Option.map_some, scanAsIndexed]
    generalize scanFrom disk grants ⟨root, keep⟩ range limit first acc = run at hscan
    generalize scanFrom disk grants ⟨root, keep'⟩ range limit' first acc' = run' at hscan
    cases hscan with
    | full_first => exact .full_first _
    | full_second => exact .full_second _
    | failed e => exact .failed _ _ _
    | found hsource h h' => exact .found hsource h h'

/-- Two scans of several ranges. -/
theorem scanAll_beside (hkeep : keep → keep') (hlimit : ∀ mag : α, mag ≤ limit → mag ≤ limit')
    (disk : Disk) (grants : Grants) (root : String) (ranges : List (Range α))
    (acc acc' : Accumulator α) :
    Beside (stillWanted keep limit) (MayBeFound disk root keep' limit') .outOfMemory acc acc'
      (ZoneCatalog.scanAll disk grants ⟨root, keep⟩ limit ranges acc)
      (ZoneCatalog.scanAll disk grants ⟨root, keep'⟩ limit' ranges acc') := by
  induction ranges generalizing acc acc' with
  | nil =>
      have hnone : ∀ pick ∈ ([] : List (Packed × α)), MayBeFound disk root keep' limit' pick :=
        nofun
      exact .found hnone (by simp [Appends]) (by simp [Appends])
  | cons range rest ih =>
      have hswath := swath_beside hkeep hlimit disk grants root range acc acc'
      simp only [ZoneCatalog.scanAll, Option.bind_eq_bind]
      generalize swath disk grants ⟨root, keep⟩ range limit acc = run at hswath
      generalize swath disk grants ⟨root, keep'⟩ range limit' acc' = run' at hswath
      cases hswath with
      | full_first => exact .full_first _
      | full_second => exact .full_second _
      | broken => exact .broken
      | failed e => exact .failed _ _ _
      | @found first _ _ filled filled' hsource h h' =>
          have hrest := ih filled filled'
          simp only [Option.bind_some]
          generalize ZoneCatalog.scanAll disk grants ⟨root, keep⟩ limit rest filled = run at hrest
          generalize ZoneCatalog.scanAll disk grants ⟨root, keep'⟩ limit' rest filled' = run'
            at hrest
          cases hrest with
          | full_first => exact .full_first _
          | full_second => exact .full_second _
          | broken => exact .broken
          | failed e => exact .failed _ _ _
          | found hsource' hmore hmore' =>
              refine .found (List.forall_mem_append.mpr ⟨hsource, hsource'⟩) ?_ (h'.append hmore')
              rw [List.filter_append]
              exact h.append hmore

end Runs

/-! ## Queries -/

section Queries

variable [Analytic α]

/-- Whether a query was not cut short by memory. -/
def HadRoom {β : Type} (answer : Option (Except (CatalogError α) β × Accumulator α)) : Prop :=
  ∀ result ∈ answer, result.1 ≠ .error (.scan .outOfMemory)

/-- **A narrower query and a wider one**, from the same accumulator: both break off, or both fail,
in the same way, or both succeed, and the narrower one appends what it still wants of what the
other appends, in the same order. -/
inductive Narrows (wants : Packed × α → Bool) (source : Packed × α → Prop)
    (acc : Accumulator α) :
    Option (Except (CatalogError α) ℕ × Accumulator α) →
      Option (Except (CatalogError α) ℕ × Accumulator α) → Prop
  | broken : Narrows wants source acc none none
  | failed (e : CatalogError α) (same same' : Accumulator α) :
      Narrows wants source acc (some (.error e, same)) (some (.error e, same'))
  | found {found : List (Packed × α)} {filled filled' : Accumulator α}
      (hsource : ∀ pick ∈ found, source pick) (h : Appends (found.filter wants) acc filled)
      (h' : Appends found acc filled') :
      Narrows wants source acc (some (.ok (found.filter wants).length, filled))
        (some (.ok found.length, filled'))

/-- What is wanted matters only for what may be found. -/
theorem Narrows.congr {wants wants' : Packed × α → Bool} {source : Packed × α → Prop}
    {acc : Accumulator α} {narrow wide : Option (Except (CatalogError α) ℕ × Accumulator α)}
    (h : Narrows wants source acc narrow wide)
    (hwants : ∀ pick, source pick → wants pick = wants' pick) :
    Narrows wants' source acc narrow wide := by
  cases h with
  | broken => exact .broken
  | failed e same same' => exact .failed e same same'
  | found hsource hnarrow hwide =>
      rw [List.filter_congr fun pick hpick => hwants pick (hsource pick hpick)] at hnarrow ⊢
      exact .found hsource hnarrow hwide

theorem Narrows.imp_source {wants : Packed × α → Bool} {source source' : Packed × α → Prop}
    {acc : Accumulator α} {narrow wide : Option (Except (CatalogError α) ℕ × Accumulator α)}
    (h : Narrows wants source acc narrow wide) (hsource : ∀ pick, source pick → source' pick) :
    Narrows wants source' acc narrow wide := by
  cases h with
  | broken => exact .broken
  | failed e same same' => exact .failed e same same'
  | found hfound hnarrow hwide =>
      exact .found (fun pick hpick => hsource pick (hfound pick hpick)) hnarrow hwide

/-- A query of one connection, for less. -/
theorem fetch_narrows {keep keep' : Bool} {limit limit' : α} (hkeep : keep → keep')
    (hlimit : ∀ mag : α, mag ≤ limit → mag ≤ limit') (disk : Disk) (grants : Grants)
    (root : String) (cone : Cone α) (acc : Accumulator α)
    (hroom : HadRoom (ZoneCatalog.fetch ⟨some ⟨root, keep⟩⟩ disk grants cone limit acc))
    (hroom' : HadRoom (ZoneCatalog.fetch ⟨some ⟨root, keep'⟩⟩ disk grants cone limit' acc)) :
    Narrows (stillWanted keep limit) (MayBeFound disk root keep' limit') acc
      (ZoneCatalog.fetch ⟨some ⟨root, keep⟩⟩ disk grants cone limit acc)
      (ZoneCatalog.fetch ⟨some ⟨root, keep'⟩⟩ disk grants cone limit' acc) := by
  unfold ZoneCatalog.fetch at *
  dsimp only at *
  -- Whether the directory is there does not depend on what is to be kept.
  cases hthere : Connection.ensurePresent ⟨root, keep'⟩ disk with
  | error e =>
      have hthere' : Connection.ensurePresent ⟨root, keep⟩ disk = .error e := hthere
      rw [hthere']
      exact .failed _ _ _
  | ok there =>
      have hthere' : Connection.ensurePresent ⟨root, keep⟩ disk = .ok there := hthere
      rw [hthere'] at hroom ⊢
      rw [hthere] at hroom'
      cases hranges : partition cone with
      | error e => exact .failed _ _ _
      | ok ranges =>
          have hscan := scanAll_beside hkeep hlimit disk grants root ranges acc acc
          rw [hranges] at hroom hroom'
          dsimp only at *
          generalize ZoneCatalog.scanAll disk grants ⟨root, keep⟩ limit ranges acc = run at *
          generalize ZoneCatalog.scanAll disk grants ⟨root, keep'⟩ limit' ranges acc = run' at *
          cases hscan with
          | full_first => exact absurd rfl (hroom _ rfl)
          | full_second => exact absurd rfl (hroom' _ rfl)
          | broken => exact .broken
          | failed e => exact .failed _ _ _
          | @found found _ _ filled filled' hsource h h' =>
              have hsize : filled.size - acc.size =
                  (found.filter (stillWanted keep limit)).length := by
                rw [h.size_eq, Nat.add_sub_cancel_left]
              have hsize' : filled'.size - acc.size = found.length := by
                rw [h'.size_eq, Nat.add_sub_cancel_left]
              simp only [Option.map_some, ZoneCatalog.conclude, hsize, hsize']
              exact .found hsource h h'

/-! ## Memory -/

theorem recordNumber_hadRoom (file : String) (node : Node) (position : ℕ) :
    recordNumber file node position ≠ .error .outOfMemory := by
  unfold recordNumber
  dsimp only
  repeat' split
  all_goals simp

theorem scanFrom_hadRoom (disk : Disk) (connection : Connection) (range : Range α) (limit : α)
    (first : ℕ) (acc : Accumulator α) :
    (scanFrom disk .always connection range limit first acc).1 ≠ .error .outOfMemory := by
  unfold scanFrom
  dsimp only
  split
  · simp
  split_ifs
  · simp
  split
  · simp
  · rw [sweep_eq_extend]
    generalize entriesFrom acc.size _ = entries
    obtain ⟨filled, hextend, -⟩ := Accumulator.extend_always acc entries
    rw [hextend]
    dsimp only [sweepEnd, endOfData]
    split_ifs
    · simp
    · split <;> simp

theorem startRecord_hadRoom (disk : Disk) (connection : Connection) (range : Range α) :
    startRecord disk connection range ≠ some (.error .outOfMemory) := by
  rw [startRecord]
  cases disk.lookup (connection.indexPath range.zone) with
  | error e => simp
  | ok node => cases indexPosition? range <;> simp [recordNumber_hadRoom]

theorem swath_hadRoom {disk : Disk} {connection : Connection} {range : Range α} {limit : α}
    {acc filled : Accumulator α} :
    (.error .outOfMemory, filled) ∉ swath disk .always connection range limit acc := by
  intro h
  obtain ⟨hstart, -⟩ | ⟨first, -, hscan⟩ := startRecord_or_scanFrom_of_swath h
  · exact startRecord_hadRoom disk connection range hstart
  · exact scanFrom_hadRoom disk connection range limit first acc (congrArg Prod.fst hscan)

theorem scanAll_hadRoom {disk : Disk} {connection : Connection} {limit : α}
    {ranges : List (Range α)} {acc : Accumulator α}
    {answer : Except ScanError Unit × Accumulator α}
    (h : answer ∈ ZoneCatalog.scanAll disk .always connection limit ranges acc) :
    answer.1 ≠ .error .outOfMemory := by
  induction ranges generalizing acc with
  | nil =>
      obtain rfl := Option.mem_some.mp h
      simp
  | cons range rest ih =>
      obtain ⟨e, filled, hswath, rfl⟩ | ⟨n, filled, -, hrest⟩ := mem_scanAll_cons.mp h
      · intro houtcome
        obtain rfl := Except.error.inj houtcome
        exact swath_hadRoom hswath
      · exact ih hrest

/-- **With memory for everything**, no query is cut short by it. -/
theorem fetch_hadRoom (catalog : ZoneCatalog) (disk : Disk) (cone : Cone α) (limit : α)
    (acc : Accumulator α) : HadRoom (catalog.fetch disk .always cone limit acc) := by
  intro result hresult
  unfold ZoneCatalog.fetch at hresult
  split at hresult
  · obtain rfl := Option.mem_some.mp hresult
    simp
  split at hresult
  · obtain rfl := Option.mem_some.mp hresult
    simp
  split at hresult
  · obtain rfl := Option.mem_some.mp hresult
    simp
  obtain ⟨⟨outcome, filled⟩, hscan, rfl⟩ := Option.map_eq_some_iff.mp hresult
  have hroom := scanAll_hadRoom hscan
  cases outcome with
  | error e => simpa [ZoneCatalog.conclude] using hroom
  | ok _ => simp [ZoneCatalog.conclude]

end Queries

/-- What may be found belongs to the secondary catalog only if its records are kept. -/
theorem MayBeFound.of_isSecondary [Analytic α] {disk : Disk} {root : String}
    {keepSecondary : Bool} {limit : α} {pick : Packed × α}
    (h : MayBeFound disk root keepSecondary limit pick) (hsecondary : pick.1.isSecondary) :
    keepSecondary := by
  obtain ⟨-, haccepted, -⟩ := h
  have hbit : (Star.decode pick.1 : Star α).light.isSecondary = true :=
    (isSecondary_ofWord pick.1.light).trans hsecondary
  rw [accepted_eq_filter _ (fun _ => rfl : keepSecondary → true), hbit] at haccepted
  simpa using (Option.filter_eq_some_iff.mp haccepted).2

/-! ## Lower limits, and the secondary catalog -/

/-- **A narrower query finds less of the same.**  Take a query that was not cut short by memory,
and the same query with a lower limit, or without the secondary catalog.  They fail alike.  Where
they succeed, what the narrower one appends is, in the same order, what the other appends and is
not fainter than the lower limit, or comes from records that do not belong to the secondary
catalog. -/
theorem fetch_narrower (disk : Disk) (grants : Grants) (cone : Cone Float)
    (acc : Accumulator Float) :
    (∀ (catalog : ZoneCatalog) (limit limit' : Float), limit ≤ limit' →
      HadRoom (catalog.fetch disk grants cone limit acc) →
      HadRoom (catalog.fetch disk grants cone limit' acc) →
      Narrows (fun pick => pick.2 ≤ limit)
        (fun pick => ∃ connection ∈ catalog.connection,
          MayBeFound disk connection.root connection.keepSecondary limit' pick) acc
        (catalog.fetch disk grants cone limit acc) (catalog.fetch disk grants cone limit' acc)) ∧
    ∀ (root : String) (limit : Float),
      HadRoom (ZoneCatalog.fetch ⟨some ⟨root, false⟩⟩ disk grants cone limit acc) →
      HadRoom (ZoneCatalog.fetch ⟨some ⟨root, true⟩⟩ disk grants cone limit acc) →
      Narrows (fun pick => !pick.1.isSecondary) (MayBeFound disk root true limit) acc
        (ZoneCatalog.fetch ⟨some ⟨root, false⟩⟩ disk grants cone limit acc)
        (ZoneCatalog.fetch ⟨some ⟨root, true⟩⟩ disk grants cone limit acc) := by
  constructor
  · rintro ⟨_ | ⟨root, keep⟩⟩ limit limit' hle hroom hroom'
    · exact .failed _ _ _
    · have hnarrows := fetch_narrows (fun hkeep : keep => hkeep)
        (fun mag hmag => Double.le_of_le_of_le hmag hle) disk grants root cone acc hroom hroom'
      refine (hnarrows.congr fun pick hpick => ?_).imp_source fun pick hpick => ⟨_, rfl, hpick⟩
      cases hbit : pick.1.isSecondary with
      | false => simp [stillWanted, hbit]
      | true => simp [stillWanted, hpick.of_isSecondary hbit]
  · intro root limit hroom hroom'
    refine (fetch_narrows (fun _ => rfl) (fun mag hmag => hmag) disk grants root cone acc hroom
      hroom').congr fun pick hpick => ?_
    simp [stillWanted, hpick.2.2]

/-- The ranges of the three stars in the middle, where the cosine of zero is one. -/
theorem partition_middle (hcos : Analytic.cos (0 : Float) = 1) :
    partition (around (152 : Float)) = .ok [⟨825, 151, 153, -1, 0⟩, ⟨900, 151, 153, 0, 1⟩] := by
  have hdec : Angle.ofDegrees (Angle.toDegrees (around (152 : Float)).dec) = 0 := by decide
  have hspans : spans (Angle.toDegrees (around (152 : Float)).ra)
      (Angle.toDegrees (around (152 : Float)).dec)
      (Angle.toDegrees (around (152 : Float)).radius) = [(151, 153)] := by
    rw [spans, hdec, hcos]
    decide +kernel
  rw [partition_of_spans (by decide) hspans]
  exact congrArg Except.ok (by decide +kernel)

/-- **Queries of the sample**, with memory for everything.  Where the cosine of zero is one, there
are three stars around the point: two that are not too faint for the lower limit, and two
that do not belong to the secondary catalog. -/
theorem fetch_narrower_sample :
    let fetch (keepSecondary : Bool) (limit : Float) :=
      ZoneCatalog.fetch ⟨some ⟨".", keepSecondary⟩⟩ sampleDisk .always (around 152) limit .empty
    (12 : Float) ≤ 20 ∧ HadRoom (fetch true 12) ∧ HadRoom (fetch true 20) ∧
      HadRoom (fetch false 20) ∧
      Narrows (fun pick => pick.2 ≤ 12)
        (fun pick => ∃ connection ∈ some (⟨".", true⟩ : Connection),
          MayBeFound sampleDisk connection.root connection.keepSecondary 20 pick) .empty
        (fetch true 12) (fetch true 20) ∧
      Narrows (fun pick => !pick.1.isSecondary) (MayBeFound sampleDisk "." true 20) .empty
        (fetch false 20) (fetch true 20) ∧
      (Analytic.cos (0 : Float) = 1 →
        (fetch true 20).map (fun answer => answer.2.toList.map (·.mag)) = some [10, 15, 11] ∧
        (fetch true 12).map (fun answer => answer.2.toList.map (·.mag)) = some [10, 11] ∧
        (fetch false 20).map (fun answer => answer.2.toList.map (·.mag)) = some [10, 15]) := by
  intro fetch
  have hlimit : (12 : Float) ≤ 20 := by decide
  have hroom (keep : Bool) (limit : Float) : HadRoom (fetch keep limit) :=
    fetch_hadRoom ⟨some ⟨".", keep⟩⟩ sampleDisk (around 152) limit .empty
  obtain ⟨hlower, hwithout⟩ := fetch_narrower sampleDisk .always (around 152) .empty
  refine ⟨hlimit, hroom true 12, hroom true 20, hroom false 20,
    hlower ⟨some ⟨".", true⟩⟩ 12 20 hlimit (hroom true 12) (hroom true 20),
    hwithout "." 20 (hroom false 20) (hroom true 20), fun hcos => ?_⟩
  have hpresent (keep : Bool) : Connection.ensurePresent ⟨".", keep⟩ sampleDisk = .ok () := by
    simp only [Connection.ensurePresent, sampleDisk_root]
  have hsouth : indexBin (⟨825, 151, 153, -1, 0⟩ : Range Float) = 40 := by decide
  have hnorth : indexBin (⟨900, 151, 153, 0, 1⟩ : Range Float) = 40 := by decide
  simp only [fetch, ZoneCatalog.fetch, hpresent, partition_middle hcos, ZoneCatalog.scanAll,
    swath, startRecord_sampleDisk _ hsouth (by decide), startRecord_sampleDisk _ hnorth (by decide),
    Option.map_some, Option.bind_eq_bind, Option.bind_some]
  decide +kernel

end PlateSolver.Zone
