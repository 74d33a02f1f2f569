import PlateSolver.Proofs.Decimal.Digits
import PlateSolver.Proofs.Zone.Atomic

/-!
# Zone entries are named by their positions

An entry of a zone catalog has no name of its own.  A scan names it by its position in the
accumulator it is written to, while queries take entries back, other catalogs write in
between, and anyone may cut the accumulator.  None of this can leave a name at a wrong
position, because whatever is taken back is taken from the end: an entry that is still there
is where it was written.

* `positionName_eq`, `positionName_injective` — the name of a position.
* `Operation`, `Operation.perform` — what can happen to an accumulator.
* `Ledger`, `Ledger.run` — an accumulator, and for each of its entries who wrote it.
* `Ledger.Named` — entries of zones have the names of their positions.
* `Ledger.run_names` — they do, after any operations, and go on doing so.

## Design decisions

An accumulator does not remember who wrote an entry.  The ledger does, and knows of an
operation only what can be seen from outside: how long the accumulator is after it.  What was
cut is forgotten, and what is new was written by whoever the operation belongs to.  An
operation that breaks off leaves no accumulator behind that anyone could go on with, so a run ends
there, and has no result.
-/

namespace PlateSolver

open Zone

variable {α : Type}

/-! ## Names -/

namespace Zone

/-- A number in decimal figures, with zeros before them up to a width. -/
def figuresOf (width n : Nat) : String :=
  let figures := toString n
  String.ofList (List.replicate (width - figures.length) '0') ++ figures

/-- **The name of a position** is its number in at least six figures. -/
theorem positionName_eq (position : Nat) :
    positionName position = "SA1.0 " ++ figuresOf 6 position := by
  simp only [positionName, figuresOf, Nat.toString_eq_ofList_toDigits, String.length_ofList,
    ← String.ofList_append, Decimal.zeroFilled, Decimal.digits]

/-- Positions are told apart by their names. -/
theorem positionName_injective : Function.Injective positionName := by
  intro first second h
  unfold positionName at h
  have hlists := congrArg String.toList h
  simp only [String.toList_append, List.append_cancel_left_eq, String.toList_ofList] at hlists
  exact Decimal.zeroFilled_digits_injective 6 hlists

/-- Entries that are written from a position on have the names of the positions. -/
theorem map_name_entriesFrom (size : Nat) (found : List (Star α × α)) :
    (entriesFrom size found).map Entry.name =
      (List.range' size found.length).map positionName := by
  induction found generalizing size with
  | nil => rfl
  | cons hit rest ih =>
      rw [entriesFrom_cons, List.map_cons, ih, List.length_cons, List.range'_succ, List.map_cons]
      rfl

end Zone

/-! ## Operations -/

/-- Who wrote an entry. -/
inductive Author where
  /-- A scan of a zone. -/
  | zone
  /-- Anyone else. -/
  | other
  deriving DecidableEq

/-- **What can happen to an accumulator**, with the disk and the allocator as they are then. -/
inductive Operation (α : Type) where
  /-- A query to a zone catalog, which takes everything back when it fails. -/
  | fetch (catalog : ZoneCatalog) (disk : Disk) (grants : Grants) (cone : Cone α) (limit : α)
  /-- A scan of one range of a zone, which takes nothing back. -/
  | scan (disk : Disk) (grants : Grants) (connection : Connection) (range : Range α) (limit : α)
  /-- A query to a catalog in memory. -/
  | ask (catalog : Listed α) (grants : Grants) (cone : Cone α) (limit : α)
  /-- An entry from anywhere else. -/
  | append (grants : Grants) (entry : Entry α)
  /-- The first entries are kept. -/
  | truncate (size : Nat)

namespace Operation

/-- Who writes the entries that an operation appends. -/
def author : Operation α → Author
  | .fetch .. | .scan .. => .zone
  | _ => .other

variable [Analytic α]

/-- What an operation makes of an accumulator, whether or not it succeeds, unless it breaks off. -/
def perform : Operation α → Accumulator α → Option (Accumulator α)
  | .fetch catalog disk grants cone limit, acc =>
    (catalog.fetch disk grants cone limit acc).map (·.2)
  | .scan disk grants connection range limit, acc =>
    (swath disk grants connection range limit acc).map (·.2)
  | .ask catalog grants cone limit, acc => some (catalog.fetch grants cone limit acc).2
  | .append grants entry, acc => some (acc.append grants entry).2
  | .truncate size, acc => some (acc.truncate size)

/-- The ranges that an operation has to scan. -/
def ranges : Operation α → List (Range α)
  | .fetch _ _ _ cone _ =>
    match partition cone with
    | .ok ranges => ranges
    | .error _ => []
  | .scan _ _ _ range _ => [range]
  | _ => []

/-- An operation breaks off only at a range that begins too far east. -/
theorem exists_tooFarEast {operation : Operation α} {acc : Accumulator α}
    (h : operation.perform acc = none) : ∃ range ∈ operation.ranges, TooFarEast range := by
  cases operation with
  | fetch catalog disk grants cone limit =>
      obtain ⟨found, hpartition, range, hrange, hfar⟩ :=
        ZoneCatalog.exists_tooFarEast_of_fetch (Option.map_eq_none_iff.mp h)
      refine ⟨range, ?_, hfar⟩
      simpa only [ranges, hpartition] using hrange
  | scan disk grants connection range limit =>
      exact ⟨range, List.mem_singleton_self range,
        (swath_eq_none_iff.mp (Option.map_eq_none_iff.mp h)).2⟩
  | ask | append | truncate => cases h

/-- **An operation of a zone only appends**, and the entries it appends have the names of
their positions. -/
theorem perform_zone {operation : Operation α} {acc after : Accumulator α}
    (h : after ∈ operation.perform acc) (hzone : operation.author = .zone) :
    ∃ added, after.toList = acc.toList ++ added ∧
      added.map Entry.name = (List.range' acc.size added.length).map positionName := by
  cases operation with
  | fetch catalog disk grants cone limit =>
      obtain ⟨answer, hfetch, rfl⟩ := Option.map_eq_some_iff.mp h
      obtain ⟨e, -, hsame⟩ | ⟨found, -, hfound⟩ := ZoneCatalog.fetch_cases hfetch
      · refine ⟨[], ?_, rfl⟩
        rw [List.append_nil]
        exact congrArg Array.toList hsame
      · refine ⟨_, hfound, ?_⟩
        rw [map_name_entriesFrom, length_entriesFrom]
  | scan disk grants connection range limit =>
      obtain ⟨answer, hswath, rfl⟩ := Option.map_eq_some_iff.mp h
      obtain ⟨found, hfound, -⟩ := exists_swath_toList hswath
      refine ⟨_, hfound, ?_⟩
      rw [map_name_entriesFrom, length_entriesFrom]
  | ask | append | truncate => cases hzone

/-- **What an operation does to the entries**: it appends some, or it cuts them. -/
theorem perform_cases {operation : Operation α} {acc after : Accumulator α}
    (h : after ∈ operation.perform acc) :
    (∃ added, after.toList = acc.toList ++ added) ∨
      ∃ kept, after.toList = acc.toList.take kept := by
  cases operation with
  | fetch | scan =>
      obtain ⟨added, hadded, -⟩ := perform_zone h rfl
      exact Or.inl ⟨added, hadded⟩
  | ask catalog grants cone limit =>
      obtain rfl := Option.mem_some.mp h
      have hatomic := catalog.fetch_atomic grants cone limit acc
      rcases hfetch : catalog.fetch grants cone limit acc with ⟨outcome, after⟩
      rw [hfetch] at hatomic
      cases outcome with
      | error e =>
          refine Or.inl ⟨[], ?_⟩
          rw [List.append_nil]
          exact congrArg Array.toList hatomic
      | ok count =>
          obtain ⟨added, hadded, -⟩ := hatomic
          exact Or.inl ⟨added, hadded⟩
  | append grants entry =>
      obtain rfl := Option.mem_some.mp h
      rcases acc.append_cases grants entry with ⟨more, happend, hmore⟩ | ⟨happend, -⟩
      · exact Or.inl ⟨[entry], by rw [happend]; exact hmore⟩
      · exact Or.inl ⟨[], by rw [happend, List.append_nil]⟩
  | truncate size =>
      obtain rfl := Option.mem_some.mp h
      exact Or.inr ⟨size, by simp [Accumulator.truncate, Accumulator.toList]⟩

end Operation

/-! ## Ledgers -/

/-- **Ledger.** An accumulator, and the authors of its entries. -/
structure Ledger (α : Type) where
  /-- The accumulator. -/
  acc : Accumulator α
  /-- Who wrote its entries, in their order. -/
  authors : List Author

namespace Ledger

/-- Nothing written. -/
def empty : Ledger α := ⟨.empty, []⟩

/-- **The names are in order**: every entry has an author, and one that a zone scan wrote has
the name of its position. -/
structure Named (ledger : Ledger α) : Prop where
  /-- Every entry has an author. -/
  length_authors : ledger.authors.length = ledger.acc.size
  /-- What a zone scan wrote is named by its position. -/
  name_eq : ∀ {i : Nat} {entry : Entry α}, ledger.authors[i]? = some .zone →
    ledger.acc.toList[i]? = some entry → entry.name = positionName i

theorem named_empty : (empty : Ledger α).Named where
  length_authors := rfl
  name_eq h := by simp [empty] at h

variable [Analytic α]

/-- The ledger after an operation that has left an accumulator.  Authors of what was cut are
crossed out, and what is new was written by the author of the operation. -/
def record (ledger : Ledger α) (author : Author) (acc : Accumulator α) : Ledger α :=
  ⟨acc, ledger.authors.take acc.size ++
    List.replicate (acc.size - ledger.authors.length) author⟩

/-- An operation entered in a ledger, unless it breaks off. -/
def enter (ledger : Ledger α) (operation : Operation α) : Option (Ledger α) :=
  (operation.perform ledger.acc).map (ledger.record operation.author)

/-- The ledger after some operations on an empty accumulator. -/
def run (operations : List (Operation α)) : Option (Ledger α) := operations.foldlM enter empty

/-- **No operation brings the names out of order.** -/
theorem Named.enter {ledger next : Ledger α} (h : ledger.Named) {operation : Operation α}
    (hnext : next ∈ ledger.enter operation) : next.Named := by
  obtain ⟨acc, hperform, rfl⟩ := Option.map_eq_some_iff.mp hnext
  have hsize := h.length_authors
  rcases Operation.perform_cases hperform with ⟨added, hadded⟩ | ⟨kept, hkept⟩
  · have hmore : acc.size = ledger.authors.length + added.length := by
      rw [← Accumulator.length_toList, hadded, List.length_append, Accumulator.length_toList, hsize]
    have hauthors : (ledger.record operation.author acc).authors =
        ledger.authors ++ List.replicate added.length operation.author := by
      simp [record, hmore]
    refine ⟨by rw [hauthors]; simp [record, hmore], fun {i entry} hauthor hentry => ?_⟩
    rw [hauthors] at hauthor
    rw [record, hadded] at hentry
    -- Old entries are where they were, with the same authors; new ones are behind them all.
    by_cases hold : i < ledger.authors.length
    · rw [List.getElem?_append_left hold] at hauthor
      rw [List.getElem?_append_left (by rw [Accumulator.length_toList]; omega)] at hentry
      exact h.name_eq hauthor hentry
    · rw [List.getElem?_append_right (Nat.le_of_not_lt hold)] at hauthor
      rw [List.getElem?_append_right (by rw [Accumulator.length_toList]; omega),
        Accumulator.length_toList] at hentry
      have hzone : operation.author = .zone :=
        (List.mem_replicate.mp (List.mem_of_getElem? hauthor)).2.symm
      obtain ⟨scanned, hscanned, hnames⟩ := Operation.perform_zone hperform hzone
      obtain rfl : scanned = added := List.append_cancel_left (hscanned.symm.trans hadded)
      have hname := congrArg (fun names : List String => names[i - ledger.acc.size]?) hnames
      obtain ⟨hlt, -⟩ := List.getElem?_eq_some_iff.mp hentry
      simp only [List.getElem?_map, hentry, List.getElem?_range' hlt, Option.map_some,
        Option.some.injEq] at hname
      rw [hname]
      congr 1
      omega
  · have hless : acc.size ≤ ledger.authors.length := by
      rw [← Accumulator.length_toList, hkept, List.length_take, Accumulator.length_toList]
      omega
    have hauthors : (ledger.record operation.author acc).authors =
        ledger.authors.take acc.size := by
      simp [record, Nat.sub_eq_zero_of_le hless]
    refine ⟨by rw [hauthors]; simp [record, hless], fun {i entry} hauthor hentry => ?_⟩
    rw [hauthors] at hauthor
    rw [record, hkept] at hentry
    rw [List.getElem?_take, Option.ite_none_right_eq_some] at hauthor hentry
    exact h.name_eq hauthor.2 hentry.2

/-- A run from any ledger whose names are in order leaves them so. -/
theorem Named.foldlM {operations : List (Operation α)} {ledger last : Ledger α}
    (h : ledger.Named) (hrun : last ∈ operations.foldlM Ledger.enter ledger) : last.Named := by
  induction operations generalizing ledger with
  | nil =>
      obtain rfl := Option.mem_some.mp hrun
      exact h
  | cons operation rest ih =>
      obtain ⟨next, hnext, hrest⟩ := Option.bind_eq_some_iff.mp hrun
      exact ih (h.enter hnext) hrest

/-- A run breaks off only at a range that begins too far east. -/
theorem exists_tooFarEast_of_foldlM {operations : List (Operation α)} {ledger : Ledger α}
    (hrun : operations.foldlM enter ledger = none) :
    ∃ operation ∈ operations, ∃ range ∈ operation.ranges, TooFarEast range := by
  induction operations generalizing ledger with
  | nil => cases hrun
  | cons operation rest ih =>
      rw [List.foldlM_cons] at hrun
      cases hnext : ledger.enter operation with
      | none =>
          exact ⟨operation, List.mem_cons_self,
            Operation.exists_tooFarEast (Option.map_eq_none_iff.mp hnext)⟩
      | some next =>
          rw [hnext] at hrun
          obtain ⟨later, hlater, hfar⟩ := ih hrun
          exact ⟨later, List.mem_cons_of_mem operation hlater, hfar⟩

/-- **Zone entries are named by their positions.**  Whatever has happened to an accumulator,
what a zone scan wrote at a position and is still there has the number of the position for
its name, in at least six figures, and no other entry of a zone has that name.  A query that
fails gives its numbers back: the next scan goes on where the failed one began.  A run breaks off
only where a range begins too far east. -/
theorem run_names (operations : List (Operation α)) :
    (run operations = none →
      ∃ operation ∈ operations, ∃ range ∈ operation.ranges, TooFarEast range) ∧
    ∀ ledger ∈ run operations,
      ledger.authors.length = ledger.acc.size ∧
      (∀ (i : Nat) (entry : Entry α), ledger.authors[i]? = some .zone →
        ledger.acc.toList[i]? = some entry → entry.name = "SA1.0 " ++ figuresOf 6 i) ∧
      (∀ (i j : Nat) (first second : Entry α),
        ledger.authors[i]? = some .zone → ledger.acc.toList[i]? = some first →
        ledger.authors[j]? = some .zone → ledger.acc.toList[j]? = some second →
        first.name = second.name → i = j) ∧
      ∀ (catalog : ZoneCatalog) (disk : Disk) (grants : Grants) (cone : Cone α) (limit : α)
        (e : CatalogError α) (after : Accumulator α),
        catalog.fetch disk grants cone limit ledger.acc = some (.error e, after) →
          after.toList = ledger.acc.toList ∧
            ∀ next : Operation α, next.author = .zone → ∀ later ∈ next.perform after,
              ∃ added, later.toList = ledger.acc.toList ++ added ∧
                added.map Entry.name = (List.range' ledger.acc.size added.length).map
                  (fun i => "SA1.0 " ++ figuresOf 6 i) := by
  refine ⟨exists_tooFarEast_of_foldlM, fun ledger hrun => ?_⟩
  have hnamed := named_empty.foldlM hrun
  refine ⟨hnamed.length_authors, fun i entry hauthor hentry => ?_,
    fun i j first second hfirst hi hsecond hj hsame => ?_,
    fun catalog disk grants cone limit e after hfetch => ?_⟩
  · rw [hnamed.name_eq hauthor hentry, positionName_eq]
  · rw [hnamed.name_eq hfirst hi, hnamed.name_eq hsecond hj] at hsame
    exact positionName_injective hsame
  · have hsame : after.entries = ledger.acc.entries := ZoneCatalog.fetch_atomic hfetch
    have hlist := congrArg Array.toList hsame
    refine ⟨hlist, fun next hzone later hlater => ?_⟩
    obtain ⟨added, hadded, hnames⟩ := Operation.perform_zone hlater hzone
    refine ⟨added, by rw [hadded]; exact congrArg (· ++ added) hlist, ?_⟩
    rw [hnames, Accumulator.size, hsame, ← funext positionName_eq]
    rfl

/-- Numbers of more than six figures are written in full. -/
example : figuresOf 6 42 = "000042" ∧ figuresOf 6 1000000 = "1000000" := by decide +kernel

end Ledger

end PlateSolver
