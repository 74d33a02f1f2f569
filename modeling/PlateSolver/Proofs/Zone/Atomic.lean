import Mathlib
import PlateSolver.Catalog.Listed
import PlateSolver.Proofs.Zone.Sweep

/-!
# A failed call changes nothing

A scan may fail after it has appended half of what it found, and a query consists
of up to four scans; yet whoever asks a catalog never sees half an answer.  This
module says so for whole runs: for any sequence of connections and queries, each
with a disk and an allocator of its own, in which anything may go wrong anywhere.

* `Atomic` — an answer that comes with all of its entries or with none.
* `ZoneCatalog.fetch_cases`, `Listed.fetch_cases` — how a query can end.
* `ZoneCatalog.fetch_atomic`, `Listed.fetch_atomic` — the queries of both catalogs.
* `Call`, `Desk`, `Call.perform`, `perform` — one call, and several.
* `Call.Allows` — what one call may do.
* `lastConnection` — the connection that the last successful call has made.
* `perform_atomic` — the law of whole runs.

What went wrong does not matter to the law.  The scans are only known to append
(`exists_scanAll_toList`), and that is enough: a query knows how many entries there
were before it, and cutting back to that many restores them.
-/

namespace PlateSolver

open Zone

variable {α : Type}

/-- **All or nothing.**  A failure leaves the entries as they were, a success appends
to them as many as it says. -/
def Atomic {ε : Type} (before : Accumulator α) (answer : Except ε Nat × Accumulator α) : Prop :=
  match answer with
  | (.error _, after) => after.entries = before.entries
  | (.ok n, after) => ∃ added, after.toList = before.toList ++ added ∧ added.length = n

section Queries

variable [Analytic α]

/-- **How a query of the zone catalog can end.**  It fails and leaves the entries as they
were, or it appends what its scans have found and counts it. -/
theorem ZoneCatalog.fetch_cases {catalog : ZoneCatalog} {disk : Disk} {grants : Grants}
    {cone : Cone α} {limit : α} {acc : Accumulator α}
    {answer : Except (CatalogError α) Nat × Accumulator α}
    (h : answer ∈ catalog.fetch disk grants cone limit acc) :
    (∃ e, answer.1 = .error e ∧ answer.2.entries = acc.entries) ∨
      ∃ found, answer.1 = .ok found.length ∧
        answer.2.toList = acc.toList ++ entriesFrom acc.size found := by
  unfold ZoneCatalog.fetch at h
  split at h
  · obtain rfl := Option.mem_some.mp h
    exact Or.inl ⟨_, rfl, rfl⟩
  split at h
  · obtain rfl := Option.mem_some.mp h
    exact Or.inl ⟨_, rfl, rfl⟩
  split at h
  · obtain rfl := Option.mem_some.mp h
    exact Or.inl ⟨_, rfl, rfl⟩
  obtain ⟨⟨outcome, filled⟩, hscan, rfl⟩ := Option.map_eq_some_iff.mp h
  obtain ⟨found, hfound⟩ := exists_scanAll_toList hscan
  cases outcome with
  | error e => exact Or.inl ⟨_, rfl, Accumulator.truncate_of_toList hfound⟩
  | ok _ =>
      have hcount := Accumulator.size_of_toList hfound
      rw [length_entriesFrom] at hcount
      exact Or.inr ⟨found, congrArg Except.ok hcount, hfound⟩

/-- A query of the zone catalog breaks off only for a range that begins too far east. -/
theorem ZoneCatalog.exists_tooFarEast_of_fetch {catalog : ZoneCatalog} {disk : Disk}
    {grants : Grants} {cone : Cone α} {limit : α} {acc : Accumulator α}
    (h : catalog.fetch disk grants cone limit acc = none) :
    ∃ ranges, partition cone = .ok ranges ∧ ∃ range ∈ ranges, TooFarEast range := by
  unfold ZoneCatalog.fetch at h
  split at h
  · cases h
  split at h
  · cases h
  split at h
  · cases h
  · next ranges hranges =>
      exact ⟨ranges, hranges, exists_tooFarEast_of_scanAll (Option.map_eq_none_iff.mp h)⟩

/-- Every query of the zone catalog is all or nothing, connected or not, whatever the
disk and the allocator have to say to it. -/
theorem ZoneCatalog.fetch_atomic {catalog : ZoneCatalog} {disk : Disk} {grants : Grants}
    {cone : Cone α} {limit : α} {acc : Accumulator α}
    {answer : Except (CatalogError α) Nat × Accumulator α}
    (h : answer ∈ catalog.fetch disk grants cone limit acc) : Atomic acc answer := by
  obtain ⟨outcome, after⟩ := answer
  obtain ⟨e, rfl, hsame⟩ | ⟨found, rfl, hfound⟩ := fetch_cases h
  · exact hsame
  · exact ⟨_, hfound, length_entriesFrom acc.size found⟩

/-- **How a query of a catalog in memory can end.**  It appends the entries that pass its test and
counts them, or the allocator refuses room for them and it appends none. -/
theorem Listed.fetch_cases (catalog : Listed α) (grants : Grants) (cone : Cone α) (limit : α)
    (acc : Accumulator α) :
    (∃ filled, catalog.fetch grants cone limit acc =
          (.ok (catalog.entries.filter (contains cone limit)).length, filled) ∧
        filled.toList = acc.toList ++ catalog.entries.filter (contains cone limit)) ∨
      (∃ same, catalog.fetch grants cone limit acc = (.error (.scan .outOfMemory), same) ∧
          same.entries = acc.entries) ∧
        ∃ size, grants size = false := by
  unfold Listed.fetch
  rcases Accumulator.extend_cases grants acc (catalog.entries.filter (contains cone limit)) with
    ⟨filled, hextend, hfilled⟩ | ⟨filled, added, hextend, -, hfilled, hgrant⟩
  · left
    rw [hextend, ← Accumulator.size_of_toList hfilled]
    exact ⟨filled, rfl, hfilled⟩
  · right
    rw [hextend]
    exact ⟨⟨_, rfl, Accumulator.truncate_of_toList hfilled⟩, _, hgrant⟩

/-- So is every query of a catalog in memory. -/
theorem Listed.fetch_atomic (catalog : Listed α) (grants : Grants) (cone : Cone α) (limit : α)
    (acc : Accumulator α) : Atomic acc (catalog.fetch grants cone limit acc) := by
  rcases catalog.fetch_cases grants cone limit acc with
    ⟨filled, hfetch, hfilled⟩ | ⟨⟨same, hfetch, hsame⟩, -⟩
  · rw [hfetch]
    exact ⟨_, hfilled, rfl⟩
  · rw [hfetch]
    exact hsame

end Queries

/-- **One call** on a zone catalog, with the disk and the allocator as they are then. -/
inductive Call (α : Type) where
  /-- Connect to a directory. -/
  | connect (disk : Disk) (root : String) (keepSecondary : Bool)
  /-- Ask for the stars of a cone. -/
  | fetch (disk : Disk) (grants : Grants) (cone : Cone α) (limit : α)

/-- A catalog, and the accumulator that its queries write into. -/
structure Desk (α : Type) where
  /-- The catalog. -/
  catalog : ZoneCatalog
  /-- What the queries have found. -/
  found : Accumulator α

/-- What a call comes to: the count of a query, and nothing for a connection. -/
inductive Answer (α : Type) where
  /-- Of a connection. -/
  | connected (result : Except ConnectionError Unit)
  /-- Of a query. -/
  | fetched (result : Except (CatalogError α) Nat)

/-- The connection that a call makes if it succeeds; whether it does depends on the
probe file alone. -/
def Call.connection? : Call α → Option Connection
  | .connect disk root keepSecondary =>
    match disk.lookup (Disk.join root probeName) with
    | .ok _ => some ⟨root, keepSecondary⟩
    | .error _ => none
  | .fetch .. => none

/-- The connection that the last successful one of some calls has made. -/
def lastConnection (calls : List (Call α)) : Option Connection :=
  (calls.filterMap Call.connection?).getLast?

/-- How many entries an answer reports. -/
def Answer.count : Answer α → Nat
  | .fetched (.ok n) => n
  | _ => 0

section Runs

variable [Analytic α]

/-- What a call does, unless it breaks off. -/
def Call.perform (desk : Desk α) : Call α → Option (Answer α × Desk α)
  | .connect disk root keepSecondary =>
    let (result, catalog) := desk.catalog.reconnect disk root keepSecondary
    some (.connected result, { desk with catalog })
  | .fetch disk grants cone limit =>
    (desk.catalog.fetch disk grants cone limit desk.found).map fun (result, found) =>
      (.fetched result, { desk with found })

/-- Calls one after the other, with their answers in order. -/
def perform (desk : Desk α) : List (Call α) → Option (List (Answer α) × Desk α)
  | [] => some ([], desk)
  | call :: rest => do
    let (answer, next) ← call.perform desk
    let (answers, last) ← perform next rest
    return (answer :: answers, last)

/-- **What one call may do to a desk.**  A connection that fails does nothing, and one that
succeeds changes the connection alone; a query changes the entries alone, and all or
nothing. -/
def Call.Allows (call : Call α) (desk : Desk α) : Answer α × Desk α → Prop
  | (.connected (.error _), next) => call.connection? = none ∧ next = desk
  | (.connected (.ok _), next) =>
    (∃ connection, call.connection? = some connection ∧
      next.catalog.connection = some connection) ∧ next.found = desk.found
  | (.fetched result, next) =>
    call.connection? = none ∧ next.catalog = desk.catalog ∧
      Atomic desk.found (result, next.found)

theorem Call.allows_of_perform {call : Call α} {desk : Desk α} {result : Answer α × Desk α}
    (h : result ∈ call.perform desk) : call.Allows desk result := by
  cases call with
  | connect disk root keepSecondary =>
      obtain rfl := Option.mem_some.mp h
      cases hprobe : disk.lookup (Disk.join root probeName) with
      | error e =>
          simp [Allows, connection?, ZoneCatalog.connect, Connection.connect, hprobe, Except.map]
      | ok node =>
          simp [Allows, connection?, ZoneCatalog.connect, Connection.connect, hprobe, Except.map]
  | fetch disk grants cone limit =>
      obtain ⟨answer, hfetch, rfl⟩ := Option.map_eq_some_iff.mp h
      exact ⟨rfl, rfl, ZoneCatalog.fetch_atomic hfetch⟩

/-- **When a call breaks off**: it is a query, of which a range begins too far east. -/
theorem Call.exists_tooFarEast {call : Call α} {desk : Desk α} (h : call.perform desk = none) :
    ∃ disk grants cone limit ranges, call = .fetch disk grants cone limit ∧
      partition cone = .ok ranges ∧ ∃ range ∈ ranges, TooFarEast range := by
  cases call with
  | connect => cases h
  | fetch disk grants cone limit =>
      obtain ⟨ranges, hranges, hfar⟩ :=
        ZoneCatalog.exists_tooFarEast_of_fetch (Option.map_eq_none_iff.mp h)
      exact ⟨disk, grants, cone, limit, ranges, rfl, hranges, hfar⟩

/-- After a call, the connection is the one it made, or else the one there was. -/
theorem Call.perform_connection {call : Call α} {desk : Desk α} {answer : Answer α}
    {next : Desk α} (h : (answer, next) ∈ call.perform desk) :
    next.catalog.connection = call.connection?.or desk.catalog.connection := by
  have hspec := allows_of_perform h
  match answer, hspec with
  | .connected (.error _), ⟨hnone, hnext⟩ => rw [hnone, hnext, Option.none_or]
  | .connected (.ok _), ⟨⟨connection, hsome, hnext⟩, _⟩ => rw [hsome, hnext, Option.some_or]
  | .fetched result, ⟨hnone, hnext, _⟩ => rw [hnone, hnext, Option.none_or]

/-- A call appends as many entries as it reports. -/
theorem Call.exists_perform_toList {call : Call α} {desk : Desk α} {answer : Answer α}
    {next : Desk α} (h : (answer, next) ∈ call.perform desk) :
    ∃ added, next.found.toList = desk.found.toList ++ added ∧ added.length = answer.count := by
  have hspec := allows_of_perform h
  match answer, hspec with
  | .connected (.error _), ⟨_, hnext⟩ => exact ⟨[], by simp [hnext], rfl⟩
  | .connected (.ok _), ⟨_, hnext⟩ => exact ⟨[], by simp [hnext], rfl⟩
  | .fetched (.error _), ⟨_, _, hsame⟩ =>
      have hentries : next.found.toList = desk.found.toList := congrArg Array.toList hsame
      exact ⟨[], by simp [hentries], rfl⟩
  | .fetched (.ok n), ⟨_, _, added, hadded, hcount⟩ => exact ⟨added, hadded, hcount⟩

omit [Analytic α] in
theorem lastConnection_cons (call : Call α) (rest : List (Call α)) :
    lastConnection (call :: rest) = (lastConnection rest).or call.connection? := by
  cases hcall : call.connection? with
  | none => simp [lastConnection, hcall]
  | some connection =>
      rw [lastConnection, List.filterMap_cons_some hcall, List.getLast?_cons, lastConnection]
      cases (rest.filterMap Call.connection?).getLast? <;> rfl

/-- A run of several calls is the first one and then a run of the others. -/
theorem mem_perform_cons {call : Call α} {rest : List (Call α)} {desk last : Desk α}
    {answers : List (Answer α)} :
    (answers, last) ∈ perform desk (call :: rest) ↔
      ∃ answer next later, (answer, next) ∈ call.perform desk ∧
        (later, last) ∈ perform next rest ∧ answers = answer :: later := by
  simp only [perform, Option.mem_def, Option.bind_eq_bind, Option.bind_eq_some_iff, Prod.exists,
    Option.pure_def, Option.some.injEq, Prod.mk.injEq]
  constructor
  · rintro ⟨answer, next, hcall, later, _, hrest, rfl, rfl⟩
    exact ⟨answer, next, later, hcall, hrest, rfl⟩
  · rintro ⟨answer, next, later, hcall, hrest, rfl⟩
    exact ⟨answer, next, hcall, later, last, hrest, rfl, rfl⟩

/-- **After a run, the catalog is connected as its last successful call left it.** -/
theorem perform_connection {desk last : Desk α} {calls : List (Call α)}
    {answers : List (Answer α)} (h : (answers, last) ∈ perform desk calls) :
    last.catalog.connection = (lastConnection calls).or desk.catalog.connection := by
  induction calls generalizing desk answers with
  | nil =>
      obtain ⟨-, rfl⟩ := Prod.mk.inj (Option.mem_some.mp h)
      rfl
  | cons call rest ih =>
      obtain ⟨answer, next, later, hcall, hrest, -⟩ := mem_perform_cons.mp h
      rw [lastConnection_cons, Option.or_assoc, ← Call.perform_connection hcall]
      exact ih hrest

/-- **A run appends as many entries as its answers report.** -/
theorem exists_perform_toList {desk last : Desk α} {calls : List (Call α)}
    {answers : List (Answer α)} (h : (answers, last) ∈ perform desk calls) :
    ∃ added, last.found.toList = desk.found.toList ++ added ∧
      added.length = (answers.map Answer.count).sum := by
  induction calls generalizing desk answers with
  | nil =>
      obtain ⟨rfl, rfl⟩ := Prod.mk.inj (Option.mem_some.mp h)
      exact ⟨[], by simp, rfl⟩
  | cons call rest ih =>
      obtain ⟨answer, next, later, hcall, hrest, rfl⟩ := mem_perform_cons.mp h
      obtain ⟨first, hfirst, hcount⟩ := Call.exists_perform_toList hcall
      obtain ⟨more, hmore, hsum⟩ := ih hrest
      refine ⟨first ++ more, ?_, ?_⟩
      · rw [hmore, hfirst, List.append_assoc]
      · rw [List.length_append, hcount, hsum]
        rfl

/-- **A failed call changes nothing, at any point of any run.**  However the calls before
it went, the catalog is connected as the last successful connection left it, and the
accumulator holds what it held before, followed by as many entries as the answers
report.  In that state a connection that fails leaves everything as it is; a query
that fails leaves the entries of whatever accumulator it is given as they are; and one
that succeeds appends exactly as many as it reports.  A catalog in memory obeys the
same law.  A call that has no answer at all is a query of a cone that begins too far east. -/
theorem perform_atomic (start : Desk α) (calls : List (Call α)) :
    (∀ answers desk, (answers, desk) ∈ perform start calls →
      desk.catalog.connection = (lastConnection calls).or start.catalog.connection ∧
      (∃ added, desk.found.toList = start.found.toList ++ added ∧
        added.length = (answers.map Answer.count).sum) ∧
      ∀ (call : Call α) (found : Accumulator α), ∀ result ∈ call.perform ⟨desk.catalog, found⟩,
        call.Allows ⟨desk.catalog, found⟩ result) ∧
    (∀ (call : Call α) (desk : Desk α), call.perform desk = none →
      ∃ disk grants cone limit ranges, call = .fetch disk grants cone limit ∧
        partition cone = .ok ranges ∧ ∃ range ∈ ranges, TooFarEast range) ∧
    ∀ (catalog : Listed α) (grants : Grants) (cone : Cone α) (limit : α) (found : Accumulator α),
      Atomic found (catalog.fetch grants cone limit found) :=
  ⟨fun _ _ hrun => ⟨perform_connection hrun, exists_perform_toList hrun,
      fun _ _ _ hcall => Call.allows_of_perform hcall⟩,
    fun _ _ hbroken => Call.exists_tooFarEast hbroken,
    fun catalog grants cone limit found => catalog.fetch_atomic grants cone limit found⟩

end Runs

end PlateSolver
