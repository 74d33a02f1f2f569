import PlateSolver.Proofs.Disk.Resolution
import PlateSolver.Proofs.Search.Course
import PlateSolver.Search.Team

/-!
# A catalog that was connected is still there

A catalog is connected by finding a file in its directory, and before every query the
directory itself is looked up.  These are two different paths, and they agree only as far as
the file system makes them: in a file system that does not change, a directory in which a
file was found can be looked up again.  So queries are never refused for want of the catalog,
and no search over it ends for that reason.

* `Search.run_ne_catalogUnavailable` — what keeps a search from ending for want of its primary
  catalog.
* `ensurePresent_of_connect` — the directory of a catalog that was connected.
* `connected_stays_present` — queries and searches over it.

There is one exception.  The empty path names the current directory when something is looked
for in it, and nothing at all when it is looked up alone, so a catalog there can be connected
and then never be asked (`ensurePresent_empty_root`).
-/

namespace PlateSolver

variable {σ α : Type}

/-! ## Searches -/

/-- **A catalog that is always there**: whatever it fails for, it is not that. -/
def Catalog.AlwaysThere (catalog : Catalog σ α) : Prop :=
  ∀ cone limit given w cause, ∀ answer ∈ (catalog.fetch cone limit given w).1,
    answer.1 ≠ .error (.connection cause)

section Search

variable [Analytic α] {s : Search σ α}

/-- No trial ends a search for want of a catalog that is always there. -/
theorem Search.Trial.cause_ne_catalogUnavailable {candidate : Candidate α}
    {stars : List (ImagePoint α)} {pass : Pass} {w w' : σ} {calls : List (Event α)}
    {cause : AbortCause α} (hthere : s.team.primary.AlwaysThere)
    (h : Search.Trial s candidate stars pass w calls (.error (.fatal cause)) w')
    (name : String) (error : CatalogError α) : cause ≠ .catalogUnavailable name error := by
  cases h with
  | secondaryOutOfMemory => exact fun heq => by cases heq
  | primaryOutOfMemory => exact fun heq => by cases heq
  | registrarFatal => exact fun heq => by cases heq
  | primaryUnavailable hfetched =>
      obtain ⟨-, hfetch⟩ := hfetched
      exact absurd rfl (hthere _ _ _ _ _ _ (congrArg Prod.fst hfetch))

/-- **A search does not end for want of a primary catalog that is always there.** -/
theorem Search.run_ne_catalogUnavailable (hthere : s.team.primary.AlwaysThere)
    (pointing : Pointing α) (stars : List (ImagePoint α)) (radius : α) (session : Session σ α)
    (name : String) (error : CatalogError α) (k : Nat) :
    (s.run pointing stars radius session).1 ≠
      some (.aborted (.catalogUnavailable name error) k) := by
  intro h
  obtain ⟨_, _, hcourse⟩ := exists_course h
  obtain ⟨_, _, _, _, _, _, -, hturn⟩ := hcourse.of_aborted (fun heq => by cases heq) rfl
  obtain ⟨-, htrial⟩ := hturn
  exact htrial.cause_ne_catalogUnavailable hthere name error rfl

end Search

/-! ## The directory of a catalog -/

namespace Zone

/-- The probe file is named by one part of a path. -/
theorem not_mem_probeName : '/' ∉ probeName.toList := by decide

/-- A connection is made by finding the probe file, and keeps what it was made with. -/
theorem connect_eq_ok_iff {disk : Disk} {root : String} {keepSecondary : Bool}
    {connection : Connection} :
    Connection.connect disk root keepSecondary = .ok connection ↔
      connection = ⟨root, keepSecondary⟩ ∧
        ∃ node, disk.lookup (Disk.join root probeName) = .ok node := by
  rw [Connection.connect]
  cases disk.lookup (Disk.join root probeName) with
  | error e => simp
  | ok node => simp [eq_comm]

/-- **The directory of a catalog that was connected can be looked up**, in the same file
system, unless it was given by the empty path. -/
theorem ensurePresent_of_connect {system : FileSystem} {root : String} {keepSecondary : Bool}
    {connection : Connection}
    (h : Connection.connect system.disk root keepSecondary = .ok connection) (hroot : root ≠ "") :
    connection.ensurePresent system.disk = .ok () := by
  obtain ⟨rfl, node, hprobe⟩ := connect_eq_ok_iff.mp h
  rw [Connection.ensurePresent, FileSystem.lookup_root hroot not_mem_probeName hprobe]

/-- The empty path cannot be looked up in any file system. -/
theorem ensurePresent_of_connect_empty {system : FileSystem} {keepSecondary : Bool}
    {connection : Connection}
    (h : Connection.connect system.disk "" keepSecondary = .ok connection) :
    connection.ensurePresent system.disk = .error (.notFound "" .notFound) := by
  obtain ⟨rfl, -⟩ := connect_eq_ok_iff.mp h
  rw [Connection.ensurePresent, FileSystem.lookup_empty]

section Queries

variable [Analytic α]

/-- Only the look for its directory makes a connected catalog fail for want of a catalog. -/
theorem fetch_ne_connection {connection : Connection} {disk : Disk}
    (hpresent : connection.ensurePresent disk = .ok ()) (grants : Grants) (cone : Cone α)
    (limit : α) (acc : Accumulator α) (cause : ConnectionError)
    {answer : Except (CatalogError α) Nat × Accumulator α}
    (h : answer ∈ ZoneCatalog.fetch ⟨some connection⟩ disk grants cone limit acc) :
    answer.1 ≠ .error (.connection cause) := by
  simp only [ZoneCatalog.fetch, hpresent] at h
  cases hpartition : partition cone with
  | error e =>
      rw [hpartition] at h
      obtain rfl := Option.mem_some.mp h
      simp
  | ok ranges =>
      rw [hpartition] at h
      obtain ⟨⟨outcome, filled⟩, -, rfl⟩ := Option.map_eq_some_iff.mp h
      cases outcome <;> simp [ZoneCatalog.conclude]

/-- **A catalog that was connected stays usable, if the file system does not change.**  Take
any file system and any path in it at which a catalog could be connected.

Its directory can be looked up exactly if the path is not the empty one.  Then no query of
the catalog fails because the catalog is not there, and no search with it as its primary
catalog is ended because it is not.  At the empty path every query fails for that reason. -/
theorem connected_stays_present (system : FileSystem) {root : String} {keepSecondary : Bool}
    {connection : Connection}
    (h : Connection.connect system.disk root keepSecondary = .ok connection) :
    (connection.ensurePresent system.disk = .ok () ↔ root ≠ "") ∧
    (root ≠ "" →
      (∀ (grants : Grants) (cone : Cone α) (limit : α) (acc : Accumulator α)
          (cause : ConnectionError),
        ∀ answer ∈ ZoneCatalog.fetch ⟨some connection⟩ system.disk grants cone limit acc,
          answer.1 ≠ .error (.connection cause)) ∧
      ∀ {σ : Type} (s : Search σ α) (grants : σ → Grants),
        s.team.primary = ZoneCatalog.collaborator ⟨some connection⟩ (fun _ => system.disk) grants →
        ∀ pointing stars radius session name error k,
          (s.run pointing stars radius session).1 ≠
            some (.aborted (.catalogUnavailable name error) k)) ∧
    (root = "" → ∀ (grants : Grants) (cone : Cone α) (limit : α) (acc : Accumulator α),
      ZoneCatalog.fetch ⟨some connection⟩ system.disk grants cone limit acc =
        some (.error (.connection (.notFound "" .notFound)), acc)) := by
  refine ⟨⟨?_, ensurePresent_of_connect h⟩, fun hroot => ⟨?_, ?_⟩, ?_⟩
  · rintro hpresent rfl
    rw [ensurePresent_of_connect_empty h] at hpresent
    cases hpresent
  · intro grants cone limit acc cause answer hanswer
    exact fetch_ne_connection (ensurePresent_of_connect h hroot) grants cone limit acc cause hanswer
  · intro σ s grants hprimary
    refine Search.run_ne_catalogUnavailable ?_
    rw [hprimary]
    exact fun cone limit given w cause answer hanswer =>
      fetch_ne_connection (ensurePresent_of_connect h hroot) (grants w) cone limit given cause
        hanswer
  · rintro rfl grants cone limit acc
    simp only [ZoneCatalog.fetch, ensurePresent_of_connect_empty h]

end Queries

section Sample

/-- A catalog in a directory below the current one, as far as it takes to connect it. -/
def sampleTree : Tree :=
  .directory [("cat", .directory [(probeName, .file .empty)])]

/-- The sample, connected by a relative path that ends in a separator. -/
theorem connected_stays_present_below :
    Connection.connect (FileSystem.ofTree sampleTree).disk "./cat/" true = .ok ⟨"./cat/", true⟩ ∧
      Connection.ensurePresent ⟨"./cat/", true⟩ (FileSystem.ofTree sampleTree).disk = .ok () ∧
      ∀ (grants : Grants) (cone : Cone Float) (limit : Float) (acc : Accumulator Float)
        (cause : ConnectionError),
        ∀ answer ∈ ZoneCatalog.fetch ⟨some ⟨"./cat/", true⟩⟩ (FileSystem.ofTree sampleTree).disk
          grants cone limit acc, answer.1 ≠ .error (.connection cause) := by
  have hconnect : Connection.connect (FileSystem.ofTree sampleTree).disk "./cat/" true =
      .ok ⟨"./cat/", true⟩ := by
    rw [FileSystem.disk_ofTree]
    rfl
  obtain ⟨hpresent, hfetch, -⟩ :=
    connected_stays_present (α := Float) (FileSystem.ofTree sampleTree) hconnect
  exact ⟨hconnect, hpresent.mpr (by decide), (hfetch (by decide)).1⟩

/-- Within its own directory, the sample can be connected by the empty path, and then it is
said not to be there. -/
theorem ensurePresent_empty_root :
    Connection.connect (Tree.directory [(probeName, .file .empty)]).disk "" true =
        .ok ⟨"", true⟩ ∧
      Connection.ensurePresent ⟨"", true⟩ (Tree.directory [(probeName, .file .empty)]).disk =
        .error (.notFound "" .notFound) :=
  ⟨rfl, rfl⟩

end Sample

end Zone

end PlateSolver
