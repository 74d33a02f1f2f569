import PlateSolver.Proofs.Search.Trial
import PlateSolver.Proofs.Zone.Atomic
import PlateSolver.Search.Team

/-!
# What catalogs promise

A search works with any catalogs, and most of what it does is settled without knowing
anything about them.  What the merged entries of a candidate *are* is not: that they are
the secondary catalog's followed by the primary one's rests on what every catalog
promises, to append as many entries as it says and to leave everything as it was when it
fails.

* `Catalog.Lawful`, `Collaborators.Lawful` — the promise, and that both catalogs keep it.
* `Listed.collaborator_lawful`, `ZoneCatalog.collaborator_lawful` — the library's own do.
* `Search.secondaryEntries` — what the secondary catalog contributes to a candidate.
* `Fetched.exists_toList_eq` — the merged entries of lawful catalogs.
-/

namespace PlateSolver

variable {σ α : Type}

/-- **A lawful catalog**: whatever it is asked, it appends the entries it counts, or it
fails and appends nothing, unless it breaks off. -/
def Catalog.Lawful (catalog : Catalog σ α) : Prop :=
  ∀ cone limit given w, ∀ answer ∈ (catalog.fetch cone limit given w).1, Atomic given answer

theorem Catalog.Lawful.atomic {catalog : Catalog σ α} {cone : Cone α} {limit : α}
    {given : Accumulator α} {w w' : σ} {answer : Except (CatalogError α) Nat × Accumulator α}
    (h : catalog.Lawful) (hfetch : catalog.fetch cone limit given w = (some answer, w')) :
    Atomic given answer := by
  have hatomic := h cone limit given w
  rw [hfetch] at hatomic
  exact hatomic answer rfl

/-- Both catalogs are lawful. -/
def Collaborators.Lawful (team : Collaborators σ α) : Prop :=
  team.primary.Lawful ∧ ∀ catalog, team.secondary = some catalog → catalog.Lawful

section Library

variable [Analytic α]

theorem Listed.collaborator_lawful (catalog : Listed α) (grants : σ → Grants) :
    (catalog.collaborator grants).Lawful := by
  rintro cone limit given w answer ⟨⟩
  exact catalog.fetch_atomic (grants w) cone limit given

theorem ZoneCatalog.collaborator_lawful (catalog : ZoneCatalog) (disk : σ → Disk)
    (grants : σ → Grants) :
    (catalog.collaborator disk grants : Catalog σ α).Lawful := by
  intro cone limit given w answer hanswer
  exact ZoneCatalog.fetch_atomic hanswer

end Library

namespace Search

variable {s : Search σ α} {cone : Cone α} {w w' : σ} {calls : List (Event α)}

/-- The entries of the secondary catalog for a cone: those it has found, and none if it
is not asked or fails. -/
def secondaryEntries (s : Search σ α) (cone : Cone α) (w : σ) : List (Entry α) :=
  match s.wantSecondary, s.team.secondary with
  | true, some catalog =>
    match (catalog.fetch cone s.settings.secondaryLimit .empty w).1 with
    | some (.ok _, found) => found.toList
    | some (.error _, _) | none => []
  | _, _ => []

theorem Prepared.toList_eq {given : Accumulator α} (h : Prepared s cone w calls given w')
    (hlawful : s.team.Lawful) : given.toList = s.secondaryEntries cone w := by
  cases h with
  | unasked habsent =>
      obtain hunwanted | hnone := habsent
      · rw [secondaryEntries, hunwanted]
        rfl
      · rw [secondaryEntries, hnone]
        cases s.wantSecondary <;> rfl
  | @asked _ catalog answer _ hasks hfetch hmemory =>
      have hatomic := (hlawful.2 catalog hasks.2).atomic hfetch
      simp only [secondaryEntries, hasks.1, hasks.2, hfetch]
      cases answer with
      | ok n => rfl
      | error e =>
          have hentries : given.entries = #[] := hatomic
          rw [Accumulator.toList, hentries]

/-- **The merged entries of lawful catalogs** are the secondary catalog's and then the
primary one's, of which there are as many as it says. -/
theorem Fetched.exists_toList_eq {count : Nat} {merged : Accumulator α}
    (h : Fetched s cone w calls (.ok count) merged w') (hlawful : s.team.Lawful) :
    ∃ primary, merged.toList = s.secondaryEntries cone w ++ primary ∧ primary.length = count := by
  obtain ⟨hprepared, hfetch⟩ := h
  obtain ⟨primary, hmerged, hcount⟩ := hlawful.1.atomic hfetch
  exact ⟨primary, by rw [hmerged, hprepared.toList_eq hlawful], hcount⟩

end Search

end PlateSolver
