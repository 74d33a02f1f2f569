import PlateSolver.Proofs.Catalog.Entries
import PlateSolver.Proofs.Search.Alongside
import PlateSolver.Proofs.Search.Lawful
import PlateSolver.Proofs.Search.Widening

/-!
# A failing secondary catalog does not interfere

The secondary catalog writes into the accumulator that the primary one goes on to fill, and
its failures are of the same type as those of the primary one, some of which end the search.
Yet short of memory it cannot do harm.  Wherever it fails, in the hunt or in nailing, the
search goes on as if it had answered that there is nothing; and if it never does anything
but fail, the search is the one that does without it.

* `Catalog.Keeps` — a failure leaves the accumulator as it was.
* `Catalog.Respects` — accumulators that are alike get the same answer, or none.
* `Collaborators.Overlooks` — the team to compare with, whose secondary catalog finds nothing at
  some of the places where the other one fails.
* `Event.secondaryFails`, `Catalog.HidesFailures`, `Collaborators.SeesOnly` — a secondary catalog
  that only fails, and a team that does not notice whether it was asked.
* `alongside_overlooking`, `breaksAlongside_overlooking`, `alongside_unasked` — both comparisons
  go side by side.
* `run_secondary_failures` — the runs are alike.

The team to compare with has a world of its own, in which that of the search is only a part.
So it can find nothing at one candidate and fail at another, whatever the two have in common.

A catalog that breaks off does not fail: nothing is made up for, and the search ends there.  So
a search that does without the secondary catalog is compared only with one that comes to an
outcome.

What it means to leave an accumulator as it was is up to whoever gets it next.  For a primary
catalog of which nothing is known it means to leave it unchanged (`Catalog.respects_eq`), in
its room too.  One that only looks at entries can do with the same entries, which is what
every lawful catalog leaves (`Catalog.Lawful.keeps`); with memory at hand the library's own
are of that kind.  So the likeness is a parameter.
-/

namespace PlateSolver

variable {σ τ α β : Type}

/-! ## Collaborators -/

/-- **A question sees only part of the world** if its answer, and what becomes of that part,
depend on nothing else. -/
def SeesOnly (view : σ → τ) (question : StateM σ β) : Prop :=
  ∀ {answer : β} {w w' v : σ}, view w = view v → question w = (answer, w') →
    ∃ v', question v = (answer, v') ∧ view w' = view v'

/-- **A question in a richer world** that is the same question to that part of it which counts. -/
def Tracks (project : τ → σ) (other : StateM τ β) (question : StateM σ β) : Prop :=
  ∀ v, Prod.map id project (other v) = question (project v)

theorem exists_of_map_eq {project : τ → σ} {result : β × τ} {answer : β} {w' : σ}
    (h : Prod.map id project result = (answer, w')) :
    ∃ v', result = (answer, v') ∧ w' = project v' := by
  obtain ⟨answer', v'⟩ := result
  cases h
  exact ⟨v', rfl, rfl⟩

theorem Tracks.exists_eq {project : τ → σ} {other : StateM τ β} {question : StateM σ β}
    {answer : β} {v : τ} {w' : σ} (h : Tracks project other question)
    (hanswer : question (project v) = (answer, w')) :
    ∃ v', other v = (answer, v') ∧ w' = project v' :=
  exists_of_map_eq ((h v).trans hanswer)

/-- Whether an event may be among those of a search whose secondary catalog only fails, and
never for a lack of memory. -/
def Event.secondaryFails : Event α → Bool
  | .fetched .secondary _ _ _ (.ok _) => false
  | .fetched .secondary _ _ _ (.error error) => !error.isOutOfMemory
  | _ => true

namespace Catalog

/-- **A failure leaves the accumulator as it was**, up to a likeness of accumulators. -/
def Keeps (catalog : Catalog σ α) (alike : Accumulator α → Accumulator α → Prop) : Prop :=
  ∀ {cone limit given error found w w'},
    catalog.fetch cone limit given w = (some (.error error, found), w') → alike found given

/-- **A catalog respects a likeness** if accumulators that are alike get the same answer, and
the same entries in the end, or break it off alike. -/
structure Respects (catalog : Catalog σ α) (alike : Accumulator α → Accumulator α → Prop) :
    Prop where
  /-- Every accumulator is like itself. -/
  refl : ∀ acc, alike acc acc
  /-- Those that are alike get the same answer. -/
  fetch : ∀ {cone limit given other answer merged w w'}, alike given other →
    catalog.fetch cone limit given w = (some (answer, merged), w') →
      ∃ merged', catalog.fetch cone limit other w = (some (answer, merged'), w') ∧
        merged'.toList = merged.toList
  /-- Or none. -/
  breaks : ∀ {cone limit given other w w'}, alike given other →
    catalog.fetch cone limit given w = (none, w') → catalog.fetch cone limit other w = (none, w')

/-- **A catalog that overlooks failures** of another.  It answers as the other does, or says
that there is nothing where the other fails for any reason but a lack of memory. -/
def Overlooks (project : τ → σ) (mended : Catalog τ α) (catalog : Catalog σ α) : Prop :=
  ∀ cone limit given v,
    Prod.map id project (mended.fetch cone limit given v) =
        catalog.fetch cone limit given (project v) ∨
      ∃ error found v', error ≠ .scan .outOfMemory ∧
        catalog.fetch cone limit given (project v) =
          (some (.error error, found), project v') ∧
        mended.fetch cone limit given v = (some (.ok 0, given), v')

/-- **A catalog that hides its failures**: they change nothing in sight. -/
def HidesFailures (catalog : Catalog σ α) (view : σ → τ) : Prop :=
  ∀ {cone limit given error found w w'},
    catalog.fetch cone limit given w = (some (.error error, found), w') → view w' = view w

/-- Every catalog gives the same answer to the same accumulator. -/
theorem respects_eq (catalog : Catalog σ α) : catalog.Respects (· = ·) where
  refl _ := rfl
  fetch := by
    rintro cone limit given _ answer merged w w' rfl hfetch
    exact ⟨merged, hfetch, rfl⟩
  breaks := by
    rintro cone limit given _ w w' rfl hfetch
    exact hfetch

/-- A lawful catalog that fails leaves the entries, whatever room it made. -/
theorem Lawful.keeps {catalog : Catalog σ α} (h : catalog.Lawful) :
    catalog.Keeps Accumulator.SameEntries := by
  intro cone limit given error found w w' hfetch
  exact h.atomic hfetch

/-- A catalog that leaves the world alone and only looks at entries can do with the same
entries. -/
theorem respects_sameEntries {catalog : Catalog σ α}
    {query : σ → Cone α → α → Accumulator α →
      Option (Except (CatalogError α) Nat × Accumulator α)}
    (hfetch : ∀ cone limit given w,
      catalog.fetch cone limit given w = (query w cone limit given, w))
    (honly : ∀ w cone limit, OnlyEntries (query w cone limit)) :
    catalog.Respects Accumulator.SameEntries where
  refl _ := rfl
  fetch := by
    intro cone limit given other answer merged w w' halike hanswer
    have hrel := honly w cone limit halike
    rw [hfetch] at hanswer ⊢
    obtain ⟨hquery, rfl⟩ := Prod.mk.inj hanswer
    rw [hquery] at hrel
    cases hother : query w cone limit other with
    | none => rw [hother] at hrel; cases hrel
    | some result =>
        rw [hother] at hrel
        obtain ⟨rfl, hfilled⟩ := Option.rel_some_some.mp hrel
        exact ⟨result.2, rfl, hfilled.toList_eq.symm⟩
  breaks := by
    intro cone limit given other w w' halike hanswer
    have hrel := honly w cone limit halike
    rw [hfetch] at hanswer ⊢
    obtain ⟨hquery, rfl⟩ := Prod.mk.inj hanswer
    rw [hquery] at hrel
    cases hother : query w cone limit other with
    | none => rfl
    | some result => rw [hother] at hrel; cases hrel

end Catalog

/-- **Token, primary catalog and registrar see only part of the world.** -/
structure Collaborators.SeesOnly (team : Collaborators σ α) (view : σ → τ) : Prop where
  /-- The token does. -/
  cancelled : PlateSolver.SeesOnly view team.cancelled
  /-- The primary catalog does. -/
  primary : ∀ cone limit given, PlateSolver.SeesOnly view (team.primary.fetch cone limit given)
  /-- The registrar does. -/
  register : ∀ request, PlateSolver.SeesOnly view (team.register request)

/-- Every team sees no more than the whole world. -/
theorem Collaborators.seesOnly_id (team : Collaborators σ α) : team.SeesOnly (id : σ → σ) where
  cancelled := by
    rintro stop w w' _ rfl hpoll
    exact ⟨w', hpoll, rfl⟩
  primary := by
    rintro cone limit given answer w w' _ rfl hfetch
    exact ⟨w', hfetch, rfl⟩
  register := by
    rintro request answer w w' _ rfl hregister
    exact ⟨w', hregister, rfl⟩

/-- **A team that overlooks failures** of the secondary catalog of another team, and is no
different otherwise. -/
structure Collaborators.Overlooks (project : τ → σ) (mended : Collaborators τ α)
    (team : Collaborators σ α) : Prop where
  /-- The primary catalog has the same name. -/
  name : mended.primary.name = team.primary.name
  /-- The token is the same. -/
  cancelled : Tracks project mended.cancelled team.cancelled
  /-- The primary catalog is the same. -/
  primary : ∀ cone limit given, Tracks project (mended.primary.fetch cone limit given)
    (team.primary.fetch cone limit given)
  /-- The registrar is the same. -/
  register : ∀ request, Tracks project (mended.register request) (team.register request)
  /-- The secondary catalog overlooks failures. -/
  secondary : ∀ {catalog}, team.secondary = some catalog →
    ∃ better, mended.secondary = some better ∧ better.Overlooks project catalog

section Library

variable [Analytic α]

theorem ZoneCatalog.collaborator_respects (catalog : ZoneCatalog) (disk : σ → Disk) :
    (catalog.collaborator disk fun _ => .always : Catalog σ α).Respects Accumulator.SameEntries :=
  Catalog.respects_sameEntries (fun _ _ _ _ => rfl) fun w cone limit =>
    catalog.fetch_onlyEntries (disk w) cone limit

theorem Listed.collaborator_respects (catalog : Listed α) :
    (catalog.collaborator fun _ => .always : Catalog σ α).Respects Accumulator.SameEntries := by
  have honly (_ : σ) (cone : Cone α) (limit : α) :
      OnlyEntries fun given => some (catalog.fetch .always cone limit given) :=
    fun halike => .some (catalog.fetch_alike cone limit halike)
  exact Catalog.respects_sameEntries (fun _ _ _ _ => rfl) honly

end Library

/-! ## Searches -/

namespace Search

variable {s : Search σ α} {catalog : Catalog σ α}
  {alike : Accumulator α → Accumulator α → Prop}

/-- A secondary catalog is asked if it is wanted, and it is the only one there is. -/
theorem Asks.eq_of_secondary {asked : Catalog σ α} (h : s.Asks asked)
    (hsecondary : s.team.secondary = some catalog) : asked = catalog :=
  Option.some.inj (h.2.symm.trans hsecondary)

/-- A search goes side by side with the one whose secondary catalog finds nothing at some places
where its own fails. -/
theorem alongside_overlooking {project : τ → σ} {mended : Collaborators τ α}
    (hsecondary : s.team.secondary = some catalog) (hrespects : s.team.primary.Respects alike)
    (hkeeps : catalog.Keeps alike) (hmended : mended.Overlooks project s.team) :
    Alongside alike (fun w v => w = project v) (fun _ => True) s
      (s.withTeam mended s.wantSecondary) where
  same := ⟨_, _, rfl, hmended.name⟩
  cancelled := by
    rintro stop _ w' v rfl hpoll
    exact hmended.cancelled.exists_eq hpoll
  primary := by
    rintro cone limit given other answer merged _ w' v halike rfl hfetch
    obtain ⟨merged', hfetch', hentries⟩ := hrespects.fetch halike hfetch
    obtain ⟨v', hother, hrelated⟩ := (hmended.primary cone limit other).exists_eq hfetch'
    exact ⟨merged', v', hother, hentries, hrelated⟩
  register := by
    rintro request answer _ w' v rfl hregister
    exact (hmended.register request).exists_eq hregister
  prepared := by
    rintro cone calls given _ w' v rfl - hprepared
    obtain ⟨better, hpresent', hbetter⟩ := hmended.secondary hsecondary
    cases hprepared with
    | unasked habsent =>
        obtain hunwanted | hnone := habsent
        · exact ⟨[], .empty, v, .unasked (.inl hunwanted), hrespects.refl _, rfl⟩
        · cases hsecondary.symm.trans hnone
    | @asked _ asked answer _ hasks hfetch hmemory =>
        obtain rfl := hasks.eq_of_secondary hsecondary
        have hasks' : (s.withTeam mended s.wantSecondary).Asks better := ⟨hasks.1, hpresent'⟩
        rcases hbetter cone s.settings.secondaryLimit .empty v with
          hsame | ⟨error, found, v', -, hfailed, hnothing⟩
        · obtain ⟨v', hfetch', hrelated⟩ := exists_of_map_eq (hsame.trans hfetch)
          exact ⟨_, given, v', .asked hasks' hfetch' hmemory, hrespects.refl _, hrelated⟩
        · cases hfailed.symm.trans hfetch
          refine ⟨_, .empty, v', .asked hasks' hnothing ?_, hkeeps hfailed, rfl⟩
          intro hmemory
          cases hmemory
  outOfMemory := by
    rintro cone asked found _ w' v rfl - hasks hfetch
    obtain ⟨better, hpresent', hbetter⟩ := hmended.secondary hsecondary
    obtain rfl := hasks.eq_of_secondary hsecondary
    rcases hbetter cone s.settings.secondaryLimit .empty v with
      hsame | ⟨error, _, v', hmemory, hfailed, -⟩
    · obtain ⟨v', hfetch', hrelated⟩ := exists_of_map_eq (hsame.trans hfetch)
      exact ⟨better, found, v', ⟨hasks.1, hpresent'⟩, hfetch', hrelated⟩
    · cases hfailed.symm.trans hfetch
      exact absurd rfl hmemory

/-- And it breaks off at the same time, since breaking off is no failure to overlook. -/
theorem breaksAlongside_overlooking {project : τ → σ} {mended : Collaborators τ α}
    (hsecondary : s.team.secondary = some catalog) (hrespects : s.team.primary.Respects alike)
    (hmended : mended.Overlooks project s.team) :
    BreaksAlongside alike (fun w v => w = project v) s (s.withTeam mended s.wantSecondary) where
  primary := by
    rintro cone limit given other _ w' v halike rfl hfetch
    obtain ⟨v', hother, -⟩ :=
      (hmended.primary cone limit other).exists_eq (hrespects.breaks halike hfetch)
    exact ⟨v', hother⟩
  secondary := by
    rintro cone asked _ w' v rfl hasks hfetch
    obtain ⟨better, hpresent', hbetter⟩ := hmended.secondary hsecondary
    obtain rfl := hasks.eq_of_secondary hsecondary
    rcases hbetter cone s.settings.secondaryLimit .empty v with hsame | ⟨_, _, _, -, hfailed, -⟩
    · obtain ⟨v', hfetch', -⟩ := exists_of_map_eq (hsame.trans hfetch)
      exact ⟨better, v', ⟨hasks.1, hpresent'⟩, hfetch'⟩
    · cases hfailed.symm.trans hfetch

/-- A search whose secondary catalog only fails, if it is asked at all, goes side by side with one
that does not ask. -/
theorem alongside_unasked {view : σ → τ} {allowed : Event α → Prop}
    {secondary : Option (Catalog σ α)} {want : Bool} (hrespects : s.team.primary.Respects alike)
    (hsees : s.team.SeesOnly view)
    (hfails : ∀ catalog, s.Asks catalog → catalog.Keeps alike ∧
      catalog.HidesFailures view ∧ ∀ event, allowed event → event.secondaryFails = true)
    (habsent : want = false ∨ secondary = none) :
    Alongside alike (fun w v => view w = view v) allowed s
      (s.withTeam { s.team with secondary } want) where
  same := ⟨_, _, rfl, rfl⟩
  cancelled hrelated hpoll := hsees.cancelled hrelated hpoll
  primary := by
    intro cone limit given other answer merged w w' v halike hrelated hfetch
    obtain ⟨v', hfetch', hrelated'⟩ := hsees.primary cone limit given hrelated hfetch
    obtain ⟨merged', hfetch'', hentries⟩ := hrespects.fetch halike hfetch'
    exact ⟨merged', v', hfetch'', hentries, hrelated'⟩
  register hrelated hregister := hsees.register _ hrelated hregister
  prepared := by
    intro cone calls given w w' v hrelated hallowed hprepared
    refine ⟨[], .empty, v, .unasked habsent, ?_⟩
    cases hprepared with
    | unasked => exact ⟨hrespects.refl _, hrelated⟩
    | @asked _ catalog answer _ hasks hfetch hmemory =>
        obtain ⟨hkeeps, hhides, hfailing⟩ := hfails catalog hasks
        cases answer with
        | ok count => cases hfailing _ (hallowed _ (List.mem_singleton_self _))
        | error error => exact ⟨hkeeps hfetch, (hhides hfetch).trans hrelated⟩
  outOfMemory := by
    intro cone catalog found w w' v hrelated hallowed hasks hfetch
    obtain ⟨-, -, hfailing⟩ := hfails catalog hasks
    cases hfailing _ hallowed

section Run

variable [Analytic α]

/-- **A failing secondary catalog does not interfere.**  Let its failures leave the accumulator
as it was, as far as the primary catalog can tell.

Take any team whose secondary catalog finds nothing at some or all of the places where the other
one fails, in the hunt or in nailing, but for a lack of memory.  Its search comes to the same
outcome, by the same polls, the same questions to the primary catalog with accumulators that are
alike, and the same requests.

If the secondary catalog only fails in the course of a search that comes to an outcome, and
nobody else notices that it was asked, the same is true of the search that does not want it and
of the search that has none; and these two are the same call by call. -/
theorem run_secondary_failures (s : Search σ α) {catalog : Catalog σ α}
    {alike : Accumulator α → Accumulator α → Prop} (hsecondary : s.team.secondary = some catalog)
    (hrespects : s.team.primary.Respects alike) (hkeeps : catalog.Keeps alike)
    (pointing : Pointing α) (stars : List (ImagePoint α)) (radius : α) (session : Session σ α) :
    (∀ (τ : Type) (project : τ → σ) (mended : Collaborators τ α) (other : Session τ α),
      mended.Overlooks project s.team → session.world = project other.world →
        RunsAlike alike session other (s.run pointing stars radius session)
          ((s.withTeam mended s.wantSecondary).run pointing stars radius other)) ∧
    ∀ (τ : Type) (view : σ → τ), s.team.SeesOnly view → catalog.HidesFailures view →
      (∀ calls, (s.run pointing stars radius session).2.calls = session.calls ++ calls →
        calls.all Event.secondaryFails = true) →
      (s.run pointing stars radius session).1 ≠ none →
      RunsAlike alike session session (s.run pointing stars radius session)
          ((s.withTeam s.team false).run pointing stars radius session) ∧
        RunsAlike alike session session (s.run pointing stars radius session)
          ((s.withTeam { s.team with secondary := none } s.wantSecondary).run
            pointing stars radius session) ∧
        RunsAlike (· = ·) session session
          ((s.withTeam s.team false).run pointing stars radius session)
          ((s.withTeam { s.team with secondary := none } s.wantSecondary).run
            pointing stars radius session) := by
  constructor
  · intro τ project mended other hmended hworld
    exact (alongside_overlooking hsecondary hrespects hkeeps hmended).runsAlike
      (breaksAlongside_overlooking hsecondary hrespects hmended) pointing stars radius hworld
      fun _ _ _ _ => trivial
  intro τ view hsees hhides hfails houtcome
  have hcatalog : ∀ asked, s.Asks asked → asked.Keeps alike ∧
      asked.HidesFailures view ∧ ∀ event : Event α, event.secondaryFails = true →
        event.secondaryFails = true := by
    intro asked hasks
    obtain rfl := hasks.eq_of_secondary hsecondary
    exact ⟨hkeeps, hhides, fun _ => id⟩
  have hfailing : ∀ calls, (s.run pointing stars radius session).2.calls = session.calls ++ calls →
      ∀ event ∈ calls, event.secondaryFails = true := fun calls hcalls =>
    List.all_eq_true.mp (hfails calls hcalls)
  have hunwanted : RunsAlike alike session session (s.run pointing stars radius session)
      ((s.withTeam s.team false).run pointing stars radius session) :=
    (alongside_unasked hrespects hsees hcatalog (.inl rfl)).runsAlike_of_outcome pointing stars
      radius rfl hfailing houtcome
  refine ⟨hunwanted, ?_, ?_⟩
  · exact (alongside_unasked hrespects hsees hcatalog (.inr rfl)).runsAlike_of_outcome pointing
      stars radius rfl hfailing houtcome
  · -- Neither asks, so nothing has to be known of the catalog, nor of who sees what.
    have hnone : ∀ asked, (s.withTeam s.team false).Asks asked →
        asked.Keeps (· = ·) ∧ asked.HidesFailures (id : σ → σ) ∧
          ∀ event : Event α, True → event.secondaryFails = true := by
      intro asked hasks
      cases hasks.1
    exact (alongside_unasked (s := s.withTeam s.team false) s.team.primary.respects_eq
      s.team.seesOnly_id hnone (.inr rfl)).runsAlike_of_outcome pointing stars radius rfl
        (fun _ _ _ _ => trivial) (hunwanted.1 ▸ houtcome)

end Run

section Sample

/-- A secondary catalog that always fails.  It counts its failures, and leaves room. -/
def lost : Catalog (Nat × Nat) Float where
  name := "lost"
  fetch := fun _ _ given w =>
    (some (.error (.connection .notConnected), ⟨given.entries, given.capacity + growStep⟩),
      (w.1, w.2 + 1))

/-- A secondary catalog that finds nothing at every other of these places. -/
def halfLost : Catalog (Nat × Nat) Float where
  name := "half lost"
  fetch := fun cone limit given w =>
    if w.2 % 2 = 0 then (some (.ok 0, given), (w.1, w.2 + 1)) else lost.fetch cone limit given w

/-- A search with the first of these catalogs, whose registrar finds a fit when it is called for
the third time. -/
def lostSecondary : Search (Nat × Nat) Float where
  team := {
    cancelled := fun w => (false, w)
    primary := {
      name := "pair"
      fetch := fun _ _ given w => (some (.ok 2, ⟨given.entries ++ samplePair.toArray, 0⟩), w) }
    secondary := some lost
    register := fun _ w => (if w.1 = 2 then sampleFit.answer else .rejected, (w.1 + 1, w.2)) }
  settings := { Settings.default with minPair := 2, huntFraction := 0.5 }
  wantSecondary := true
  verbose := false
  width := 1
  height := 1

theorem lostSecondary_respects :
    lostSecondary.team.primary.Respects Accumulator.SameEntries where
  refl _ := rfl
  fetch := by
    intro cone limit given other answer merged w w' halike hfetch
    cases hfetch
    exact ⟨⟨other.entries ++ samplePair.toArray, 0⟩, rfl,
      congrArg (fun entries => (entries ++ samplePair.toArray).toList) halike.symm⟩
  breaks := by
    intro cone limit given other w w' halike hfetch
    cases hfetch

theorem lostSecondary_seesOnly : lostSecondary.team.SeesOnly Prod.fst where
  cancelled := by
    intro stop w w' v hview hpoll
    cases hpoll
    exact ⟨v, rfl, hview⟩
  primary := by
    intro cone limit given answer w w' v hview hfetch
    cases hfetch
    exact ⟨v, rfl, hview⟩
  register := by
    intro request answer w w' v hview hregister
    cases hregister
    exact ⟨(v.1 + 1, v.2), by rw [hview]; rfl, congrArg (· + 1) hview⟩

theorem halfLost_overlooks :
    Collaborators.Overlooks id { lostSecondary.team with secondary := some halfLost }
      lostSecondary.team where
  name := rfl
  cancelled _ := rfl
  primary _ _ _ _ := rfl
  register _ _ := rfl
  secondary := by
    rintro catalog ⟨⟩
    refine ⟨halfLost, rfl, ?_⟩
    intro cone limit given v
    by_cases heven : v.2 % 2 = 0
    · exact Or.inr ⟨.connection .notConnected, _, (v.1, v.2 + 1), nofun, rfl, if_pos heven⟩
    · exact Or.inl (congrArg (Prod.map id id) (if_neg heven))

/-- The search finds its fit in spite of four failures, and does not become another one when half
of them are overlooked or the catalog is not wanted. -/
theorem run_secondary_failures_lost :
    (lostSecondary.run samplePointing [] 0.75 ⟨(0, 0), #[]⟩).1 =
        some (.accepted sampleFit 3 false) ∧
      (lostSecondary.run samplePointing [] 0.75 ⟨(0, 0), #[]⟩).2.world = (4, 4) ∧
      RunsAlike Accumulator.SameEntries ⟨(0, 0), #[]⟩ ⟨(0, 0), #[]⟩
        (lostSecondary.run samplePointing [] 0.75 ⟨(0, 0), #[]⟩)
        ((lostSecondary.withTeam { lostSecondary.team with secondary := some halfLost } true).run
          samplePointing [] 0.75 ⟨(0, 0), #[]⟩) ∧
      RunsAlike Accumulator.SameEntries ⟨(0, 0), #[]⟩ ⟨(0, 0), #[]⟩
        (lostSecondary.run samplePointing [] 0.75 ⟨(0, 0), #[]⟩)
        ((lostSecondary.withTeam lostSecondary.team false).run samplePointing [] 0.75
          ⟨(0, 0), #[]⟩) := by
  have hkeeps : lost.Keeps Accumulator.SameEntries := by
    intro cone limit given error found w w' hfetch
    cases hfetch
    rfl
  have hhides : lost.HidesFailures Prod.fst := by
    intro cone limit given error found w w' hfetch
    cases hfetch
    rfl
  have hfails : ∀ calls, (lostSecondary.run samplePointing [] 0.75 ⟨(0, 0), #[]⟩).2.calls =
      [] ++ calls → calls.all Event.secondaryFails = true := by
    rintro calls hcalls
    obtain rfl : _ = calls := hcalls
    rfl
  obtain ⟨hmended, hunwanted⟩ := run_secondary_failures lostSecondary rfl lostSecondary_respects
    hkeeps samplePointing [] 0.75 ⟨(0, 0), #[]⟩
  have haccepted : (lostSecondary.run samplePointing [] 0.75 ⟨(0, 0), #[]⟩).1 =
      some (.accepted sampleFit 3 false) := rfl
  have houtcome : (lostSecondary.run samplePointing [] 0.75 ⟨(0, 0), #[]⟩).1 ≠ none := by
    rw [haccepted]
    exact Option.some_ne_none _
  exact ⟨haccepted, rfl, hmended _ id _ ⟨(0, 0), #[]⟩ halfLost_overlooks rfl,
    (hunwanted _ Prod.fst lostSecondary_seesOnly hhides hfails houtcome).1⟩

end Sample

end Search

end PlateSolver
