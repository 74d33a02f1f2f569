import PlateSolver.Proofs.Search.Yields
import PlateSolver.Search.Hunt

/-!
# How one candidate is tried

Trying a candidate asks up to three collaborators, and whatever they say decides
what becomes of it: it fits, it is rejected, or it ends the search.  `Trial` lists
the ways this can go, one constructor for each, in terms of the collaborators'
answers and nothing else.  Catalogs and registrar may answer differently in
every world, so each stage of a trial also says which world it leaves.  A catalog
may also break off, and then there is no more to it: `Broken` is a trial up to there.

* `Search.Asks`, `Search.fieldOf`, `Search.request` — who is asked, and what for.
* `Search.Prepared` — the secondary catalog has been dealt with.
* `Search.Fetched` — the primary catalog has answered.
* `Search.Registered` — the registrar has answered.
* `Search.Trial` — what the answers mean.
* `Search.Broken` — a catalog has broken off.
* `Trial.yields`, `Broken.breaks`, `exists_trial_or_broken` — an attempt at a candidate goes
  the way that `Trial` or `Broken` says.

The two catalogs are not treated alike.  Only a lack of memory makes a secondary
catalog matter; a primary one rejects the candidate when it fails, and ends the
search when it would fail everywhere.
-/

namespace PlateSolver.Search

open SearchM

variable {σ α : Type}

/-- The secondary catalog that is asked: there is one, and it is wanted. -/
def Asks (s : Search σ α) (catalog : Catalog σ α) : Prop :=
  s.wantSecondary = true ∧ s.team.secondary = some catalog

/-- The region of sky that the catalogs are asked about: half a field of view around the
position of the candidate. -/
def fieldOf [Scalar α] (candidate : Candidate α) : Cone α where
  ra := candidate.ra
  dec := candidate.dec
  radius := candidate.fieldOfView / 2

/-- How many parameters are fitted: five in the hunt, and in nailing as many as the method
takes and, where distances are matched, as the order does. -/
def parameters (settings : Settings α) : Pass → Nat
  | .hunt => 5
  | .nail =>
    if settings.method = .triangle then 5
    else if settings.order = 2 then 12
    else if settings.order = 3 then 20
    else 26

/-- The request for a fit at a candidate, given the merged entries of the catalogs. -/
def request [Scalar α] (s : Search σ α) (candidate : Candidate α) (stars : List (ImagePoint α))
    (pass : Pass) (merged : Accumulator α) : FitRequest α where
  pass := pass
  method := s.settings.method
  candidate := candidate
  width := s.width
  height := s.height
  imageStars := stars
  catalogStars := selectStars s.settings merged.toList
  params := s.settings.matchParams
  fitParams := parameters s.settings pass

/-- **The secondary catalog is done with**, and leaves an accumulator to the primary
one.  Either it is not asked, or it has answered in any way but for want of memory. -/
inductive Prepared (s : Search σ α) (cone : Cone α) :
    σ → List (Event α) → Accumulator α → σ → Prop
  | unasked {w : σ} (habsent : s.wantSecondary = false ∨ s.team.secondary = none) :
      Prepared s cone w [] .empty w
  | asked {w w' : σ} {catalog : Catalog σ α} {answer : Except (CatalogError α) Nat}
      {found : Accumulator α} (hasks : s.Asks catalog)
      (hfetch : catalog.fetch cone s.settings.secondaryLimit .empty w =
        (some (answer, found), w'))
      (hmemory : answer ≠ .error (.scan .outOfMemory)) :
      Prepared s cone w
        [.fetched .secondary cone s.settings.secondaryLimit .empty answer] found w'

/-- **The primary catalog has answered**, and leaves the merged entries of both. -/
inductive Fetched (s : Search σ α) (cone : Cone α) :
    σ → List (Event α) → Except (CatalogError α) Nat → Accumulator α → σ → Prop
  | mk {w w₁ w₂ : σ} {calls : List (Event α)} {given merged : Accumulator α}
      {answer : Except (CatalogError α) Nat} (hprepared : Prepared s cone w calls given w₁)
      (hfetch : s.team.primary.fetch cone s.settings.primaryLimit given w₁ =
        (some (answer, merged), w₂)) :
      Fetched s cone w
        (calls ++ [.fetched .primary cone s.settings.primaryLimit given answer]) answer merged w₂

/-- **The registrar has answered** a request with enough catalog entries behind it. -/
inductive Registered [Scalar α] (s : Search σ α) (candidate : Candidate α)
    (stars : List (ImagePoint α)) (pass : Pass) : σ → List (Event α) → FitAnswer α → σ → Prop
  | mk {w w₁ w₂ : σ} {calls : List (Event α)} {count : Nat} {merged : Accumulator α}
      {answer : FitAnswer α}
      (hfetched : Fetched s (fieldOf candidate) w calls (.ok count) merged w₁)
      (henough : s.settings.minPair ≤ merged.size)
      (hregister : s.team.register (s.request candidate stars pass merged) w₁ = (answer, w₂)) :
      Registered s candidate stars pass w
        (calls ++ [.registered (s.request candidate stars pass merged) answer]) answer w₂

/-- **Trial of a candidate.**  From one world to another, with the calls made and
what they come to: `.error (.fatal _)` ends the search, `.error (.rejected _)` the
candidate alone, and `.ok _` is a fit. -/
inductive Trial [Scalar α] (s : Search σ α) (candidate : Candidate α)
    (stars : List (ImagePoint α)) (pass : Pass) :
    σ → List (Event α) → Except (Setback α) (Fit α) → σ → Prop
  | secondaryOutOfMemory {w w' : σ} {catalog : Catalog σ α} {found : Accumulator α}
      (hasks : s.Asks catalog)
      (hfetch : catalog.fetch (fieldOf candidate) s.settings.secondaryLimit .empty w =
        (some (.error (.scan .outOfMemory), found), w')) :
      Trial s candidate stars pass w
        [.fetched .secondary (fieldOf candidate) s.settings.secondaryLimit .empty
          (.error (.scan .outOfMemory))]
        (.error (.fatal .outOfMemory)) w'
  | primaryOutOfMemory {w w' : σ} {calls : List (Event α)} {merged : Accumulator α}
      (hfetched : Fetched s (fieldOf candidate) w calls (.error (.scan .outOfMemory)) merged w') :
      Trial s candidate stars pass w calls (.error (.fatal .outOfMemory)) w'
  | primaryUnavailable {w w' : σ} {calls : List (Event α)} {merged : Accumulator α}
      {cause : ConnectionError}
      (hfetched : Fetched s (fieldOf candidate) w calls (.error (.connection cause)) merged w') :
      Trial s candidate stars pass w calls
        (.error (.fatal (.catalogUnavailable s.team.primary.name (.connection cause)))) w'
  | primaryFailed {w w' : σ} {calls : List (Event α)} {merged : Accumulator α}
      {error : CatalogError α}
      (hfetched : Fetched s (fieldOf candidate) w calls (.error error) merged w')
      (hmemory : error ≠ .scan .outOfMemory) (hlocal : ∀ cause, error ≠ .connection cause) :
      Trial s candidate stars pass w calls
        (.error (.rejected (.catalogFailed s.team.primary.name error))) w'
  | tooFewEntries {w w' : σ} {calls : List (Event α)} {merged : Accumulator α} {count : Nat}
      (hfetched : Fetched s (fieldOf candidate) w calls (.ok count) merged w')
      (hfew : merged.size < s.settings.minPair) :
      Trial s candidate stars pass w calls
        (.error (.rejected (.tooFewStars s.settings.minPair merged.size))) w'
  | registrarFatal {w w' : σ} {calls : List (Event α)} {reason : String}
      (hregistered : Registered s candidate stars pass w calls (.fatal reason) w') :
      Trial s candidate stars pass w calls (.error (.fatal (.registrar reason))) w'
  | noMatch {w w' : σ} {calls : List (Event α)}
      (hregistered : Registered s candidate stars pass w calls .rejected w') :
      Trial s candidate stars pass w calls (.error (.rejected .noMatch)) w'
  | imprecise {w w' : σ} {calls : List (Event α)} {solution : Solution α} {residual : α}
      {higherOrder : Option α}
      (hregistered : Registered s candidate stars pass w calls
        (.accepted solution residual higherOrder) w')
      (hlimit : ¬ residual ≤ s.settings.maxResidual) :
      Trial s candidate stars pass w calls
        (.error (.rejected (.imprecise residual s.settings.maxResidual))) w'
  | fit {w w' : σ} {calls : List (Event α)} {solution : Solution α} {residual : α}
      {higherOrder : Option α}
      (hregistered : Registered s candidate stars pass w calls
        (.accepted solution residual higherOrder) w')
      (hlimit : residual ≤ s.settings.maxResidual) :
      Trial s candidate stars pass w calls (.ok ⟨solution, residual, higherOrder⟩) w'

/-- **A catalog has broken off** in the course of a trial, the secondary one before it has
answered or the primary one after that. -/
inductive Broken [Scalar α] (s : Search σ α) (candidate : Candidate α) :
    σ → List (Event α) → σ → Prop
  | secondary {w w' : σ} {catalog : Catalog σ α} (hasks : s.Asks catalog)
      (hfetch : catalog.fetch (fieldOf candidate) s.settings.secondaryLimit .empty w =
        (none, w')) :
      Broken s candidate w [] w'
  | primary {w w₁ w₂ : σ} {calls : List (Event α)} {given : Accumulator α}
      (hprepared : Prepared s (fieldOf candidate) w calls given w₁)
      (hfetch : s.team.primary.fetch (fieldOf candidate) s.settings.primaryLimit given w₁ =
        (none, w₂)) :
      Broken s candidate w calls w₂

/-! ## Every trial is what an attempt yields -/

theorem secondary?_eq_some_iff {s : Search σ α} {catalog : Catalog σ α} :
    s.secondary? = some catalog ↔ s.Asks catalog := by
  rw [secondary?, Option.ite_none_right_eq_some, Asks]

theorem secondary?_eq_none_iff {s : Search σ α} :
    s.secondary? = none ↔ s.wantSecondary = false ∨ s.team.secondary = none := by
  rw [secondary?]
  cases s.wantSecondary <;> simp

theorem fitParams_eq (s : Search σ α) (pass : Pass) :
    s.fitParams pass = parameters s.settings pass := by
  cases pass with
  | hunt => rfl
  | nail =>
      rw [fitParams, Settings.nailFitParams, parameters]
      cases s.settings.method with
      | triangle => rfl
      | distance =>
          rw [if_neg (by decide)]
          split
          case h_1 => contradiction
          case h_2 horder => rw [if_pos horder]
          case h_3 horder => rw [horder]; rfl
          case h_4 htwo hthree => rw [if_neg htwo, if_neg hthree]

theorem isOutOfMemory_iff (e : CatalogError α) :
    e.isOutOfMemory = true ↔ e = .scan .outOfMemory := by
  cases e with
  | connection cause => simp [CatalogError.isOutOfMemory]
  | geometry cause => simp [CatalogError.isOutOfMemory]
  | scan cause => cases cause <;> simp [CatalogError.isOutOfMemory]

/-- A failure of the primary catalog that would not repeat itself rejects the candidate. -/
theorem primarySetback_of_local (name : String) {e : CatalogError α}
    (hmemory : e ≠ .scan .outOfMemory) (hlocal : ∀ cause, e ≠ .connection cause) :
    primarySetback name e = .rejected (.catalogFailed name e) := by
  have hnot : e.isOutOfMemory = false :=
    Bool.eq_false_iff.mpr fun h => hmemory ((isOutOfMemory_iff e).mp h)
  cases e with
  | connection cause => exact absurd rfl (hlocal cause)
  | geometry cause => simp [primarySetback, CatalogError.isSystemic, hnot]
  | scan cause => simp [primarySetback, CatalogError.isSystemic, hnot]

theorem progress_yields (s : Search σ α) (notice : Notice α) (w : σ) :
    Yields (s.progress notice) w [] () w := by
  unfold progress
  split
  · exact Yields.note notice w
  · exact Yields.pure () w

theorem fetch_yields {role : Role} {catalog : Catalog σ α} {cone : Cone α} {limit : α}
    {given found : Accumulator α} {answer : Except (CatalogError α) Nat} {w w' : σ}
    (hfetch : catalog.fetch cone limit given w = (some (answer, found), w')) :
    Yields (SearchM.fetch role catalog cone limit given) w
      [.fetched role cone limit given answer] (answer, found) w' :=
  Yields.ask hfetch rfl

theorem Prepared.yields {s : Search σ α} {cone : Cone α} {w w' : σ} {calls : List (Event α)}
    {given : Accumulator α} (h : Prepared s cone w calls given w') :
    Yields (s.gatherSecondary cone) w calls (.ok given) w' := by
  cases h with
  | unasked habsent =>
      rw [gatherSecondary, secondary?_eq_none_iff.mpr habsent]
      exact Yields.pure _ _
  | @asked _ catalog answer _ hasks hfetch hmemory =>
      rw [gatherSecondary, secondary?_eq_some_iff.mpr hasks]
      cases answer with
      | ok n => exact Yields.bind_pure (fetch_yields hfetch) rfl
      | error e =>
          have hnot : ¬ e.isOutOfMemory = true := fun h =>
            hmemory (congrArg Except.error ((isOutOfMemory_iff e).mp h))
          refine Yields.bind_cons (fetch_yields hfetch) ?_
          simp only [if_neg hnot]
          exact Yields.bind_pure (progress_yields s _ _) rfl

/-- The secondary catalog out of memory. -/
theorem gatherSecondary_yields_of_outOfMemory {s : Search σ α} {cone : Cone α} {w w' : σ}
    {catalog : Catalog σ α} {found : Accumulator α} (hasks : s.Asks catalog)
    (hfetch : catalog.fetch cone s.settings.secondaryLimit .empty w =
      (some (.error (.scan .outOfMemory), found), w')) :
    Yields (s.gatherSecondary cone) w
      [.fetched .secondary cone s.settings.secondaryLimit .empty (.error (.scan .outOfMemory))]
      (.error (.fatal .outOfMemory)) w' := by
  rw [gatherSecondary, secondary?_eq_some_iff.mpr hasks]
  exact Yields.bind_pure (fetch_yields hfetch) rfl

section Attempt

variable [Scalar α] {s : Search σ α} {candidate : Candidate α} {stars : List (ImagePoint α)}
  {pass : Pass} {w w' : σ} {calls : List (Event α)}

/-- What the primary catalog's answer means for a candidate, given the merged entries. -/
def weigh (s : Search σ α) (answer : Except (CatalogError α) Nat) (merged : Accumulator α) :
    Except (Setback α) (List (Entry α)) :=
  match answer with
  | .error e => .error (primarySetback s.team.primary.name e)
  | .ok _ =>
    if merged.size < s.settings.minPair then
      .error (.rejected (.tooFewStars s.settings.minPair merged.size))
    else .ok (selectStars s.settings merged.toList)

theorem Fetched.gather_yields {answer : Except (CatalogError α) Nat} {merged : Accumulator α}
    (h : Fetched s (fieldOf candidate) w calls answer merged w') :
    Yields (s.gather candidate) w calls (s.weigh answer merged) w' := by
  obtain ⟨hprepared, hfetch⟩ := h
  refine Yields.bind hprepared.yields ?_
  refine Yields.bind_pure (fetch_yields hfetch) ?_
  cases answer with
  | error e => rfl
  | ok n =>
      by_cases hfew : merged.size < s.settings.minPair
      · simp only [weigh, if_pos hfew]
      · simp only [weigh, if_neg hfew]

/-- A setback of the catalogs is one of the attempt. -/
theorem attempt_yields_of_gather {setback : Setback α}
    (h : Yields (s.gather candidate) w calls (.error setback) w') :
    Yields (s.attempt candidate stars pass) w calls (.error setback) w' := by
  exact Yields.bind_pure h rfl

theorem Registered.attempt_yields {answer : FitAnswer α}
    (h : Registered s candidate stars pass w calls answer w') :
    Yields (s.attempt candidate stars pass) w calls (judge s.settings.maxResidual answer) w' := by
  obtain ⟨hfetched, henough, hregister⟩ := h
  have hgather := hfetched.gather_yields
  simp only [weigh, if_neg (Nat.not_lt.mpr henough)] at hgather
  rw [request, ← fitParams_eq] at hregister ⊢
  exact Yields.bind hgather (Yields.bind_pure (Yields.ask_answer hregister rfl) rfl)

/-- **An attempt goes the way a trial says.** -/
theorem Trial.yields {result : Except (Setback α) (Fit α)}
    (h : Trial s candidate stars pass w calls result w') :
    Yields (s.attempt candidate stars pass) w calls result w' := by
  cases h with
  | secondaryOutOfMemory hasks hfetch =>
      exact attempt_yields_of_gather
        (Yields.bind_pure (gatherSecondary_yields_of_outOfMemory hasks hfetch) rfl)
  | primaryOutOfMemory hfetched => exact attempt_yields_of_gather hfetched.gather_yields
  | primaryUnavailable hfetched => exact attempt_yields_of_gather hfetched.gather_yields
  | primaryFailed hfetched hmemory hlocal =>
      have hgather := hfetched.gather_yields
      simp only [weigh, primarySetback_of_local _ hmemory hlocal] at hgather
      exact attempt_yields_of_gather hgather
  | tooFewEntries hfetched hfew =>
      have hgather := hfetched.gather_yields
      simp only [weigh, if_pos hfew] at hgather
      exact attempt_yields_of_gather hgather
  | registrarFatal hregistered => exact hregistered.attempt_yields
  | noMatch hregistered => exact hregistered.attempt_yields
  | imprecise hregistered hlimit =>
      have hattempt := hregistered.attempt_yields
      simp only [judge, if_neg hlimit] at hattempt
      exact hattempt
  | fit hregistered hlimit =>
      have hattempt := hregistered.attempt_yields
      simp only [judge, if_pos hlimit] at hattempt
      exact hattempt

/-- **An attempt breaks off with a catalog.** -/
theorem Broken.breaks (h : Broken s candidate w calls w') :
    Breaks (s.attempt candidate stars pass) w calls w' := by
  cases h with
  | secondary hasks hfetch =>
      have hsecondary : Breaks (s.gatherSecondary (fieldOf candidate)) w [] w' := by
        rw [gatherSecondary, secondary?_eq_some_iff.mpr hasks]
        exact (Breaks.ask hfetch).bind _
      exact (hsecondary.bind _).bind _
  | primary hprepared hfetch =>
      have hgather : Breaks (s.gather candidate) w calls w' := by
        rw [← List.append_nil calls]
        refine Yields.bind_ends hprepared.yields ?_
        exact (Breaks.ask hfetch).bind _
      exact hgather.bind _

/-! ## Every attempt is a trial

What is left is that no combination of answers was forgotten: from every world
there is a trial, unless a catalog breaks off.  The cases are those of the answers
alone. -/

omit [Scalar α] in
/-- The secondary catalog breaks off, is out of memory, or prepares an accumulator. -/
theorem exists_prepared (s : Search σ α) (cone : Cone α) (w : σ) :
    (∃ catalog w', s.Asks catalog ∧
        catalog.fetch cone s.settings.secondaryLimit .empty w = (none, w')) ∨
      (∃ catalog found w', s.Asks catalog ∧
        catalog.fetch cone s.settings.secondaryLimit .empty w =
          (some (.error (.scan .outOfMemory), found), w')) ∨
      ∃ calls given w', Prepared s cone w calls given w' := by
  cases hsecondary : s.secondary? with
  | none => exact Or.inr (Or.inr ⟨_, _, _, .unasked (secondary?_eq_none_iff.mp hsecondary)⟩)
  | some catalog =>
      have hasks := secondary?_eq_some_iff.mp hsecondary
      rcases hfetch : catalog.fetch cone s.settings.secondaryLimit .empty w with
        ⟨_ | ⟨answer, found⟩, w'⟩
      · exact Or.inl ⟨catalog, w', hasks, hfetch⟩
      by_cases hmemory : answer = .error (.scan .outOfMemory)
      · exact Or.inr (Or.inl ⟨catalog, found, w', hasks, by rw [hfetch, hmemory]⟩)
      · exact Or.inr (Or.inr ⟨_, _, _, .asked hasks hfetch hmemory⟩)

/-- Enough entries and the registrar's answer decide the rest. -/
theorem exists_trial_of_fetched {count : Nat} {merged : Accumulator α}
    (hfetched : Fetched s (fieldOf candidate) w calls (.ok count) merged w') :
    ∃ calls result w₂, Trial s candidate stars pass w calls result w₂ := by
  by_cases hfew : merged.size < s.settings.minPair
  · exact ⟨_, _, _, .tooFewEntries hfetched hfew⟩
  rcases hregister : s.team.register (s.request candidate stars pass merged) w' with ⟨answer, w₂⟩
  have hregistered := Registered.mk hfetched (Nat.not_lt.mp hfew) hregister
  cases answer with
  | fatal reason => exact ⟨_, _, _, .registrarFatal hregistered⟩
  | rejected => exact ⟨_, _, _, .noMatch hregistered⟩
  | accepted solution residual higherOrder =>
      by_cases hlimit : residual ≤ s.settings.maxResidual
      · exact ⟨_, _, _, .fit hregistered hlimit⟩
      · exact ⟨_, _, _, .imprecise hregistered hlimit⟩

/-- **From every world there is a trial**, or a catalog breaks off. -/
theorem exists_trial_or_broken (s : Search σ α) (candidate : Candidate α)
    (stars : List (ImagePoint α)) (pass : Pass) (w : σ) :
    (∃ calls result w', Trial s candidate stars pass w calls result w') ∨
      ∃ calls w', Broken s candidate w calls w' := by
  rcases exists_prepared s (fieldOf candidate) w with
    ⟨catalog, w', hasks, hfetch⟩ | ⟨catalog, found, w', hasks, hfetch⟩ |
      ⟨calls, given, w₁, hprepared⟩
  · exact Or.inr ⟨_, _, .secondary hasks hfetch⟩
  · exact Or.inl ⟨_, _, _, .secondaryOutOfMemory hasks hfetch⟩
  rcases hfetch : s.team.primary.fetch (fieldOf candidate) s.settings.primaryLimit given w₁ with
    ⟨_ | ⟨answer, merged⟩, w₂⟩
  · exact Or.inr ⟨_, _, .primary hprepared hfetch⟩
  have hfetched := Fetched.mk hprepared hfetch
  refine Or.inl ?_
  cases answer with
  | error e =>
      cases e with
      | connection cause => exact ⟨_, _, _, .primaryUnavailable hfetched⟩
      | geometry cause => exact ⟨_, _, _, .primaryFailed hfetched (by simp) (by simp)⟩
      | scan cause =>
          by_cases hmemory : cause = .outOfMemory
          · subst hmemory
            exact ⟨_, _, _, .primaryOutOfMemory hfetched⟩
          · exact ⟨_, _, _, .primaryFailed hfetched (by simpa using hmemory) (by simp)⟩
  | ok count => exact exists_trial_of_fetched hfetched

end Attempt

end PlateSolver.Search
