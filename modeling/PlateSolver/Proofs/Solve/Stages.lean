import PlateSolver.Proofs.Search.Course
import PlateSolver.Solve

/-!
# The stages of a solve

A solve has the detector find the stars of an image, has the brightest of them measured,
reads the nominal position off the header, and searches from there.  Each stage can end
it: too few stars, no position, no fit, or a call that breaks off.  `Stages` lists the
ways, one constructor for each, with the calls that were made until then.

* `placed`, `Measured` — where stars are, by the detector's answers.
* `Unmeasured` — a measurement that breaks off.
* `Outcome.report` — what a solve makes of the outcome of its search.
* `Solver.Stages` — how far a solve got, and with what result.
* `Stages.ends`, `exists_stages` — a solve goes the one way that `Stages` says.
* `Solver.Answers`, `Stages.result_ne_none` — where all calls are answered, there is a result.

A search that is made is made by the search's own rules: its part of the calls is a
`Course` or a `Breakdown`, from the world that the measurements left.
-/

namespace PlateSolver

open SearchM Scalar

variable {σ α : Type}

section Measuring

variable [Scalar α] {detector : Detector σ α} {raster : Raster}

/-- The place of a star, given the detector's answer about it. -/
def placed (star : DetectedStar α) : Except DetectionError (StarStats α) → ImagePoint α
  | .ok stats => ⟨stats.x, stats.y⟩
  | .error _ => ⟨star.x, star.y⟩

/-- **Stars that were measured**, one after the other, with their places: the detector is asked
about the pixel that a star's position rounds to, on either axis to the nearest whole number. -/
inductive Measured (detector : Detector σ α) (raster : Raster) :
    List (DetectedStar α) → σ → List (Event α) → List (ImagePoint α) → σ → Prop
  | nil (w : σ) : Measured detector raster [] w [] [] w
  | cons {w w₁ w₂ : σ} {star : DetectedStar α} {rest : List (DetectedStar α)}
      {answer : Except DetectionError (StarStats α)} {calls : List (Event α)}
      {points : List (ImagePoint α)}
      (hmeasure : detector.starStats raster (whole (star.x + 1 / 2)) (whole (star.y + 1 / 2)) w =
        (some answer, w₁))
      (hrest : Measured detector raster rest w₁ calls points w₂) :
      Measured detector raster (star :: rest) w
        (.measured (whole (star.x + 1 / 2)) (whole (star.y + 1 / 2)) answer :: calls)
        (placed star answer :: points) w₂

/-- **Stars that were not all measured.**  The detector breaks off at one of them. -/
inductive Unmeasured (detector : Detector σ α) (raster : Raster) :
    List (DetectedStar α) → σ → List (Event α) → σ → Prop
  | here {w w' : σ} {star : DetectedStar α} {rest : List (DetectedStar α)}
      (hbroken : detector.starStats raster (whole (star.x + 1 / 2)) (whole (star.y + 1 / 2)) w =
        (none, w')) :
      Unmeasured detector raster (star :: rest) w [] w'
  | later {w w₁ w₂ : σ} {star : DetectedStar α} {rest : List (DetectedStar α)}
      {answer : Except DetectionError (StarStats α)} {calls : List (Event α)}
      (hmeasure : detector.starStats raster (whole (star.x + 1 / 2)) (whole (star.y + 1 / 2)) w =
        (some answer, w₁))
      (hrest : Unmeasured detector raster rest w₁ calls w₂) :
      Unmeasured detector raster (star :: rest) w
        (.measured (whole (star.x + 1 / 2)) (whole (star.y + 1 / 2)) answer :: calls) w₂

theorem placeStar_yields {star : DetectedStar α} {answer : Except DetectionError (StarStats α)}
    {w w' : σ}
    (hmeasure : detector.starStats raster (whole (star.x + 1 / 2)) (whole (star.y + 1 / 2)) w =
      (some answer, w')) :
    Yields (placeStar detector raster star) w
      [.measured (whole (star.x + 1 / 2)) (whole (star.y + 1 / 2)) answer] (placed star answer)
      w' := by
  refine Yields.bind_cons (Yields.ask hmeasure rfl) ?_
  cases answer with
  | ok stats => exact Yields.pure _ _
  | error e => exact Yields.bind_pure (Yields.note _ _) rfl

theorem Measured.yields {stars : List (DetectedStar α)} {w w' : σ} {calls : List (Event α)}
    {points : List (ImagePoint α)} (h : Measured detector raster stars w calls points w') :
    Yields (measureStars detector raster stars) w calls points w' := by
  induction h with
  | nil w => exact Yields.pure _ _
  | cons hmeasure _ ih =>
      exact Yields.bind_cons (placeStar_yields hmeasure) (Yields.bind_pure ih rfl)

theorem Unmeasured.breaks {stars : List (DetectedStar α)} {w w' : σ} {calls : List (Event α)}
    (h : Unmeasured detector raster stars w calls w') :
    Breaks (measureStars detector raster stars) w calls w' := by
  induction h with
  | here hbroken => exact ((Breaks.ask hbroken).bind _).bind _
  | later hmeasure _ ih => exact Yields.bind_cons (placeStar_yields hmeasure) (ih.bind _)

theorem Unmeasured.exists_eq_none {stars : List (DetectedStar α)} {w w' : σ}
    {calls : List (Event α)} (h : Unmeasured detector raster stars w calls w') :
    ∃ x y v, (detector.starStats raster x y v).1 = none := by
  induction h with
  | here hbroken => exact ⟨_, _, _, congrArg Prod.fst hbroken⟩
  | later _ _ ih => exact ih

theorem exists_measured_or_unmeasured (detector : Detector σ α) (raster : Raster)
    (stars : List (DetectedStar α)) (w : σ) :
    (∃ calls points w', Measured detector raster stars w calls points w') ∨
      ∃ calls w', Unmeasured detector raster stars w calls w' := by
  induction stars generalizing w with
  | nil => exact Or.inl ⟨_, _, _, .nil w⟩
  | cons star rest ih =>
      rcases hmeasure : detector.starStats raster (whole (star.x + 1 / 2))
        (whole (star.y + 1 / 2)) w with ⟨answer?, w₁⟩
      cases answer? with
      | none => exact Or.inr ⟨_, _, .here hmeasure⟩
      | some answer =>
          rcases ih w₁ with ⟨calls, points, w', hrest⟩ | ⟨calls, w', hrest⟩
          · exact Or.inl ⟨_, _, _, .cons hmeasure hrest⟩
          · exact Or.inr ⟨_, _, .later hmeasure hrest⟩

/-- Where the detector answers, all stars are measured. -/
theorem exists_measured (detector : Detector σ α) (raster : Raster)
    (hanswers : ∀ x y w, (detector.starStats raster x y w).1 ≠ none) (stars : List (DetectedStar α))
    (w : σ) : ∃ calls points w', Measured detector raster stars w calls points w' := by
  refine (exists_measured_or_unmeasured detector raster stars w).resolve_right ?_
  rintro ⟨_, _, hunmeasured⟩
  obtain ⟨x, y, v, hnone⟩ := hunmeasured.exists_eq_none
  exact hanswers x y v hnone

end Measuring

variable [Analytic α]

theorem Search.Breakdown.exists_eq_none {s : Search σ α} {pointing : Pointing α}
    {stars : List (ImagePoint α)} {radius : α} {w w' : σ} {calls : List (Event α)}
    (h : s.Breakdown pointing stars radius w calls w') :
    ∃ catalog, (catalog = s.team.primary ∨ s.team.secondary = some catalog) ∧
      ∃ cone limit given v, (catalog.fetch cone limit given v).1 = none := by
  obtain ⟨-, hbroken⟩ := h
  cases hbroken with
  | secondary hasks hfetch => exact ⟨_, .inr hasks.2, _, _, _, _, congrArg Prod.fst hfetch⟩
  | primary _ hfetch => exact ⟨_, .inl rfl, _, _, _, _, congrArg Prod.fst hfetch⟩

/-- What a solve makes of the outcome of its search. -/
def Outcome.report (imageStars : Nat) : Outcome α → Except (SolveError α) (Summary α)
  | .accepted fit candidates nailed => .ok ⟨fit, candidates, imageStars, nailed⟩
  | .exhausted radius candidates => .error (.exhausted (Angle.toDegrees radius) candidates)
  | .aborted cause candidates => .error (.aborted cause candidates)

namespace Solver

variable [Readable α]

/-- **The stages of a solve.**  It ends with too few stars before any is measured, without
a position after that and before any search, and else with what its search comes to.  It comes
to nothing if a measurement breaks off, or its search. -/
inductive Stages (solver : Solver σ α) (options : SolveOptions α) (plate : Plate α) :
    σ → List (Event α) → Option (Except (SolveError α) (Summary α)) → σ → Prop
  | tooFewStars {w w₁ : σ} {found : List (DetectedStar α)}
      (hfound : solver.detector.findStars plate.raster w = (found, w₁))
      (hfew : found.length < solver.settings.minPair) :
      Stages solver options plate w [.found found]
        (some (.error (.tooFewStars solver.settings.minPair found.length))) w₁
  | unmeasured {w w₁ w₂ : σ} {found : List (DetectedStar α)} {measuring : List (Event α)}
      (hfound : solver.detector.findStars plate.raster w = (found, w₁))
      (henough : solver.settings.minPair ≤ found.length)
      (hunmeasured : Unmeasured solver.detector plate.raster (chooseStars solver.settings found)
        w₁ measuring w₂) :
      Stages solver options plate w (.found found :: measuring) none w₂
  | unpointed {w w₁ w₂ : σ} {found : List (DetectedStar α)} {measuring : List (Event α)}
      {stars : List (ImagePoint α)} {cause : PointingError}
      (hfound : solver.detector.findStars plate.raster w = (found, w₁))
      (henough : solver.settings.minPair ≤ found.length)
      (hmeasured : Measured solver.detector plate.raster (chooseStars solver.settings found) w₁
        measuring stars w₂)
      (hpointing : Pointing.ofHeader plate.header plate.raster.width plate.raster.height =
        .error cause) :
      Stages solver options plate w (.found found :: measuring)
        (some (.error (.pointing cause))) w₂
  | searched {w w₁ w₂ w₃ : σ} {found : List (DetectedStar α)}
      {measuring searching : List (Event α)} {stars : List (ImagePoint α)}
      {pointing : Pointing α} {outcome : Outcome α}
      (hfound : solver.detector.findStars plate.raster w = (found, w₁))
      (henough : solver.settings.minPair ≤ found.length)
      (hmeasured : Measured solver.detector plate.raster (chooseStars solver.settings found) w₁
        measuring stars w₂)
      (hpointing : Pointing.ofHeader plate.header plate.raster.width plate.raster.height =
        .ok pointing)
      (hcourse : (solver.search options plate.raster).Course pointing stars options.radius w₂
        searching outcome w₃) :
      Stages solver options plate w (.found found :: (measuring ++ searching))
        (some (outcome.report stars.length)) w₃
  | unsearched {w w₁ w₂ w₃ : σ} {found : List (DetectedStar α)}
      {measuring searching : List (Event α)} {stars : List (ImagePoint α)}
      {pointing : Pointing α}
      (hfound : solver.detector.findStars plate.raster w = (found, w₁))
      (henough : solver.settings.minPair ≤ found.length)
      (hmeasured : Measured solver.detector plate.raster (chooseStars solver.settings found) w₁
        measuring stars w₂)
      (hpointing : Pointing.ofHeader plate.header plate.raster.width plate.raster.height =
        .ok pointing)
      (hbreakdown : (solver.search options plate.raster).Breakdown pointing stars options.radius
        w₂ searching w₃) :
      Stages solver options plate w (.found found :: (measuring ++ searching)) none w₃

variable {solver : Solver σ α} {options : SolveOptions α} {plate : Plate α} {w w' : σ}
  {calls : List (Event α)} {result : Option (Except (SolveError α) (Summary α))}

/-- Stars that are enough are measured before anything else. -/
theorem findSolution_ends_of_measured {w₁ w₂ : σ} {found : List (DetectedStar α)}
    {measuring more : List (Event α)} {stars : List (ImagePoint α)}
    (hfound : solver.detector.findStars plate.raster w = (found, w₁))
    (henough : solver.settings.minPair ≤ found.length)
    (hmeasured : Measured solver.detector plate.raster (chooseStars solver.settings found) w₁
      measuring stars w₂)
    (hsearch : Ends (solver.searchFor options plate stars) w₂ more result w') :
    Ends (solver.findSolution options plate) w (.found found :: (measuring ++ more)) result
      w' := by
  refine Yields.bind_cons (Yields.ask_answer hfound rfl) ?_
  simp only [if_neg (Nat.not_lt.mpr henough)]
  exact Yields.bind_ends hmeasured.yields (Yields.bind_nil (Yields.note _ _) hsearch)

/-- **A solve goes the way its stages say.** -/
theorem Stages.ends (h : Stages solver options plate w calls result w') :
    Ends (solver.findSolution options plate) w calls result w' := by
  cases h with
  | tooFewStars hfound hfew =>
      refine Yields.bind_pure (Yields.ask_answer hfound rfl) ?_
      rw [if_pos hfew]
  | unmeasured hfound henough hunmeasured =>
      refine Yields.bind_cons (Yields.ask_answer hfound rfl) ?_
      simp only [if_neg (Nat.not_lt.mpr henough)]
      exact hunmeasured.breaks.bind _
  | @unpointed _ _ _ measuring stars _ hfound henough hmeasured hpointing =>
      rw [← List.append_nil measuring]
      refine findSolution_ends_of_measured hfound henough hmeasured ?_
      rw [searchFor, hpointing]
      exact Yields.pure _ _
  | @searched _ _ _ _ _ _ stars _ outcome hfound henough hmeasured hpointing hcourse =>
      refine findSolution_ends_of_measured hfound henough hmeasured ?_
      rw [searchFor, hpointing]
      refine Yields.bind_pure hcourse.yields ?_
      cases outcome <;> rfl
  | unsearched hfound henough hmeasured hpointing hbreakdown =>
      refine findSolution_ends_of_measured hfound henough hmeasured ?_
      rw [searchFor, hpointing]
      exact hbreakdown.breaks.bind _

/-- **Every solve goes some way.** -/
theorem exists_stages (solver : Solver σ α) (options : SolveOptions α) (plate : Plate α) (w : σ) :
    ∃ calls result w', Stages solver options plate w calls result w' := by
  rcases hfound : solver.detector.findStars plate.raster w with ⟨found, w₁⟩
  rcases Nat.lt_or_ge found.length solver.settings.minPair with hfew | henough
  · exact ⟨_, _, _, .tooFewStars hfound hfew⟩
  rcases exists_measured_or_unmeasured solver.detector plate.raster
      (chooseStars solver.settings found) w₁ with
    ⟨measuring, stars, w₂, hmeasured⟩ | ⟨measuring, w₂, hunmeasured⟩
  · cases hpointing : Pointing.ofHeader plate.header plate.raster.width plate.raster.height with
    | error cause => exact ⟨_, _, _, .unpointed hfound henough hmeasured hpointing⟩
    | ok pointing =>
        rcases Search.exists_course_or_breakdown (solver.search options plate.raster) pointing
            stars options.radius w₂ with
          ⟨searching, outcome, w₃, hcourse⟩ | ⟨searching, w₃, hbreakdown⟩
        · exact ⟨_, _, _, .searched hfound henough hmeasured hpointing hcourse⟩
        · exact ⟨_, _, _, .unsearched hfound henough hmeasured hpointing hbreakdown⟩
  · exact ⟨_, _, _, .unmeasured hfound henough hunmeasured⟩

/-- **Solvers whose calls are all answered**, about a raster: neither the detector nor a catalog
breaks off.  What they answer is not said. -/
structure Answers (solver : Solver σ α) (raster : Raster) : Prop where
  /-- The detector answers. -/
  starStats_ne_none : ∀ x y w, (solver.detector.starStats raster x y w).1 ≠ none
  /-- The catalogs answer. -/
  fetch_ne_none : ∀ catalog, catalog = solver.team.primary ∨ solver.team.secondary = some catalog →
    ∀ cone limit given w, (catalog.fetch cone limit given w).1 ≠ none

/-- **Where all calls are answered, a solve comes to a result.** -/
theorem Stages.result_ne_none (hanswers : solver.Answers plate.raster)
    (h : Stages solver options plate w calls result w') : result ≠ none := by
  cases h with
  | tooFewStars => exact Option.some_ne_none _
  | unmeasured _ _ hunmeasured =>
      obtain ⟨x, y, v, hnone⟩ := hunmeasured.exists_eq_none
      exact absurd hnone (hanswers.starStats_ne_none x y v)
  | unpointed => exact Option.some_ne_none _
  | searched => exact Option.some_ne_none _
  | unsearched _ _ _ _ hbreakdown =>
      obtain ⟨catalog, hcatalog, cone, limit, given, v, hnone⟩ := hbreakdown.exists_eq_none
      exact absurd hnone (hanswers.fetch_ne_none catalog hcatalog cone limit given v)

end Solver

end PlateSolver
