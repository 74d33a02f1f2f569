import PlateSolver.Proofs.Search.Selection
import PlateSolver.Proofs.Solve.Atomic

/-!
# What a solve hands to its search

Before a solve searches, it decides whether to search at all, and with which stars.  Four
things can be missing — stars, a right ascension, a declination, a scale — and the first
one that is missing is the one that is reported, before anybody but the detector is
called.  If nothing is missing, the brightest stars are handed on, each at its centroid or
at its peak, unless measuring them breaks off.

* `Brightness.precedes_trans`, `Brightness.precedes_total` — detectors may report anything,
  and brightness is still an order.
* `DetectedStar.precedes`, `chooseStars_ranking` — the choice of stars as a ranking.
* `Header.HasRa`, `Header.HasDec`, `Header.Lacks`, `ofHeader_eq_error_iff` — what a header lacks
  first.
* `Event.ofDetector`, `Measured.ofDetector` — measuring stars calls the detector only.
* `Requested.imageStars_eq` — which stars a request carries, in each stage of a search.
* `HandsOver`, `HeldUp` — a search with the right stars, and a measurement that breaks off.
* `solve_hands_over` — all of it, for every solve.
-/

namespace PlateSolver

open SearchM

variable {σ α : Type}

/-! ## The choice of stars -/

section Order

variable [Scalar α] [Scalar.Ordered α]

theorem Brightness.precedes_trans {a b c : Brightness α} (hab : a.precedes b)
    (hbc : b.precedes c) : a.precedes c := by
  cases a <;> cases b <;> cases c <;> simp only [Brightness.precedes, decide_eq_true_eq,
    Bool.false_eq_true] at hab hbc ⊢
  · omega
  · exact Scalar.Ordered.precedes_trans _ _ _ hab hbc
  · omega

theorem Brightness.precedes_total (a b : Brightness α) : a.precedes b ∨ b.precedes a := by
  cases a <;> cases b <;> simp only [Brightness.precedes, decide_eq_true_eq, true_or, or_true]
  · omega
  · exact Scalar.Ordered.precedes_total _ _
  · omega

/-- The order of stars by brightness, the brightest first. -/
def DetectedStar.precedes (a b : DetectedStar α) : Bool := b.brightness.precedes a.brightness

/-- **Stars are chosen by rank.** -/
theorem chooseStars_ranking (settings : Settings α) (found : List (DetectedStar α)) :
    ∃ dropped, Ranking DetectedStar.precedes settings.imageStarLimit found
      (chooseStars settings found) dropped :=
  have htrans (a b c : DetectedStar α) (hab : a.precedes b) (hbc : b.precedes c) : a.precedes c :=
    Brightness.precedes_trans hbc hab
  have htotal (a b : DetectedStar α) : a.precedes b ∨ b.precedes a :=
    Brightness.precedes_total b.brightness a.brightness
  ⟨_, ranking_mergeSort htrans htotal _ found⟩

end Order

/-! ## What is missing -/

section Missing

variable [Analytic α] [Readable α]

/-- **A coordinate that a header has**: the first text among some cards can be read, or an older
solution is of the right kind and names it. -/
def Header.Locates (header : Header α) (keys : List String) (kindKey kind valueKey : String) :
    Prop :=
  (∃ text, keys.findSome? header.text? = some text ∧
      ∃ value : α, Sexagesimal.parse? text = some value) ∨
    ∃ text, header.text? kindKey = some text ∧ Text.trim text.toList = kind.toList ∧
      ∃ value, header.real? valueKey = some value

/-- **A header with a right ascension.** -/
def Header.HasRa (header : Header α) : Prop :=
  header.Locates ["RA", "OBJRA", "RAEOD"] "CTYPE1" "RA---TAN" "CRVAL1"

/-- **A header with a declination.** -/
def Header.HasDec (header : Header α) : Prop :=
  header.Locates ["DEC", "OBJDEC", "DECEOD"] "CTYPE2" "DEC--TAN" "CRVAL2"

/-- **What a header lacks first** for a nominal pointing. -/
def Header.Lacks (header : Header α) : PointingError → Prop
  | .missingRa => ¬header.HasRa
  | .missingDec => header.HasRa ∧ ¬header.HasDec
  | .missingScale => header.HasRa ∧ header.HasDec ∧
      (header.real? "CDELT1" = none ∨ header.real? "CDELT2" = none)

variable {header : Header α}

/-- The program finds a coordinate, by a text or else by an older solution, if there is one. -/
theorem Header.locates_iff {keys : List String} {kindKey kind valueKey : String} (unit : α → α) :
    header.Locates keys kindKey kind valueKey ↔
      ((Pointing.firstSexagesimal? header keys).map unit).or
        (Pointing.solved? header kindKey kind valueKey) ≠ none := by
  rw [ne_eq, Option.or_eq_none_iff, Option.map_eq_none_iff, not_and_or, ← ne_eq, ← ne_eq,
    Option.ne_none_iff_exists', Option.ne_none_iff_exists']
  refine or_congr ?_ ?_
  · simp only [Pointing.firstSexagesimal?, Option.bind_eq_some_iff]
    exact ⟨fun ⟨text, htext, value, hvalue⟩ => ⟨value, text, htext, hvalue⟩,
      fun ⟨value, text, htext, hvalue⟩ => ⟨text, htext, value, hvalue⟩⟩
  · unfold Pointing.solved?
    cases header.text? kindKey with
    | none => simp
    | some text => by_cases hkind : Text.trim text.toList = kind.toList <;> simp [hkind]

theorem ra?_eq_none_iff : Pointing.ra? header = none ↔ ¬header.HasRa := by
  rw [Header.HasRa, Header.locates_iff Angle.ofHours, not_not]
  rfl

theorem dec?_eq_none_iff : Pointing.dec? header = none ↔ ¬header.HasDec := by
  rw [Header.HasDec, Header.locates_iff Angle.ofDegrees, not_not]
  rfl

/-- **The first thing that is missing is the one that is reported.** -/
theorem ofHeader_eq_error_iff {width height : Nat} {cause : PointingError} :
    Pointing.ofHeader header width height = .error cause ↔ header.Lacks cause := by
  unfold Pointing.ofHeader
  cases hra : Pointing.ra? header with
  | none =>
      have hlacksRa := ra?_eq_none_iff.mp hra
      cases cause <;> simp [Header.Lacks, hlacksRa]
  | some ra =>
      have hhasRa : header.HasRa := not_not.mp (ra?_eq_none_iff.not.mp (by simp [hra]))
      cases hdec : Pointing.dec? header with
      | none =>
          have hlacksDec := dec?_eq_none_iff.mp hdec
          cases cause <;> simp [Header.Lacks, hhasRa, hlacksDec]
      | some dec =>
          have hhasDec : header.HasDec := not_not.mp (dec?_eq_none_iff.not.mp (by simp [hdec]))
          cases hx : header.real? "CDELT1" <;> cases hy : header.real? "CDELT2" <;>
            cases cause <;> simp [Header.Lacks, hhasRa, hhasDec, hx, hy]

end Missing

/-! ## Who is called -/

/-- Whether an event is a call to the detector. -/
def Event.ofDetector : Event α → Bool
  | .found _ | .measured .. => true
  | _ => false

section Measuring

variable [Scalar α] {detector : Detector σ α} {raster : Raster} {stars : List (DetectedStar α)}
  {w w' : σ} {calls : List (Event α)} {points : List (ImagePoint α)}

theorem Measured.ofDetector (h : Measured detector raster stars w calls points w') :
    ∀ event ∈ calls, event.ofDetector := by
  induction h with
  | nil w => simp
  | cons hmeasure _ ih => exact List.forall_mem_cons.mpr ⟨rfl, ih⟩

theorem Unmeasured.ofDetector (h : Unmeasured detector raster stars w calls w') :
    ∀ event ∈ calls, event.ofDetector := by
  induction h with
  | here => simp
  | later hmeasure _ ih => exact List.forall_mem_cons.mpr ⟨rfl, ih⟩

theorem Measured.length_eq (h : Measured detector raster stars w calls points w') :
    points.length = stars.length := by
  induction h with
  | nil w => rfl
  | cons _ _ ih => simp [ih]

end Measuring

/-- **Which stars a request carries** depends on the stage of the search alone. -/
theorem Search.Requested.imageStars_eq [Analytic α] {s : Search σ α} {pointing : Pointing α}
    {stars : List (ImagePoint α)} {centers : List (α × α)} {w : σ} {earlier : List (Event α)}
    {request : FitRequest α} (h : s.Requested pointing stars centers w earlier request) :
    request.imageStars = match request.pass with
      | .hunt => stars.take s.settings.maxImageStars
      | .nail => stars := by
  obtain ⟨htaken, -⟩ := h
  cases htaken <;> rfl

/-! ## The hand-over -/

namespace Solver

section HandOver

variable [Analytic α] [Readable α]

/-- **A search with the right stars.**  Of the stars that the detector found, some are kept and
the others dropped; what is kept is measured, and the search is made with the places that come
out of it. -/
structure HandsOver (solver : Solver σ α) (options : SolveOptions α) (plate : Plate α)
    (found : List (DetectedStar α)) (w : σ) (calls : List (Event α))
    (result : Option (Except (SolveError α) (Summary α))) (kept dropped : List (DetectedStar α))
    (stars : List (ImagePoint α)) : Prop where
  /-- The brightest are kept, in descending order, and equally bright ones as they were found. -/
  ranking : Ranking DetectedStar.precedes solver.settings.imageStarLimit found kept dropped
  /-- There are as many as the method allows, or all. -/
  length_stars : stars.length = min found.length (match solver.settings.method with
    | .triangle => 25
    | .distance => max solver.settings.maxPair solver.settings.maxImageStars)
  /-- Each of them is measured, one after the other, and the search goes on from there; the solve
  comes to what it comes to. -/
  searched : ∃ (measuring : List (Event α)) (w' : σ) (pointing : Pointing α),
    Measured solver.detector plate.raster kept w measuring stars w' ∧
    Pointing.ofHeader plate.header plate.raster.width plate.raster.height = .ok pointing ∧
    calls = measuring ++ ((solver.search options plate.raster).run pointing stars options.radius
      ⟨w', #[]⟩).2.calls ∧
    result = ((solver.search options plate.raster).run pointing stars options.radius
      ⟨w', #[]⟩).1.map (Outcome.report stars.length)
  /-- A request of the hunt carries the first of the stars, and one of the nail pass all. -/
  carried : ∀ request answer, .registered request answer ∈ calls →
    request.imageStars = match request.pass with
      | .hunt => stars.take solver.settings.maxImageStars
      | .nail => stars

omit [Readable α] in
/-- **A solve that is held up** before its search.  Of the stars that the detector found, some are
kept and the others dropped; measuring what is kept breaks off, and the solve with it. -/
structure HeldUp (solver : Solver σ α) (plate : Plate α) (found : List (DetectedStar α)) (w : σ)
    (calls : List (Event α)) (result : Option (Except (SolveError α) (Summary α)))
    (kept dropped : List (DetectedStar α)) : Prop where
  /-- The brightest are kept. -/
  ranking : Ranking DetectedStar.precedes solver.settings.imageStarLimit found kept dropped
  /-- One of them is the last that the detector is asked about. -/
  unmeasured : ∃ w', Unmeasured solver.detector plate.raster kept w calls w'
  /-- There is no result, not even a failure. -/
  result_eq : result = none

variable {solver : Solver σ α} {options : SolveOptions α} {plate : Plate α} {w w' : σ}
  {calls : List (Event α)} {result : Option (Except (SolveError α) (Summary α))}

omit [Readable α] in
/-- What a solve makes of a search is no refusal to search. -/
theorem report_ne_refusal (outcome? : Option (Outcome α)) (count : Nat) :
    (∀ need found, outcome?.map (Outcome.report count) ≠ some (.error (.tooFewStars need found))) ∧
      ∀ cause, outcome?.map (Outcome.report count) ≠ some (.error (.pointing cause)) := by
  cases outcome? with
  | none => simp
  | some outcome => cases outcome <;> simp [Outcome.report]

/-- With stars and a pointing, the search is made with the right stars. -/
theorem handsOver_of_ends [Scalar.Ordered α] {w₁ w₂ : σ} {found : List (DetectedStar α)}
    {measuring searching : List (Event α)} {stars : List (ImagePoint α)} {pointing : Pointing α}
    {outcome? : Option (Outcome α)}
    (hmeasured : Measured solver.detector plate.raster (chooseStars solver.settings found) w₁
      measuring stars w₂)
    (hpointing : Pointing.ofHeader plate.header plate.raster.width plate.raster.height =
      .ok pointing)
    (hends : Ends ((solver.search options plate.raster).run pointing stars options.radius) w₂
      searching outcome? w')
    (hrequested : ∀ earlier request answer later,
      searching = earlier ++ .registered request answer :: later →
        (solver.search options plate.raster).Requested pointing stars
          ((solver.search options plate.raster).centers pointing options.radius) w₂ earlier
          request) :
    ∃ kept dropped, solver.HandsOver options plate found w₁ (measuring ++ searching)
      (outcome?.map (Outcome.report stars.length)) kept dropped stars := by
  obtain ⟨dropped, hranking⟩ := chooseStars_ranking solver.settings found
  obtain ⟨houtcome, -, hcalls⟩ := hends ⟨w₂, #[]⟩ rfl
  refine ⟨_, dropped, hranking, ?_, ?_, ?_⟩
  · rw [hmeasured.length_eq, hranking.length_kept, Nat.min_comm]
    rfl
  · refine ⟨measuring, w₂, pointing, hmeasured, hpointing, ?_, ?_⟩
    · rw [hcalls]
      rfl
    · rw [houtcome]
  · intro request answer hmem
    rcases List.mem_append.mp hmem with hmeasuring | hsearching
    · exact absurd (hmeasured.ofDetector _ hmeasuring) Bool.false_ne_true
    · obtain ⟨earlier, later, hsplit⟩ := List.append_of_mem hsearching
      exact (hrequested earlier request answer later hsplit).imageStars_eq

/-- **The hand-over of a solve**, from the world that finding the stars has left: it refuses to
search for the first reason there is, or hands over to its search, unless it is held up. -/
structure Hands (solver : Solver σ α) (options : SolveOptions α) (plate : Plate α)
    (found : List (DetectedStar α)) (w : σ) (calls : List (Event α))
    (result : Option (Except (SolveError α) (Summary α))) : Prop where
  /-- It fails with too few stars exactly if fewer were found than are needed. -/
  tooFewStars_iff : ∀ need count, result = some (.error (.tooFewStars need count)) ↔
    found.length < solver.settings.minPair ∧ need = solver.settings.minPair ∧
      count = found.length
  /-- If there are enough, and measuring them comes to an end, it fails for want of a pointing
  exactly if the header lacks one. -/
  pointing_iff : ∀ cause, result = some (.error (.pointing cause)) ↔
    (solver.settings.minPair ≤ found.length ∧ plate.header.Lacks cause) ∧
      ¬∃ kept dropped, solver.HeldUp plate found w calls result kept dropped
  /-- In both cases nobody but the detector is called. -/
  ofDetector : (found.length < solver.settings.minPair ∨ ∃ cause, plate.header.Lacks cause) →
    ∀ event ∈ calls, event.ofDetector
  /-- In all others the search is made, if measuring its stars comes to an end. -/
  searched : solver.settings.minPair ≤ found.length → (∀ cause, ¬plate.header.Lacks cause) →
    (∃ kept dropped stars, solver.HandsOver options plate found w calls result kept dropped stars) ∨
      ∃ kept dropped, solver.HeldUp plate found w calls result kept dropped

/-- A search that is made is handed what it is to be handed. -/
theorem hands_of_handsOver (outcome? : Option (Outcome α)) {w₁ : σ} {found : List (DetectedStar α)}
    {pointing : Pointing α} {stars : List (ImagePoint α)}
    (henough : solver.settings.minPair ≤ found.length)
    (hpointing : Pointing.ofHeader plate.header plate.raster.width plate.raster.height =
      .ok pointing)
    (h : ∃ kept dropped, solver.HandsOver options plate found w₁ calls
      (outcome?.map (Outcome.report stars.length)) kept dropped stars) :
    solver.Hands options plate found w₁ calls (outcome?.map (Outcome.report stars.length)) := by
  obtain ⟨hnotFew, hpointed⟩ := report_ne_refusal outcome? stars.length
  obtain ⟨kept, dropped, hhandsOver⟩ := h
  have hcomplete : ∀ cause, ¬plate.header.Lacks cause := by
    intro cause hlacks
    rw [← ofHeader_eq_error_iff, hpointing] at hlacks
    cases hlacks
  refine ⟨fun need count => ?_, fun cause => ?_, ?_,
    fun _ _ => Or.inl ⟨kept, dropped, stars, hhandsOver⟩⟩
  · simp [hnotFew, Nat.not_lt.mpr henough]
  · simp [hpointed, hcomplete]
  · rintro (hfew | ⟨cause, hlacks⟩)
    · omega
    · exact absurd hlacks (hcomplete cause)

/-- **A solve hands over to its search**, or refuses to search for the first reason there is. -/
theorem Stages.hands [Scalar.Ordered α] (h : Stages solver options plate w calls result w') :
    ∃ found w₁ more, solver.detector.findStars plate.raster w = (found, w₁) ∧
      calls = .found found :: more ∧ solver.Hands options plate found w₁ more result := by
  cases h with
  | @tooFewStars _ found hfound hfew =>
      refine ⟨found, w', [], hfound, rfl, fun need count => ?_, fun cause => ?_, by simp, ?_⟩
      · simp [hfew, eq_comm]
      · simp [Nat.not_le.mpr hfew]
      · intro henough
        omega
  | @unmeasured w₁ _ found measuring hfound henough hunmeasured =>
      obtain ⟨dropped, hranking⟩ := chooseStars_ranking solver.settings found
      have hheldUp : ∃ kept dropped, solver.HeldUp plate found w₁ measuring none kept dropped :=
        ⟨_, dropped, hranking, ⟨_, hunmeasured⟩, rfl⟩
      refine ⟨found, w₁, measuring, hfound, rfl, fun need count => ?_, fun cause => ?_,
        fun _ => hunmeasured.ofDetector, fun _ _ => Or.inr hheldUp⟩
      · simp [Nat.not_lt.mpr henough]
      · simp [hheldUp]
  | @unpointed w₁ _ found measuring stars cause hfound henough hmeasured hpointing =>
      have hlacks_iff (other : PointingError) : cause = other ↔ plate.header.Lacks other := by
        rw [← ofHeader_eq_error_iff, hpointing, Except.error.injEq]
      refine ⟨found, w₁, measuring, hfound, rfl, fun need count => ?_, fun other => ?_,
        fun _ => hmeasured.ofDetector, fun _ hcomplete => ?_⟩
      · simp [Nat.not_lt.mpr henough]
      · have hresult : ¬∃ kept dropped, solver.HeldUp plate found w₁ measuring
            (some (.error (.pointing cause))) kept dropped :=
          fun ⟨_, _, hheldUp⟩ => Option.some_ne_none _ hheldUp.result_eq
        simp [henough, hlacks_iff, hresult]
      · exact absurd ((hlacks_iff cause).mp rfl) (hcomplete cause)
  | @searched w₁ w₂ _ found measuring searching stars pointing outcome hfound henough hmeasured
      hpointing hcourse =>
      have hhandsOver := handsOver_of_ends hmeasured hpointing hcourse.yields
        fun _ _ _ _ hsplit => hcourse.requested hsplit
      exact ⟨found, w₁, _, hfound, rfl,
        hands_of_handsOver (some outcome) henough hpointing hhandsOver⟩
  | @unsearched w₁ w₂ _ found measuring searching stars pointing hfound henough hmeasured
      hpointing hbreakdown =>
      have hhandsOver := handsOver_of_ends hmeasured hpointing hbreakdown.breaks
        fun _ _ _ _ hsplit => hbreakdown.requested hsplit
      exact ⟨found, w₁, _, hfound, rfl, hands_of_handsOver none henough hpointing hhandsOver⟩

end HandOver

/-- **What a solve hands to its search.**  A solve has the detector find the stars of its image.
It fails with too few stars exactly if fewer were found than are needed, and the failure names
both numbers; else it fails for want of a nominal pointing exactly if the header lacks one, and
of a right ascension, a declination and a scale the first that is missing is named.  In all these
cases nobody but the detector is called.  In all other cases the search is made with the
brightest of the stars, each at its centroid if it could be measured and at its peak if not, and
a request of the hunt carries the first of these, a request of the nail pass all of them.  All
this is said of a solve whose calls are answered, which comes to a result.  A solve may also come
to none, when measuring one of its stars breaks off, or its search does. -/
theorem solve_hands_over (solver : Solver σ Float) (options : SolveOptions Float)
    (plate : Plate Float) (session : Session σ Float) :
    ∃ found w more,
      solver.detector.findStars plate.raster session.world = (found, w) ∧
      (solver.solve options plate session).2.calls = session.calls ++ .found found :: more ∧
      (solver.Answers plate.raster → (solver.solve options plate session).1 ≠ none) ∧
      solver.Hands options plate found w more
        ((solver.solve options plate session).1.map Prod.fst) := by
  obtain ⟨calls, result, w', hstages⟩ := exists_stages solver options plate session.world
  obtain ⟨hresult, -, hcalls⟩ := hstages.solve_ends session rfl
  obtain ⟨found, w, more, hfound, rfl, hhands⟩ := hstages.hands
  have hreport : (solver.solve options plate session).1.map Prod.fst = result := by
    rw [hresult, Option.map_map]
    exact Option.map_id_apply
  refine ⟨found, w, more, hfound, hcalls, fun hanswers hnone => ?_, hreport ▸ hhands⟩
  rw [hresult, Option.map_eq_none_iff] at hnone
  exact hstages.result_ne_none hanswers hnone

end Solver

end PlateSolver
