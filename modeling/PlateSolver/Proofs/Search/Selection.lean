import PlateSolver.Proofs.Ranking
import PlateSolver.Proofs.Search.Lawful
import PlateSolver.Proofs.Search.Round

/-!
# What the registrar gets to see

The registrar judges a candidate by what it is shown, so a wrong selection of stars does
not fail, it only makes fits worse.  `run_requests_ranked` says for every request of
every search which candidate it is about, and which stars it carries: the image stars of
its stage, and the first of the catalog stars in order of magnitude, taken from the
merged entries of that very candidate's field.

* `Entry.precedes`, `Settings.withinCut`, `selectStars_eq_iff` — the selection as a ranking.
* `Round.exists_fetched_of_split` — a round makes its request last.
* `Search.Requested`, `Course.requested`, `Breakdown.requested` — every request of a search is
  about a candidate that was taken up.
* `run_requests_ranked` — what all requests of a search have in common.

A request is found in a record by the calls before it.  They fall into those of earlier
candidates, which `TakenUp` accounts for, and the questions to the catalogs that this
request goes back to.
-/

namespace PlateSolver

variable {σ α : Type}

/-! ## The selection -/

/-- The order of entries by magnitude, the brightest first. -/
def Entry.precedes [Scalar α] (a b : Entry α) : Bool := Scalar.precedes a.mag b.mag

/-- Whether an entry is not too bright. -/
def Settings.withinCut [Scalar α] (settings : Settings α) (entry : Entry α) : Bool :=
  settings.brightestMag ≤ entry.mag

/-- **Catalog stars are chosen by rank** among the entries that are not too bright, and
the rank leaves no choice. -/
theorem selectStars_eq_iff [Scalar α] [Scalar.Ordered α] {settings : Settings α}
    {entries kept : List (Entry α)} :
    selectStars settings entries = kept ↔ ∃ dropped, Ranking Entry.precedes
      settings.maxCatalogStars (entries.filter settings.withinCut) kept dropped := by
  have htotal (a b : Entry α) : a.precedes b ∨ b.precedes a :=
    Scalar.Ordered.precedes_total a.mag b.mag
  have hselected : Ranking Entry.precedes settings.maxCatalogStars
      (entries.filter settings.withinCut) (selectStars settings entries) _ :=
    ranking_mergeSort (fun a b c => Scalar.Ordered.precedes_trans a.mag b.mag c.mag) htotal _ _
  constructor
  · rintro rfl
    exact ⟨_, hselected⟩
  · rintro ⟨dropped, hkept⟩
    exact hselected.kept_unique (fun a => (htotal a a).elim id id) hkept

namespace Search

/-! ## Which candidate a request is about -/

section Round

variable [Scalar α] {s : Search σ α} {candidate : Candidate α} {stars : List (ImagePoint α)}
  {pass : Pass} {w w' : σ} {calls before after : List (Event α)} {request : FitRequest α}
  {answer : FitAnswer α}

omit [Scalar α] in
theorem registered_notMem_of_isFetch (h : ∀ event ∈ calls, event.isFetch = true) :
    .registered request answer ∉ calls := by
  intro hmem
  exact Bool.false_ne_true (h _ hmem)

/-- **A round makes its request last**, and from what the catalogs have said before. -/
theorem Round.exists_fetched_of_split {answer? : Option (FitAnswer α)}
    (h : Round s candidate stars pass w calls answer? w')
    (hcalls : calls = before ++ .registered request answer :: after) :
    ∃ count merged w₁, Fetched s (fieldOf candidate) w before (.ok count) merged w₁ ∧
      request = s.request candidate stars pass merged := by
  have hmem : .registered request answer ∈ calls := by
    rw [hcalls]
    exact List.mem_append_right before List.mem_cons_self
  cases h with
  | cutShort => simp at hmem
  | unregistered hfetched => exact absurd hmem (registered_notMem_of_isFetch hfetched.isFetch)
  | registered hregistered =>
      obtain ⟨hfetched, -, -⟩ := hregistered
      -- The request cannot be among the questions to the catalogs, so it is the last call.
      rcases split_append hcalls with ⟨rest, hfetches⟩ | ⟨rest, hbefore, hlast⟩
      · have hearly : .registered request answer ∈ before ++ .registered request answer :: rest :=
          List.mem_append_right before List.mem_cons_self
        rw [← hfetches] at hearly
        exact absurd hearly (registered_notMem_of_isFetch hfetched.isFetch)
      · cases rest with
        | nil =>
            rw [List.append_nil] at hbefore
            cases hlast
            rw [hbefore]
            exact ⟨_, _, _, hfetched, rfl⟩
        | cons first rest => simp at hlast

end Round

variable [Analytic α] {s : Search σ α} {pointing : Pointing α} {stars : List (ImagePoint α)}
  {center : α × α} {centers before after : List (α × α)} {w w₁ w' : σ}
  {calls earlier later : List (Event α)} {request : FitRequest α} {answer : FitAnswer α}

/-- **A request**, after the calls made so far: a candidate was taken up, and the catalogs
were asked about it. -/
inductive Requested (s : Search σ α) (pointing : Pointing α) (stars : List (ImagePoint α))
    (centers : List (α × α)) (w : σ) : List (Event α) → FitRequest α → Prop
  | mk {prior fetches : List (Event α)} {pass : Pass} {candidate : Candidate α}
      {imageStars : List (ImagePoint α)} {count : Nat} {merged : Accumulator α} {w₁ w₂ : σ}
      (htaken : TakenUp s pointing stars centers w prior pass candidate imageStars w₁)
      (hfetched : Fetched s (fieldOf candidate) w₁ fetches (.ok count) merged w₂) :
      Requested s pointing stars centers w (prior ++ fetches)
        (s.request candidate imageStars pass merged)

theorem TakenUp.cons {reason : Rejection α} {pass : Pass} {candidate : Candidate α}
    {imageStars : List (ImagePoint α)}
    (hturn : Turn s pointing stars center w calls (.error (.rejected reason)) w₁)
    (h : TakenUp s pointing stars centers w₁ earlier pass candidate imageStars w') :
    TakenUp s pointing stars (center :: centers) w (calls ++ earlier) pass candidate
      imageStars w' := by
  cases h with
  | hunt hcenters hbefore hpoll =>
      rw [← List.append_assoc]
      exact .hunt (congrArg (center :: ·) hcenters) (.cons hturn hbefore) hpoll
  | nail hcenters hbefore hnailed =>
      rw [← List.append_assoc]
      exact .nail (congrArg (center :: ·) hcenters) (.cons hturn hbefore) hnailed

theorem Requested.cons {reason : Rejection α}
    (hturn : Turn s pointing stars center w calls (.error (.rejected reason)) w₁)
    (h : Requested s pointing stars centers w₁ earlier request) :
    Requested s pointing stars (center :: centers) w (calls ++ earlier) request := by
  obtain ⟨htaken, hfetched⟩ := h
  rw [← List.append_assoc]
  exact .mk (htaken.cons hturn) hfetched

theorem Requested.append (hbefore : Rejections s pointing stars before w calls w₁)
    (h : Requested s pointing stars after w₁ earlier request) :
    Requested s pointing stars (before ++ after) w (calls ++ earlier) request := by
  induction hbefore with
  | nil w => exact h
  | cons hturn _ ih =>
      rw [List.append_assoc]
      exact (ih h).cons hturn

/-- The request of a turn is about the candidate whose turn it is. -/
theorem Turn.requested {result : Except (Setback α) (Fit α)}
    (h : Turn s pointing stars center w calls result w')
    (hcalls : calls = earlier ++ .registered request answer :: later) (after : List (α × α)) :
    Requested s pointing stars (center :: after) w earlier request := by
  obtain ⟨hpoll, htrial⟩ := h
  obtain ⟨answer?, hround, -⟩ := htrial.exists_round
  -- The request comes after the poll that a turn begins with.
  have hsplit : [.polled false] ++ _ = earlier ++ .registered request answer :: later := hcalls
  rcases split_append hsplit with ⟨rest, hpolled⟩ | ⟨fetches, rfl, hrest⟩
  · cases earlier <;> simp at hpolled
  · obtain ⟨count, merged, w₂, hfetched, rfl⟩ := hround.exists_fetched_of_split hrest
    exact .mk (.hunt rfl (.nil w) hpoll) hfetched

theorem Rejections.requested (h : Rejections s pointing stars before w calls w')
    (hcalls : calls = earlier ++ .registered request answer :: later) (after : List (α × α)) :
    Requested s pointing stars (before ++ after) w earlier request := by
  induction h generalizing earlier with
  | nil => simp at hcalls
  | cons hturn _ ih =>
      rcases split_append hcalls with ⟨rest, hfirst⟩ | ⟨rest, rfl, hrest⟩
      · exact hturn.requested hfirst _
      · exact (ih hrest).cons hturn

theorem Rejections.requested_turn {turning : List (Event α)} {result : Except (Setback α) (Fit α)}
    (hbefore : Rejections s pointing stars before w calls w₁)
    (hturn : Turn s pointing stars center w₁ turning result w')
    (hcalls : calls ++ turning = earlier ++ .registered request answer :: later) :
    Requested s pointing stars (before ++ center :: after) w earlier request := by
  rcases split_append hcalls with ⟨rest, hrejecting⟩ | ⟨rest, rfl, hrest⟩
  · exact hbefore.requested hrejecting _
  · exact .append hbefore (hturn.requested hrest after)

/-- **Every request of a search** is about a candidate that was taken up. -/
theorem Course.requested {radius : α} {outcome : Outcome α}
    (h : Course s pointing stars radius w calls outcome w')
    (hcalls : calls = earlier ++ .registered request answer :: later) :
    Requested s pointing stars (s.centers pointing radius) w earlier request := by
  cases h with
  | accepted hcenters hbefore hturn hnail =>
      rw [hcenters]
      rw [← List.append_assoc] at hcalls
      rcases split_append hcalls with ⟨rest, hhunt⟩ | ⟨fetches, rfl, hrest⟩
      · exact hbefore.requested_turn hturn hhunt
      · obtain ⟨answer?, hround, -⟩ := hnail.exists_round
        obtain ⟨count, merged, w₂, hfetched, rfl⟩ := hround.exists_fetched_of_split hrest
        exact .mk (.nail rfl hbefore hturn) hfetched
  | aborted hcenters hbefore hturn =>
      rw [hcenters]
      exact hbefore.requested_turn hturn hcalls
  | cancelled hcenters hbefore hpoll =>
      rw [hcenters]
      rcases split_append hcalls with ⟨rest, hrejecting⟩ | ⟨rest, -, hpolled⟩
      · exact hbefore.requested hrejecting _
      · cases rest <;> simp at hpolled
  | exhausted hall =>
      have h := hall.requested hcalls []
      rwa [List.append_nil] at h

/-- So is every request before a catalog breaks off. -/
theorem Breakdown.requested {radius : α} (h : Breakdown s pointing stars radius w calls w')
    (hcalls : calls = earlier ++ .registered request answer :: later) :
    Requested s pointing stars (s.centers pointing radius) w earlier request := by
  obtain ⟨htaken, hbroken⟩ := h
  rcases split_append hcalls with ⟨rest, hprior⟩ | ⟨rest, -, hasked⟩
  swap
  · have hregistered : .registered request answer ∈ rest ++ .registered request answer :: later :=
      List.mem_append_right rest List.mem_cons_self
    rw [← hasked] at hregistered
    exact absurd hregistered (registered_notMem_of_isFetch hbroken.isFetch)
  cases htaken with
  | hunt hcenters hbefore hpoll =>
      rw [hcenters]
      rcases split_append hprior with ⟨rest, hrejecting⟩ | ⟨rest, -, hpolled⟩
      · exact hbefore.requested hrejecting _
      · cases rest <;> simp at hpolled
  | nail hcenters hbefore hturn =>
      rw [hcenters]
      exact hbefore.requested_turn hturn hprior

/-! ## What requests have in common -/

/-- **Every request carries the right selection of stars.**  It is about a candidate that
was taken up, with the image stars of its stage and the number of parameters of its stage.
Its catalog stars are the first of the merged entries that are not too bright, in order of
magnitude: they are in order, there are not too many, and nothing that was dropped comes
before them.  If the catalogs keep what every catalog promises, the merged entries are
those of the secondary one and then those of the primary one for the field of this very
candidate, and they stay like that where they are equally bright. -/
theorem run_requests_ranked [Scalar.Ordered α] (s : Search σ α) (pointing : Pointing α)
    (stars : List (ImagePoint α)) (radius : α) (session : Session σ α) :
    ∃ calls, (s.run pointing stars radius session).2.calls = session.calls ++ calls ∧
      ∀ (earlier later : List (Event α)) (request : FitRequest α) (answer : FitAnswer α),
        calls = earlier ++ .registered request answer :: later →
          ∃ (prior fetches : List (Event α)) (w w' : σ) (count : Nat) (merged : Accumulator α)
              (dropped : List (Entry α)),
            earlier = prior ++ fetches ∧
            TakenUp s pointing stars (s.centers pointing radius) session.world prior
              request.pass request.candidate request.imageStars w ∧
            Fetched s (fieldOf request.candidate) w fetches (.ok count) merged w' ∧
            request.fitParams = parameters s.settings request.pass ∧
            Ranking Entry.precedes s.settings.maxCatalogStars
              (merged.toList.filter s.settings.withinCut) request.catalogStars dropped ∧
            (request.catalogStars.Pairwise fun a b => a.precedes b) ∧
            request.catalogStars.length ≤ s.settings.maxCatalogStars ∧
            (∀ kept ∈ request.catalogStars, ∀ other ∈ dropped, kept.precedes other) ∧
            (s.team.Lawful → ∃ primary,
              merged.toList = s.secondaryEntries (fieldOf request.candidate) w ++ primary ∧
              primary.length = count ∧
              ∀ x, (request.catalogStars ++ dropped).filter (level Entry.precedes x) =
                ((s.secondaryEntries (fieldOf request.candidate) w).filter
                    s.settings.withinCut).filter (level Entry.precedes x) ++
                  (primary.filter s.settings.withinCut).filter (level Entry.precedes x)) := by
  obtain ⟨calls, hcalls, hrequested⟩ : ∃ calls,
      (s.run pointing stars radius session).2.calls = session.calls ++ calls ∧
      ∀ earlier later request answer, calls = earlier ++ .registered request answer :: later →
        Requested s pointing stars (s.centers pointing radius) session.world earlier request := by
    rcases exists_course_or_breakdown s pointing stars radius session.world with
      ⟨calls, outcome, w', hcourse⟩ | ⟨calls, w', hbreakdown⟩
    · exact ⟨calls, (hcourse.yields session rfl).2.2, fun _ _ _ _ => hcourse.requested⟩
    · exact ⟨calls, (hbreakdown.breaks session rfl).2.2, fun _ _ _ _ => hbreakdown.requested⟩
  refine ⟨calls, hcalls, ?_⟩
  intro earlier later request answer hsplit
  obtain ⟨htaken, hfetched⟩ := hrequested earlier later request answer hsplit
  rename_i prior fetches pass candidate imageStars count merged w₁ w₂
  obtain ⟨dropped, hranking⟩ :=
    selectStars_eq_iff.mp (Eq.refl (selectStars s.settings merged.toList))
  refine ⟨prior, fetches, w₁, w₂, count, merged, dropped, rfl, htaken, hfetched, rfl, hranking,
    hranking.sorted_kept, hranking.length_le, ?_, ?_⟩
  · intro kept hkept other hother
    exact hranking.le_of_mem hkept hother
  · intro hlawful
    obtain ⟨primary, hmerged, hcount⟩ := hfetched.exists_toList_eq hlawful
    refine ⟨primary, hmerged, hcount, ?_⟩
    intro x
    apply hranking.filter_level_append
    rw [hmerged, List.filter_append]
    rfl

section Sample

/-- Two stars, the fainter one first. -/
def samplePair : List (Entry Float) :=
  [{ name := "faint", ra := 0, dec := 0, mag := 12 },
    { name := "bright", ra := 0, dec := 0, mag := 8 }]

/-- A search with room for one catalog star, whose catalog has the same two stars wherever
it is asked and whose registrar finds nothing. -/
def sample : Search Unit Float where
  team := {
    cancelled := fun w => (false, w)
    primary := {
      name := "pair"
      fetch := fun _ _ given w => (some (.ok 2, ⟨given.entries ++ samplePair.toArray, 0⟩), w) }
    secondary := none
    register := fun _ w => (.rejected, w) }
  settings := { Settings.default with maxCatalogStars := 1, minPair := 2 }
  wantSecondary := true
  verbose := false
  width := 0
  height := 0

/-- The position that the sample search starts from. -/
def samplePointing : Pointing Float := ⟨0, 0, 1, 1, 1⟩

theorem length_sample_centers : (sample.centers samplePointing 0).length = 1 := by
  have hradius : ¬ (0 : Float) < 0 := by decide
  have hrings : (sample.plan samplePointing 0).rings = 0 := by
    rw [plan, Plan.make, if_neg]
    intro h
    exact hradius h.2
  rw [centers, Plan.centers, List.length_map, hrings]
  rfl

theorem exists_sample_course :
    ∃ (earlier : List (Event Float)) (request : FitRequest Float) (outcome : Outcome Float)
      (w' : Unit), Course sample samplePointing [] 0 () (earlier ++
        [.registered request .rejected]) outcome w' := by
  obtain ⟨center, hcenters⟩ := List.length_eq_one_iff.mp length_sample_centers
  let candidate := candidateAt samplePointing center
  have hfetched : Fetched sample (fieldOf candidate) () _ (.ok 2) ⟨samplePair.toArray, 0⟩ () :=
    .mk (.unasked (.inr rfl)) rfl
  have htrial : Trial sample candidate [] .hunt () _ (.error (.rejected .noMatch)) () :=
    .noMatch (.mk hfetched (by decide) rfl)
  have hall : Rejections sample samplePointing [] [center] () _ () :=
    .cons (.mk rfl htrial) (.nil ())
  rw [← hcenters] at hall
  exact ⟨[_, _], _, _, _, .exhausted hall⟩

theorem Fetched.toList_sample {cone : Cone Float} {calls : List (Event Float)} {count : Nat}
    {merged : Accumulator Float} {w w' : Unit}
    (h : Fetched sample cone w calls (.ok count) merged w') : merged.toList = samplePair := by
  obtain ⟨hprepared, hfetch⟩ := h
  cases hprepared with
  | unasked => cases hfetch; rfl
  | asked hasks => cases hasks.2

/-- The one request of the sample search is for a fit of the brighter star. -/
theorem run_requests_ranked_sample :
    ∃ (earlier : List (Event Float)) (request : FitRequest Float) (dropped : List (Entry Float)),
      (sample.run samplePointing [] 0 ⟨(), #[]⟩).2.calls =
        earlier ++ [.registered request .rejected] ∧
      Ranking Entry.precedes 1 samplePair request.catalogStars dropped := by
  obtain ⟨calls, hcalls, hranked⟩ := run_requests_ranked sample samplePointing [] 0 ⟨(), #[]⟩
  obtain ⟨earlier, request, outcome, w', hcourse⟩ := exists_sample_course
  obtain ⟨-, -, hrecord⟩ := hcourse.yields ⟨(), #[]⟩ rfl
  obtain ⟨_, _, _, _, _, merged, dropped, -, -, hfetched, -, hranking, -⟩ :=
    hranked earlier [] request .rejected (List.append_cancel_left (hcalls.symm.trans hrecord))
  have hwithin : samplePair.filter sample.settings.withinCut = samplePair := rfl
  rw [hfetched.toList_sample, hwithin] at hranking
  exact ⟨earlier, request, dropped, hrecord, hranking⟩

end Sample

end Search

end PlateSolver
