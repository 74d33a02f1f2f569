import PlateSolver.Proofs.Search.Schedule
import PlateSolver.Proofs.Search.Selection
import PlateSolver.Proofs.Search.Spiral

/-!
# Widening the hunt

Who finds nothing within some radius tries again with a greater one, and should not have
to fear that this changes what a search does that did come to a decision.  It does not.
The radius says how many squares there are and nothing else: the steps between candidates,
the region of sky about each and the count do not depend on it.  So the candidates of the
narrower search are the first ones of the wider search, which asks the same questions in
the same order, gets the same answers, and decides, or breaks off, at the same candidate.

* `centers_mono` — the candidates of the narrower search come first.
* `run_apply` — a search comes to what the visit of its candidates comes to.
* `visit_of_exhausted` — an exhausted search has visited everything without a result.
* `visit_append_of_none`, `visit_append_of_some`, `visit_append_of_broken` — a visit in two
  parts.
* `run_eq_of_decided`, `run_eq_of_exhausted` — what becomes of a search made wider.
* `exists_visit_ends` — visits end, and their count never goes back.
* `run_widened` — two searches of which one is wider.

Collaborators are values over a world, so those whose answers depend on the calls made
before are those whose world keeps track of them.  Both searches start in the same world,
and all that is said about answers is that the same question in the same world gets the
same one.
-/

namespace PlateSolver.Search

open SearchM

variable {σ α : Type} [Analytic α] {s : Search σ α} {pointing : Pointing α}
  {stars : List (ImagePoint α)} {near far radius : α}

/-- The candidates of the narrower search are the first ones of the wider search. -/
theorem centers_mono
    (hrings : (s.plan pointing near).rings ≤ (s.plan pointing far).rings) :
    s.centers pointing near <+: s.centers pointing far := by
  unfold centers Plan.centers
  -- Both plans have the same steps, so an offset is the same position in either.
  have hcenter : (s.plan pointing near).center pointing.ra pointing.dec =
      (s.plan pointing far).center pointing.ra pointing.dec := rfl
  rw [hcenter]
  exact (spiralOffsets_mono hrings).map _

omit [Analytic α] in
/-- A program that hands on what another one gives, in another form. -/
theorem map_apply {β γ : Type} (f : β → γ) (x : SearchM σ α β) (session : Session σ α) :
    (f <$> x) session = Prod.map (Option.map f) id (x session) := by
  rw [map_eq_pure_bind]
  rcases hx : x session with ⟨_ | b, after⟩
  · exact bind_apply_none hx
  · exact bind_apply hx

/-- A search comes to what the visit of its candidates comes to, or is exhausted. -/
theorem run_apply (s : Search σ α) (pointing : Pointing α) (stars : List (ImagePoint α))
    (radius : α) (session : Session σ α) :
    s.run pointing stars radius session =
      Prod.map (Option.map (conclude (Scalar.larger radius 0) (s.centers pointing radius).length))
        id (s.visit pointing stars 0 (s.centers pointing radius) session) := by
  rw [run_eq_visit, map_apply]

/-- An exhausted search has visited all its candidates without a result. -/
theorem visit_of_exhausted {session : Session σ α} {reach : α} {count : Nat}
    (h : (s.run pointing stars radius session).1 = some (.exhausted reach count)) :
    count = (s.centers pointing radius).length ∧
      ∃ calls, Rejections s pointing stars (s.centers pointing radius) session.world calls
          (s.run pointing stars radius session).2.world ∧
        (s.run pointing stars radius session).2.calls = session.calls ++ calls ∧
        s.visit pointing stars 0 (s.centers pointing radius) session =
          (some none, (s.run pointing stars radius session).2) := by
  obtain ⟨calls, w', hcourse⟩ := exists_course h
  obtain ⟨-, hworld, hcalls⟩ := hcourse.yields session rfl
  obtain ⟨-, hcount, hall⟩ := hcourse.of_exhausted rfl
  have hvisit : Yields (s.visit pointing stars 0 (s.centers pointing radius)) session.world
      calls none w' := by
    have hnone : Yields (s.visit pointing stars 0 (s.centers pointing radius ++ []))
        session.world (calls ++ []) none w' := hall.visit_ends (Yields.pure none w')
    rwa [List.append_nil, List.append_nil] at hnone
  refine ⟨hcount, calls, ?_, hcalls, ?_⟩
  · rw [hworld]
    exact hall
  · rw [run_apply]
    exact Prod.ext (hvisit session rfl).1 rfl

/-- Candidates that are visited without a result leave the session, and their count, to
those after them. -/
theorem visit_append_of_none {inner outer : List (α × α)} {tried : Nat}
    {session after : Session σ α}
    (h : s.visit pointing stars tried inner session = (some none, after)) :
    s.visit pointing stars tried (inner ++ outer) session =
      s.visit pointing stars (tried + inner.length) outer after := by
  rw [visit_append, bind_apply h]

/-- Once there is a result, the candidates that are left do not matter. -/
theorem visit_append_of_some {inner outer : List (α × α)} {tried : Nat} {outcome : Outcome α}
    {session after : Session σ α}
    (h : s.visit pointing stars tried inner session = (some (some outcome), after)) :
    s.visit pointing stars tried (inner ++ outer) session = (some (some outcome), after) := by
  rw [visit_append, bind_apply h]
  rfl

/-- Nor do they once a catalog has broken off. -/
theorem visit_append_of_broken {inner outer : List (α × α)} {tried : Nat}
    {session after : Session σ α}
    (h : s.visit pointing stars tried inner session = (none, after)) :
    s.visit pointing stars tried (inner ++ outer) session = (none, after) := by
  rw [visit_append, bind_apply_none h]

/-- A search that has come to a decision, or has broken off, does so however much wider it is
made. -/
theorem run_eq_of_decided {session : Session σ α}
    (hrings : (s.plan pointing near).rings ≤ (s.plan pointing far).rings)
    (hdecided : ∀ reach count,
      (s.run pointing stars near session).1 ≠ some (.exhausted reach count)) :
    s.run pointing stars far session = s.run pointing stars near session := by
  obtain ⟨rest, hcenters⟩ := centers_mono hrings
  rcases hvisit : s.visit pointing stars 0 (s.centers pointing near) session with ⟨found, after⟩
  have hnear := run_apply s pointing stars near session
  rw [hvisit] at hnear
  match found with
  | none => rw [run_apply, ← hcenters, visit_append_of_broken hvisit, hnear]; rfl
  | some none => exact absurd (congrArg Prod.fst hnear) (hdecided _ _)
  | some (some outcome) => rw [run_apply, ← hcenters, visit_append_of_some hvisit, hnear]; rfl

/-- A search that was exhausted goes on, when it is made wider, from where it ended. -/
theorem run_eq_of_exhausted {session : Session σ α} {rest : List (α × α)} {reach : α} {count : Nat}
    (hcenters : s.centers pointing near ++ rest = s.centers pointing far)
    (h : (s.run pointing stars near session).1 = some (.exhausted reach count)) :
    s.run pointing stars far session =
      Prod.map (Option.map (conclude (Scalar.larger far 0) (count + rest.length))) id
        (s.visit pointing stars count rest (s.run pointing stars near session).2) := by
  obtain ⟨rfl, calls, -, -, hvisit⟩ := visit_of_exhausted h
  rw [run_apply, ← hcenters, visit_append_of_none hvisit, Nat.zero_add, List.length_append]

/-- From every world a visit ends somehow, and it never counts back. -/
theorem exists_visit_ends (s : Search σ α) (pointing : Pointing α) (stars : List (ImagePoint α))
    (tried : Nat) (centers : List (α × α)) (w : σ) :
    ∃ calls found w', Ends (s.visit pointing stars tried centers) w calls found w' ∧
      ∀ outcome, found = some (some outcome) → tried ≤ outcome.candidates := by
  induction centers generalizing tried w with
  | nil => exact ⟨[], some none, w, Yields.pure none w, fun _ h => nomatch h⟩
  | cons center rest ih =>
      rcases hpoll : s.team.cancelled w with ⟨stop, w₁⟩
      cases stop with
      | true =>
          refine ⟨_, some (some (.aborted .cancelled tried)), w₁,
            Yields.bind_pure (polled_yields hpoll) rfl, ?_⟩
          rintro outcome ⟨⟩
          exact Nat.le_refl tried
      | false =>
          rcases exists_trial_or_broken s (candidateAt pointing center)
              (stars.take s.settings.maxImageStars) .hunt w₁ with
            ⟨calls, result, w₂, htrial⟩ | ⟨asked, w₂, hbroken⟩
          swap
          · exact ⟨_, none, w₂, visit_breaks hpoll hbroken tried rest, fun _ h => nomatch h⟩
          have hturn : Turn s pointing stars center w (.polled false :: calls) result w₂ :=
            .mk hpoll htrial
          match result, hturn with
          | .ok fit, hturn =>
              rcases exists_trial_or_broken s (s.candidateOf fit) stars .nail w₂ with
                ⟨nailing, result, w₃, hnail⟩ | ⟨asked, w₃, hbroken⟩
              · refine ⟨_, some (some (settled fit (tried + 1) result)), w₃,
                  hturn.visit_ends (Yields.bind_pure (nail_yields _ hnail) rfl), ?_⟩
                rintro outcome ⟨⟩
                cases result <;> exact Nat.le_succ tried
              · exact ⟨_, none, w₃, hturn.visit_ends ((nail_breaks _ hbroken).bind _),
                  fun _ h => nomatch h⟩
          | .error (.fatal cause), hturn =>
              refine ⟨_, some (some (.aborted cause (tried + 1))), w₂,
                hturn.visit_ends (Yields.bind_pure (Yields.note _ _) rfl), ?_⟩
              rintro outcome ⟨⟩
              exact Nat.le_succ tried
          | .error (.rejected reason), hturn =>
              obtain ⟨more, found, w', hrest, hcount⟩ := ih (tried + 1) w₂
              refine ⟨_, found, w',
                hturn.visit_ends (Yields.bind_nil (progress_yields s _ _) hrest), ?_⟩
              intro outcome houtcome
              exact (Nat.le_succ tried).trans (hcount outcome houtcome)

/-- **Widening the hunt never changes a decided search.**  The offsets of the narrower
spiral are the first ones of the wider spiral.  If the narrower search was accepted or
aborted, or has broken off, the wider one is the same: the same calls with the same answers,
the same notices, and the same outcome with the same count.  If the narrower search was
exhausted, the wider one begins with all of its calls, in which every one of its candidates is
rejected, and goes on with the candidates after them, counting from where the narrower one
ended. -/
theorem run_widened (s : Search σ α) (pointing : Pointing α) (stars : List (ImagePoint α))
    {near far : α} (hrings : (s.plan pointing near).rings ≤ (s.plan pointing far).rings)
    (session : Session σ α) :
    spiralOffsets (s.plan pointing near).rings <+: spiralOffsets (s.plan pointing far).rings ∧
    ((∀ reach count, (s.run pointing stars near session).1 ≠ some (.exhausted reach count)) →
      s.run pointing stars far session = s.run pointing stars near session) ∧
    ∀ reach count, (s.run pointing stars near session).1 = some (.exhausted reach count) →
      ∃ rest calls more, s.centers pointing far = s.centers pointing near ++ rest ∧
        count = (s.centers pointing near).length ∧
        Rejections s pointing stars (s.centers pointing near) session.world calls
          (s.run pointing stars near session).2.world ∧
        (s.run pointing stars near session).2.calls = session.calls ++ calls ∧
        (s.run pointing stars far session).2.calls = session.calls ++ calls ++ more ∧
        ∀ outcome, (s.run pointing stars far session).1 = some outcome →
          count ≤ outcome.candidates := by
  refine ⟨spiralOffsets_mono hrings, run_eq_of_decided hrings, ?_⟩
  intro reach count hexhausted
  obtain ⟨rest, hcenters⟩ := centers_mono hrings
  obtain ⟨hcount, calls, hall, hcalls, -⟩ := visit_of_exhausted hexhausted
  obtain ⟨more, found, w', hmore, hleast⟩ := exists_visit_ends s pointing stars count rest
    (s.run pointing stars near session).2.world
  obtain ⟨hfound, -, hmore⟩ := hmore (s.run pointing stars near session).2 rfl
  rw [run_eq_of_exhausted hcenters hexhausted]
  refine ⟨rest, calls, more, hcenters.symm, hcount, hall, hcalls, ?_, ?_⟩
  · rw [← hcalls]
    exact hmore
  · intro outcome houtcome
    obtain ⟨visited, hvisited, rfl⟩ := Option.map_eq_some_iff.mp houtcome
    cases visited with
    | none => exact Nat.le_add_right count rest.length
    | some outcome => exact hleast outcome (hfound.symm.trans hvisited)

section Sample

/-- The fit that the registrar of the sample finds. -/
def sampleFit : Fit Float := ⟨⟨0, 0, 0, 1, 1, 0, 0⟩, 0, none⟩

/-- A search whose registrar counts its calls, and finds a fit when it is called for the
third time. -/
def thirdFits : Search Nat Float where
  team := {
    cancelled := fun n => (false, n)
    primary := {
      name := "pair"
      fetch := fun _ _ given n => (some (.ok 2, ⟨given.entries ++ samplePair.toArray, 0⟩), n) }
    secondary := none
    register := fun _ n => (if n = 2 then sampleFit.answer else .rejected, n + 1) }
  settings := { Settings.default with minPair := 2, huntFraction := 0.5 }
  wantSecondary := true
  verbose := false
  width := 1
  height := 1

/-- A search of one square that is accepted at its third candidate, and the search of two
squares that does the same. -/
theorem run_widened_thirdFits :
    (thirdFits.plan samplePointing 0.75).rings = 1 ∧
      (thirdFits.plan samplePointing 1.25).rings = 2 ∧
      (thirdFits.run samplePointing [] 0.75 ⟨0, #[]⟩).1 = some (.accepted sampleFit 3 false) ∧
      thirdFits.run samplePointing [] 1.25 ⟨0, #[]⟩ =
        thirdFits.run samplePointing [] 0.75 ⟨0, #[]⟩ := by
  have hnear : (thirdFits.plan samplePointing 0.75).rings = 1 := by decide
  have hfar : (thirdFits.plan samplePointing 1.25).rings = 2 := by decide
  have haccepted :
      (thirdFits.run samplePointing [] 0.75 ⟨0, #[]⟩).1 = some (.accepted sampleFit 3 false) := rfl
  have hrings : (thirdFits.plan samplePointing 0.75).rings ≤
      (thirdFits.plan samplePointing 1.25).rings := by
    rw [hnear, hfar]
    decide
  refine ⟨hnear, hfar, haccepted, (run_widened thirdFits samplePointing [] hrings ⟨0, #[]⟩).2.1 ?_⟩
  intro reach count hexhausted
  rw [haccepted] at hexhausted
  cases hexhausted

end Sample

end PlateSolver.Search
