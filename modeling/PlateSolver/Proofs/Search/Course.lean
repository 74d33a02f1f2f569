import PlateSolver.Proofs.Search.Trial

/-!
# The course of a whole search

A search takes the candidates of its spiral in order and stops at the first one
that is not rejected.  So its outcome is settled by how far the rejections go and
by what comes after them: a candidate that fits, one that ends the search, a poll
that does, or nothing at all.  `run_outcome_iff` says this for each of the four
outcomes, with the exact count of candidates, for collaborators that may answer
anything at any time.  There is no outcome if a catalog breaks off.

* `Plan.centers` — the candidates in order, as one list.
* `Search.visit_append`, `Search.run_eq_visit` — square by square is one by one.
* `Search.candidateAt`, `Search.candidateOf` — what is assumed of the image at a position of
  the spiral, and at that of a fit.
* `Search.Turn`, `Search.Rejections` — one candidate, and several that were rejected.
* `Search.Course` — the ways a search can go, from its first world to its last.
* `Search.TakenUp`, `Search.Breakdown` — a candidate is about to be tried, and a search that
  goes no further than such a trial.
* `Course.yields`, `Breakdown.breaks`, `exists_course_or_breakdown` — a search goes the way that
  one of them says.

The worlds are what makes this exact.  A candidate is not rejected as such but in
the world that the candidates before it have left, so the rejections form a chain
of worlds, and each poll and each trial is in its own link of it.
-/

namespace PlateSolver

open SearchM

variable {σ α : Type} [Analytic α]

namespace Plan

/-- The positions of a plan, square by square from the inside out. -/
def centers (plan : Plan α) (ra dec : α) : List (α × α) :=
  (spiralOffsets plan.rings).map (plan.center ra dec)

/-- The positions on the square `ring` and on `more` squares outside it. -/
def centersBeyond (plan : Plan α) (ra dec : α) (ring more : Nat) : List (α × α) :=
  (List.range' ring (more + 1)).flatMap (plan.ringCenters ra dec)

theorem centersBeyond_zero (plan : Plan α) (ra dec : α) :
    plan.centersBeyond ra dec 0 plan.rings = plan.centers ra dec := by
  simp only [centersBeyond, centers, spiralOffsets, List.map_flatMap, List.range_eq_range']
  rfl

theorem centersBeyond_succ (plan : Plan α) (ra dec : α) (ring more : Nat) :
    plan.centersBeyond ra dec ring (more + 1) =
      plan.ringCenters ra dec ring ++ plan.centersBeyond ra dec (ring + 1) more := by
  simp only [centersBeyond, List.range'_succ (n := more + 1), List.flatMap_cons]

theorem centersBeyond_last (plan : Plan α) (ra dec : α) (ring : Nat) :
    plan.centersBeyond ra dec ring 0 = plan.ringCenters ra dec ring := by
  simp [centersBeyond]

end Plan

namespace Search

variable {s : Search σ α} {pointing : Pointing α} {stars : List (ImagePoint α)}

/-! ## The squares as one list -/

/-- Visiting some positions and then others is visiting them all. -/
theorem visit_append (s : Search σ α) (pointing : Pointing α) (stars : List (ImagePoint α))
    (tried : Nat) (inner outer : List (α × α)) :
    s.visit pointing stars tried (inner ++ outer) =
      s.visit pointing stars tried inner >>= fun
        | some outcome => pure (some outcome)
        | none => s.visit pointing stars (tried + inner.length) outer := by
  induction inner generalizing tried with
  | nil => simp [visit]
  | cons center inner ih =>
      simp only [List.cons_append, visit, bind_assoc, List.length_cons]
      -- A poll, a notice and an attempt come first on both sides; only a rejection gets
      -- past all three, to the positions left.
      congr 1
      funext stop
      cases stop with
      | true => simp
      | false =>
          simp only [Bool.false_eq_true, if_false, bind_assoc]
          congr 1
          funext _
          congr 1
          funext result
          cases result with
          | ok fit => simp
          | error setback =>
              cases setback with
              | rejected reason => simp only [bind_assoc, ih, Nat.add_assoc, Nat.add_comm 1]
              | fatal cause => simp

/-- The outcome of a search, given what its visits came to. -/
def conclude (radius : α) (count : Nat) : Option (Outcome α) → Outcome α
  | some outcome => outcome
  | none => .exhausted radius count

/-- The squares from one on, visited square by square, are visited one by one. -/
theorem huntFrom_eq_visit (s : Search σ α) (pointing : Pointing α) (stars : List (ImagePoint α))
    (plan : Plan α) (radius : α) (ring tried more : Nat) :
    s.huntFrom pointing stars plan radius ring tried more =
      conclude radius
          (tried + (plan.centersBeyond pointing.ra pointing.dec ring more).length) <$>
        s.visit pointing stars tried
          (plan.centersBeyond pointing.ra pointing.dec ring more) := by
  induction more generalizing ring tried with
  | zero =>
      rw [huntFrom, Plan.centersBeyond_last, map_eq_pure_bind]
      congr 1
      funext outcome
      cases outcome <;> rfl
  | succ more ih =>
      rw [huntFrom, Plan.centersBeyond_succ, visit_append, map_eq_pure_bind, bind_assoc]
      congr 1
      funext outcome
      cases outcome with
      | some outcome => simp [conclude]
      | none => simp only [ih, ← map_eq_pure_bind, List.length_append, Nat.add_assoc]

/-- The plan of a search. -/
def plan (s : Search σ α) (pointing : Pointing α) (radius : α) : Plan α :=
  Plan.make pointing s.width s.height s.settings.huntFraction radius

/-- The candidates of a search, in the order in which it tries them. -/
def centers (s : Search σ α) (pointing : Pointing α) (radius : α) : List (α × α) :=
  (s.plan pointing radius).centers pointing.ra pointing.dec

/-- **A search is one visit of all its candidates.** -/
theorem run_eq_visit (s : Search σ α) (pointing : Pointing α) (stars : List (ImagePoint α))
    (radius : α) :
    s.run pointing stars radius =
      conclude (Scalar.larger radius 0) (s.centers pointing radius).length <$>
        s.visit pointing stars 0 (s.centers pointing radius) := by
  have h := huntFrom_eq_visit s pointing stars (s.plan pointing radius)
    (Scalar.larger radius 0) 0 0 (s.plan pointing radius).rings
  rwa [Plan.centersBeyond_zero, Nat.zero_add] at h

/-! ## One candidate, and several rejected ones -/

/-- **What is assumed of the image at a position of the spiral**: that it points there, that it
is not turned, and that its scales and its field of view are the nominal ones. -/
def candidateAt (pointing : Pointing α) (center : α × α) : Candidate α where
  ra := center.1
  dec := center.2
  rotation := 0
  scaleX := pointing.scaleX
  scaleY := pointing.scaleY
  fieldOfView := pointing.fieldOfView

/-- **What is assumed of it where a fit was found**: that it is as the fit says.  Its field of view
is the diagonal of the image at the scales of the fit. -/
def candidateOf (s : Search σ α) (fit : Fit α) : Candidate α where
  ra := fit.solution.ra
  dec := fit.solution.dec
  rotation := fit.solution.rotation
  scaleX := fit.solution.scaleX
  scaleY := fit.solution.scaleY
  fieldOfView :=
    let columns := fit.solution.scaleX * Scalar.ofNat s.width
    let rows := fit.solution.scaleY * Scalar.ofNat s.height
    Analytic.sqrt (columns * columns + rows * rows)

/-- **A turn of the hunt.**  The token lets the search go on, and a candidate is tried. -/
inductive Turn (s : Search σ α) (pointing : Pointing α) (stars : List (ImagePoint α))
    (center : α × α) : σ → List (Event α) → Except (Setback α) (Fit α) → σ → Prop
  | mk {w w₁ w₂ : σ} {calls : List (Event α)} {result : Except (Setback α) (Fit α)}
      (hpoll : s.team.cancelled w = (false, w₁))
      (htrial : Trial s (candidateAt pointing center) (stars.take s.settings.maxImageStars)
        .hunt w₁ calls result w₂) :
      Turn s pointing stars center w (.polled false :: calls) result w₂

/-- **Rejections.**  Candidates that were rejected one after the other, each in the
world that the one before it has left. -/
inductive Rejections (s : Search σ α) (pointing : Pointing α) (stars : List (ImagePoint α)) :
    List (α × α) → σ → List (Event α) → σ → Prop
  | nil (w : σ) : Rejections s pointing stars [] w [] w
  | cons {w w₁ w₂ : σ} {center : α × α} {rest : List (α × α)} {calls more : List (Event α)}
      {reason : Rejection α}
      (hturn : Turn s pointing stars center w calls (.error (.rejected reason)) w₁)
      (hrest : Rejections s pointing stars rest w₁ more w₂) :
      Rejections s pointing stars (center :: rest) w (calls ++ more) w₂

omit [Analytic α] in
theorem polled_yields {w w' : σ} {stop : Bool} (hpoll : s.team.cancelled w = (stop, w')) :
    Yields (SearchM.poll s.team) w [Event.polled stop] stop w' :=
  Yields.ask_answer hpoll rfl

/-- After a turn, a visit goes on with what the turn came to. -/
theorem Turn.visit_ends {center : α × α} {rest : List (α × α)} {w w₁ w₂ : σ} {tried : Nat}
    {calls more : List (Event α)} {result : Except (Setback α) (Fit α)}
    {outcome : Option (Option (Outcome α))}
    (hturn : Turn s pointing stars center w calls result w₁)
    (hnext : Ends
      (match result with
        | .ok fit => do return some (← s.nail fit stars (tried + 1))
        | .error (.rejected reason) => do
          s.progress (.rejected reason)
          s.visit pointing stars (tried + 1) rest
        | .error (.fatal cause) => do
          SearchM.note (.aborted cause (tried + 1))
          return some (.aborted cause (tried + 1))) w₁ more outcome w₂) :
    Ends (s.visit pointing stars tried (center :: rest)) w (calls ++ more) outcome w₂ := by
  obtain ⟨hpoll, htrial⟩ := hturn
  refine Yields.bind_cons (polled_yields hpoll) ?_
  refine Yields.bind_nil (progress_yields s _ _) ?_
  exact Yields.bind_ends htrial.yields hnext

/-- Without a turn, a visit breaks off with the catalog. -/
theorem visit_breaks {center : α × α} {w w₁ w₂ : σ} {asked : List (Event α)}
    (hpoll : s.team.cancelled w = (false, w₁))
    (hbroken : Broken s (candidateAt pointing center) w₁ asked w₂) (tried : Nat)
    (rest : List (α × α)) :
    Breaks (s.visit pointing stars tried (center :: rest)) w (.polled false :: asked) w₂ := by
  refine Yields.bind_cons (polled_yields hpoll) ?_
  exact Yields.bind_nil (progress_yields s _ _) (hbroken.breaks.bind _)

/-- Rejected candidates leave a visit to those after them, and count. -/
theorem Rejections.visit_ends {before after : List (α × α)} {w w₁ w₂ : σ} {tried : Nat}
    {calls more : List (Event α)} {outcome : Option (Option (Outcome α))}
    (hbefore : Rejections s pointing stars before w calls w₁)
    (hafter : Ends (s.visit pointing stars (tried + before.length) after) w₁ more outcome w₂) :
    Ends (s.visit pointing stars tried (before ++ after)) w (calls ++ more) outcome w₂ := by
  induction hbefore generalizing tried with
  | nil w => exact hafter
  | cons hturn _ ih =>
      rw [List.length_cons, Nat.add_comm _ 1, ← Nat.add_assoc] at hafter
      rw [List.append_assoc]
      exact hturn.visit_ends (Yields.bind_nil (progress_yields s _ _) (ih hafter))

/-! ## The ways a search can go -/

/-- What nailing makes of an accepted fit: a better one replaces it, and nothing
else can happen to it. -/
def settled (fit : Fit α) (tried : Nat) : Except (Setback α) (Fit α) → Outcome α
  | .ok better => .accepted better tried true
  | .error _ => .accepted fit tried false

theorem nail_yields {fit : Fit α} {w w' : σ} {calls : List (Event α)}
    {result : Except (Setback α) (Fit α)} (tried : Nat)
    (hnail : Trial s (s.candidateOf fit) stars .nail w calls result w') :
    Yields (s.nail fit stars tried) w calls (settled fit tried result) w' := by
  rw [← List.append_nil calls]
  refine Yields.bind hnail.yields ?_
  cases result with
  | ok better => exact Yields.bind_pure (Yields.note _ _) rfl
  | error setback =>
      exact Yields.bind_nil (Yields.note _ _) (Yields.bind_pure (Yields.note _ _) rfl)

theorem nail_breaks {fit : Fit α} {w w' : σ} {calls : List (Event α)} (tried : Nat)
    (hnail : Broken s (s.candidateOf fit) w calls w') :
    Breaks (s.nail fit stars tried) w calls w' :=
  hnail.breaks.bind _

/-- **Course of a search.**  From one world to another, with the calls made and the
outcome.  The candidates before the last one tried were all rejected. -/
inductive Course (s : Search σ α) (pointing : Pointing α) (stars : List (ImagePoint α))
    (radius : α) (w : σ) : List (Event α) → Outcome α → σ → Prop
  | accepted {before after : List (α × α)} {center : α × α}
      {rejecting turning nailing : List (Event α)} {w₁ w₂ w₃ : σ} {fit : Fit α}
      {result : Except (Setback α) (Fit α)}
      (hcenters : s.centers pointing radius = before ++ center :: after)
      (hbefore : Rejections s pointing stars before w rejecting w₁)
      (hturn : Turn s pointing stars center w₁ turning (.ok fit) w₂)
      (hnail : Trial s (s.candidateOf fit) stars .nail w₂ nailing result w₃) :
      Course s pointing stars radius w (rejecting ++ (turning ++ nailing))
        (settled fit (before.length + 1) result) w₃
  | aborted {before after : List (α × α)} {center : α × α} {rejecting turning : List (Event α)}
      {w₁ w₂ : σ} {cause : AbortCause α}
      (hcenters : s.centers pointing radius = before ++ center :: after)
      (hbefore : Rejections s pointing stars before w rejecting w₁)
      (hturn : Turn s pointing stars center w₁ turning (.error (.fatal cause)) w₂) :
      Course s pointing stars radius w (rejecting ++ turning)
        (.aborted cause (before.length + 1)) w₂
  | cancelled {before after : List (α × α)} {center : α × α} {rejecting : List (Event α)}
      {w₁ w₂ : σ} (hcenters : s.centers pointing radius = before ++ center :: after)
      (hbefore : Rejections s pointing stars before w rejecting w₁)
      (hpoll : s.team.cancelled w₁ = (true, w₂)) :
      Course s pointing stars radius w (rejecting ++ [.polled true])
        (.aborted .cancelled before.length) w₂
  | exhausted {rejecting : List (Event α)} {w₁ : σ}
      (hall : Rejections s pointing stars (s.centers pointing radius) w rejecting w₁) :
      Course s pointing stars radius w rejecting
        (.exhausted (Scalar.larger radius 0) (s.centers pointing radius).length) w₁

/-- **A candidate is taken up**, after the calls made so far: a candidate of the hunt once
those before it were rejected and the token lets the search go on, and the position of
a fit once the candidate it was found at fits. -/
inductive TakenUp (s : Search σ α) (pointing : Pointing α) (stars : List (ImagePoint α))
    (centers : List (α × α)) (w : σ) :
    List (Event α) → Pass → Candidate α → List (ImagePoint α) → σ → Prop
  | hunt {before after : List (α × α)} {center : α × α} {rejecting : List (Event α)} {w₁ w₂ : σ}
      (hcenters : centers = before ++ center :: after)
      (hbefore : Rejections s pointing stars before w rejecting w₁)
      (hpoll : s.team.cancelled w₁ = (false, w₂)) :
      TakenUp s pointing stars centers w (rejecting ++ [.polled false]) .hunt
        (candidateAt pointing center) (stars.take s.settings.maxImageStars) w₂
  | nail {before after : List (α × α)} {center : α × α} {rejecting turning : List (Event α)}
      {w₁ w₂ : σ} {fit : Fit α} (hcenters : centers = before ++ center :: after)
      (hbefore : Rejections s pointing stars before w rejecting w₁)
      (hturn : Turn s pointing stars center w₁ turning (.ok fit) w₂) :
      TakenUp s pointing stars centers w (rejecting ++ turning) .nail (s.candidateOf fit)
        stars w₂

/-- **Breakdown of a search.**  A candidate was taken up, and in its trial a catalog has
broken off. -/
inductive Breakdown (s : Search σ α) (pointing : Pointing α) (stars : List (ImagePoint α))
    (radius : α) (w : σ) : List (Event α) → σ → Prop
  | mk {prior asked : List (Event α)} {pass : Pass} {candidate : Candidate α}
      {imageStars : List (ImagePoint α)} {w₁ w₂ : σ}
      (htaken : TakenUp s pointing stars (s.centers pointing radius) w prior pass candidate
        imageStars w₁)
      (hbroken : Broken s candidate w₁ asked w₂) :
      Breakdown s pointing stars radius w (prior ++ asked) w₂

variable {radius : α} {w w' : σ} {calls : List (Event α)} {outcome : Outcome α}

/-- A visit of all candidates decides a search, -/
theorem run_yields_of_visit (found : Option (Outcome α))
    (h : Yields (s.visit pointing stars 0 (s.centers pointing radius)) w calls found w') :
    Yields (s.run pointing stars radius) w calls
      (conclude (Scalar.larger radius 0) (s.centers pointing radius).length found) w' := by
  rw [run_eq_visit, map_eq_pure_bind]
  exact Yields.bind_pure h rfl

/-- Unless it breaks off. -/
theorem run_breaks_of_visit
    (h : Breaks (s.visit pointing stars 0 (s.centers pointing radius)) w calls w') :
    Breaks (s.run pointing stars radius) w calls w' := by
  rw [run_eq_visit, map_eq_pure_bind]
  exact h.bind _

/-- **A search goes the way a course says.** -/
theorem Course.yields (h : Course s pointing stars radius w calls outcome w') :
    Yields (s.run pointing stars radius) w calls outcome w' := by
  cases h with
  | accepted hcenters hbefore hturn hnail =>
      refine run_yields_of_visit (some _) (hcenters ▸ hbefore.visit_ends ?_)
      rw [Nat.zero_add]
      exact hturn.visit_ends (Yields.bind_pure (nail_yields _ hnail) rfl)
  | @aborted _ _ _ _ turning _ _ _ hcenters hbefore hturn =>
      refine run_yields_of_visit (some _) (hcenters ▸ hbefore.visit_ends ?_)
      rw [Nat.zero_add, ← List.append_nil turning]
      exact hturn.visit_ends (Yields.bind_pure (Yields.note _ _) rfl)
  | cancelled hcenters hbefore hpoll =>
      refine run_yields_of_visit (some _) (hcenters ▸ hbefore.visit_ends ?_)
      rw [Nat.zero_add]
      exact Yields.bind_pure (polled_yields hpoll) rfl
  | exhausted hall =>
      refine run_yields_of_visit none ?_
      rw [← List.append_nil calls, ← List.append_nil (s.centers pointing radius)]
      exact hall.visit_ends (Yields.pure _ _)

/-- **A search breaks off with a catalog.** -/
theorem Breakdown.breaks (h : Breakdown s pointing stars radius w calls w') :
    Breaks (s.run pointing stars radius) w calls w' := by
  obtain ⟨htaken, hbroken⟩ := h
  cases htaken with
  | hunt hcenters hbefore hpoll =>
      refine run_breaks_of_visit (hcenters ▸ ?_)
      rw [List.append_assoc]
      exact hbefore.visit_ends (visit_breaks hpoll hbroken _ _)
  | nail hcenters hbefore hturn =>
      refine run_breaks_of_visit (hcenters ▸ ?_)
      rw [List.append_assoc]
      exact hbefore.visit_ends (hturn.visit_ends ((nail_breaks _ hbroken).bind _))

/-- However far the rejections go, something comes after them. -/
theorem exists_end_of_rejections (s : Search σ α) (pointing : Pointing α)
    (stars : List (ImagePoint α)) (centers : List (α × α)) (w : σ) :
    (∃ calls w', Rejections s pointing stars centers w calls w') ∨
      ∃ before center after calls w₁, centers = before ++ center :: after ∧
        Rejections s pointing stars before w calls w₁ ∧
        ((∃ w₂, s.team.cancelled w₁ = (true, w₂)) ∨
          (∃ w₂ asked w₃, s.team.cancelled w₁ = (false, w₂) ∧
            Broken s (candidateAt pointing center) w₂ asked w₃) ∨
          (∃ turning cause w₂, Turn s pointing stars center w₁ turning (.error (.fatal cause)) w₂) ∨
          ∃ turning fit w₂, Turn s pointing stars center w₁ turning (.ok fit) w₂) := by
  induction centers generalizing w with
  | nil => exact Or.inl ⟨[], w, .nil w⟩
  | cons center rest ih =>
      rcases hpoll : s.team.cancelled w with ⟨stop, w₁⟩
      cases stop with
      | true => exact Or.inr ⟨[], center, rest, [], w, rfl, .nil w, Or.inl ⟨w₁, hpoll⟩⟩
      | false =>
          rcases exists_trial_or_broken s (candidateAt pointing center)
              (stars.take s.settings.maxImageStars) .hunt w₁ with
            ⟨calls, result, w₂, htrial⟩ | ⟨asked, w₂, hbroken⟩
          · have hturn : Turn s pointing stars center w (.polled false :: calls) result w₂ :=
              .mk hpoll htrial
            -- Only a rejection leaves the question to the candidates after it.
            match result, hturn with
            | .ok fit, hturn =>
                exact Or.inr ⟨[], center, rest, [], w, rfl, .nil w,
                  Or.inr (Or.inr (Or.inr ⟨_, _, _, hturn⟩))⟩
            | .error (.fatal cause), hturn =>
                exact Or.inr ⟨[], center, rest, [], w, rfl, .nil w,
                  Or.inr (Or.inr (Or.inl ⟨_, _, _, hturn⟩))⟩
            | .error (.rejected reason), hturn =>
                rcases ih w₂ with
                  ⟨more, w', hall⟩ | ⟨before, next, after, more, w₃, hsplit, hbefore, hend⟩
                · exact Or.inl ⟨_, _, .cons hturn hall⟩
                · exact Or.inr ⟨center :: before, next, after, _, w₃, by rw [hsplit]; rfl,
                    .cons hturn hbefore, hend⟩
          · exact Or.inr ⟨[], center, rest, [], w, rfl, .nil w,
              Or.inr (Or.inl ⟨_, _, _, hpoll, hbroken⟩)⟩

/-- **From every world there is a course**, or a breakdown. -/
theorem exists_course_or_breakdown (s : Search σ α) (pointing : Pointing α)
    (stars : List (ImagePoint α)) (radius : α) (w : σ) :
    (∃ calls outcome w', Course s pointing stars radius w calls outcome w') ∨
      ∃ calls w', Breakdown s pointing stars radius w calls w' := by
  rcases exists_end_of_rejections s pointing stars (s.centers pointing radius) w with
    ⟨calls, w', hall⟩ | ⟨before, center, after, calls, w₁, hcenters, hbefore, hend⟩
  · exact Or.inl ⟨_, _, _, .exhausted hall⟩
  rcases hend with ⟨w₂, hpoll⟩ | ⟨w₂, asked, w₃, hpoll, hbroken⟩ | ⟨turning, cause, w₂, hturn⟩ |
    ⟨turning, fit, w₂, hturn⟩
  · exact Or.inl ⟨_, _, _, .cancelled hcenters hbefore hpoll⟩
  · exact Or.inr ⟨_, _, .mk (.hunt hcenters hbefore hpoll) hbroken⟩
  · exact Or.inl ⟨_, _, _, .aborted hcenters hbefore hturn⟩
  · rcases exists_trial_or_broken s (s.candidateOf fit) stars .nail w₂ with
      ⟨nailing, result, w₃, hnail⟩ | ⟨asked, w₃, hbroken⟩
    · exact Or.inl ⟨_, _, _, .accepted hcenters hbefore hturn hnail⟩
    · exact Or.inr ⟨_, _, .mk (.nail hcenters hbefore hturn) hbroken⟩

/-- The outcome of a search is that of its course. -/
theorem Course.outcome_eq {session : Session σ α}
    (h : Course s pointing stars radius session.world calls outcome w') :
    (s.run pointing stars radius session).1 = some outcome :=
  (h.yields session rfl).1

/-- A search with a breakdown has none. -/
theorem Breakdown.outcome_eq {session : Session σ α}
    (h : Breakdown s pointing stars radius session.world calls w') :
    (s.run pointing stars radius session).1 = none :=
  (h.breaks session rfl).1

/-- What comes to an outcome has a course. -/
theorem exists_course {session : Session σ α}
    (h : (s.run pointing stars radius session).1 = some outcome) :
    ∃ calls w', Course s pointing stars radius session.world calls outcome w' := by
  rcases exists_course_or_breakdown s pointing stars radius session.world with
    ⟨calls, found, w', hcourse⟩ | ⟨calls, w', hbreakdown⟩
  · obtain rfl := Option.some.inj (hcourse.outcome_eq.symm.trans h)
    exact ⟨calls, w', hcourse⟩
  · cases hbreakdown.outcome_eq.symm.trans h

/-- No trial says that the search was cancelled: only polls do. -/
theorem Trial.cause_ne_cancelled {candidate : Candidate α} {pass : Pass} {cause : AbortCause α}
    (h : Trial s candidate stars pass w calls (.error (.fatal cause)) w') : cause ≠ .cancelled := by
  cases h <;> exact fun hcancelled => nomatch hcancelled

/-- The world in which candidate number `index`, counted from zero, has its turn:
the polls before were all false, and the candidates before all rejected. -/
def Reaches (s : Search σ α) (pointing : Pointing α) (stars : List (ImagePoint α)) (radius : α)
    (w : σ) (index : Nat) (center : α × α) (w' : σ) : Prop :=
  ∃ before after calls, s.centers pointing radius = before ++ center :: after ∧
    before.length = index ∧ Rejections s pointing stars before w calls w'

omit [Analytic α] in
/-- Nailing accepts, with the count it is given. -/
theorem exists_settled_eq (fit : Fit α) (tried : Nat) (result : Except (Setback α) (Fit α)) :
    ∃ kept nailed, settled fit tried result = .accepted kept tried nailed := by
  cases result with
  | ok better => exact ⟨better, true, rfl⟩
  | error setback => exact ⟨fit, false, rfl⟩

/-! Read backwards, each outcome has one kind of course. -/

theorem Course.of_accepted {fit : Fit α} {k : Nat} {nailed : Bool}
    (h : Course s pointing stars radius w calls outcome w')
    (houtcome : outcome = .accepted fit k nailed) :
    ∃ index center w₁ turning hunted w₂, k = index + 1 ∧
      Reaches s pointing stars radius w index center w₁ ∧
      Turn s pointing stars center w₁ turning (.ok hunted) w₂ ∧
      ∃ nailing result w₃, Trial s (s.candidateOf hunted) stars .nail w₂ nailing result w₃ := by
  cases h with
  | @accepted before _ center _ _ _ _ _ _ hunted result hcenters hbefore hturn hnail =>
      obtain ⟨kept, by_nail, hsettled⟩ := exists_settled_eq hunted (before.length + 1) result
      rw [hsettled] at houtcome
      cases houtcome
      exact ⟨_, center, _, _, hunted, _, rfl, ⟨_, _, _, hcenters, rfl, hbefore⟩, hturn,
        _, _, _, hnail⟩
  | aborted => cases houtcome
  | cancelled => cases houtcome
  | exhausted => cases houtcome

theorem Course.of_aborted {cause : AbortCause α} {k : Nat} (hcause : cause ≠ .cancelled)
    (h : Course s pointing stars radius w calls outcome w')
    (houtcome : outcome = .aborted cause k) :
    ∃ index center w₁ turning w₂, k = index + 1 ∧
      Reaches s pointing stars radius w index center w₁ ∧
      Turn s pointing stars center w₁ turning (.error (.fatal cause)) w₂ := by
  cases h with
  | @accepted _ _ _ _ _ _ _ _ _ _ result => cases result <;> cases houtcome
  | aborted hcenters hbefore hturn =>
      cases houtcome
      exact ⟨_, _, _, _, _, rfl, ⟨_, _, _, hcenters, rfl, hbefore⟩, hturn⟩
  | cancelled =>
      cases houtcome
      exact absurd rfl hcause
  | exhausted => cases houtcome

theorem Course.of_cancelled {k : Nat} (h : Course s pointing stars radius w calls outcome w')
    (houtcome : outcome = .aborted .cancelled k) :
    ∃ center w₁ w₂, Reaches s pointing stars radius w k center w₁ ∧
      s.team.cancelled w₁ = (true, w₂) := by
  cases h with
  | @accepted _ _ _ _ _ _ _ _ _ _ result => cases result <;> cases houtcome
  | aborted _ _ hturn =>
      cases houtcome
      obtain ⟨_, htrial⟩ := hturn
      exact absurd rfl htrial.cause_ne_cancelled
  | cancelled hcenters hbefore hpoll =>
      cases houtcome
      exact ⟨_, _, _, ⟨_, _, _, hcenters, rfl, hbefore⟩, hpoll⟩
  | exhausted => cases houtcome

theorem Course.of_exhausted {reach : α} {k : Nat}
    (h : Course s pointing stars radius w calls outcome w')
    (houtcome : outcome = .exhausted reach k) :
    reach = Scalar.larger radius 0 ∧ k = (s.centers pointing radius).length ∧
      Rejections s pointing stars (s.centers pointing radius) w calls w' := by
  cases h with
  | @accepted _ _ _ _ _ _ _ _ _ _ result => cases result <;> cases houtcome
  | aborted => cases houtcome
  | cancelled => cases houtcome
  | exhausted hall =>
      cases houtcome
      exact ⟨rfl, rfl, hall⟩

/-- **The outcome of a search, in terms of its candidates.**  It is accepted with
count `k` exactly if the first `k` polls let it go on, the candidates before the
`k`-th were rejected, the `k`-th fits, and nailing it comes to an end, whatever that is;
aborted with another cause than a cancellation exactly if the `k`-th ends the search with
that cause; cancelled exactly if `k` candidates were rejected and the next poll says stop;
and exhausted exactly if all candidates were rejected.  It has no outcome exactly if a
catalog breaks off, about a candidate that was taken up. -/
theorem run_outcome_iff (s : Search σ α) (pointing : Pointing α) (stars : List (ImagePoint α))
    (radius : α) (session : Session σ α) :
    (∀ k, (∃ fit nailed, (s.run pointing stars radius session).1 =
        some (.accepted fit k nailed)) ↔
      ∃ index center w calls fit w', k = index + 1 ∧
        Reaches s pointing stars radius session.world index center w ∧
        Turn s pointing stars center w calls (.ok fit) w' ∧
        ∃ nailing result w'', Trial s (s.candidateOf fit) stars .nail w' nailing result w'') ∧
    (∀ cause k, cause ≠ .cancelled →
      ((s.run pointing stars radius session).1 = some (.aborted cause k) ↔
        ∃ index center w calls w', k = index + 1 ∧
          Reaches s pointing stars radius session.world index center w ∧
          Turn s pointing stars center w calls (.error (.fatal cause)) w')) ∧
    (∀ k, (s.run pointing stars radius session).1 = some (.aborted .cancelled k) ↔
      ∃ center w w', Reaches s pointing stars radius session.world k center w ∧
        s.team.cancelled w = (true, w')) ∧
    (∀ reach k, (s.run pointing stars radius session).1 = some (.exhausted reach k) ↔
      reach = Scalar.larger radius 0 ∧ k = (s.centers pointing radius).length ∧
        ∃ calls w,
          Rejections s pointing stars (s.centers pointing radius) session.world calls w) ∧
    ((s.run pointing stars radius session).1 = none ↔
      ∃ calls w, Breakdown s pointing stars radius session.world calls w) := by
  refine ⟨fun k => ⟨?_, ?_⟩, fun cause k hcause => ⟨?_, ?_⟩, fun k => ⟨?_, ?_⟩,
    fun reach k => ⟨?_, ?_⟩, ?_, ?_⟩
  · rintro ⟨fit, nailed, h⟩
    obtain ⟨_, _, hcourse⟩ := exists_course h
    exact hcourse.of_accepted rfl
  · rintro ⟨index, center, w, calls, fit, w', rfl, ⟨_, _, _, hcenters, rfl, hbefore⟩, hturn,
      _, result, _, hnail⟩
    rw [(Course.accepted hcenters hbefore hturn hnail).outcome_eq]
    obtain ⟨kept, nailed, hsettled⟩ := exists_settled_eq fit _ result
    exact ⟨kept, nailed, congrArg some hsettled⟩
  · intro h
    obtain ⟨_, _, hcourse⟩ := exists_course h
    exact hcourse.of_aborted hcause rfl
  · rintro ⟨index, center, w, calls, w', rfl, ⟨_, _, _, hcenters, rfl, hbefore⟩, hturn⟩
    exact (Course.aborted hcenters hbefore hturn).outcome_eq
  · intro h
    obtain ⟨_, _, hcourse⟩ := exists_course h
    exact hcourse.of_cancelled rfl
  · rintro ⟨center, w, w', ⟨_, _, _, hcenters, rfl, hbefore⟩, hpoll⟩
    exact (Course.cancelled hcenters hbefore hpoll).outcome_eq
  · intro h
    obtain ⟨_, _, hcourse⟩ := exists_course h
    obtain ⟨hreach, hcount, hall⟩ := hcourse.of_exhausted rfl
    exact ⟨hreach, hcount, _, _, hall⟩
  · rintro ⟨rfl, rfl, calls, w, hall⟩
    exact (Course.exhausted hall).outcome_eq
  · intro h
    rcases exists_course_or_breakdown s pointing stars radius session.world with
      ⟨_, _, _, hcourse⟩ | hbreakdown
    · cases hcourse.outcome_eq.symm.trans h
    · exact hbreakdown
  · rintro ⟨calls, w, hbreakdown⟩
    exact hbreakdown.outcome_eq

end Search

end PlateSolver
