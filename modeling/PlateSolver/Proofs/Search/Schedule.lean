import PlateSolver.Proofs.Search.Nailing

/-!
# The schedule of a search

Which calls a search makes, and in which order, is decided by the answers it gets; the
schedule says how.  For each candidate the token is polled once, and a round of calls
follows unless it says stop.  The first acceptable answer of the hunt is followed by one
more round, which nothing interrupts, at the position that was found.  After that, and
after a poll that says stop, there is nothing.  A catalog that breaks off ends the schedule
wherever it has come to.

* `Search.Rounds` — the calls about candidates that were tried one after the other.
* `Search.Schedule` — the calls of a whole search, with its outcome.
* `Course.schedule`, `Breakdown.schedule` — every search keeps to its schedule.
* `Schedule.polls_eq`, `Schedule.eq_nil_of_polled`, `Schedule.length_answers_nail`,
  `Schedule.exists_fits_before` — what follows for the record alone.
* `run_schedule` — all of it.

A schedule does not say what an outcome is made of, which is the business of the course
it comes from.  It is about calls: who is asked, when, and what for.
-/

namespace PlateSolver

variable {σ α : Type}

theorem polled_notMem_of_polls {calls : List (Event α)} (h : polls calls = 0) (stop : Bool) :
    .polled stop ∉ calls := by
  intro hpolled
  exact List.countP_eq_zero.mp h _ hpolled rfl

namespace Outcome

/-- How many candidates were tried. -/
def candidates : Outcome α → Nat
  | .accepted _ tried _ => tried
  | .exhausted _ tried => tried
  | .aborted _ tried => tried

/-- Whether the token has stopped the search. -/
def isCancelled : Outcome α → Bool
  | .aborted .cancelled _ => true
  | _ => false

end Outcome

namespace Search

variable [Analytic α]

/-- **Rounds of the hunt** about candidates that were tried one after the other: each
time one poll, which lets the search go on, and then one round with the brightest
image stars. -/
inductive Rounds (s : Search σ α) (pointing : Pointing α) (stars : List (ImagePoint α)) :
    List (α × α) → σ → List (Event α) → σ → Prop
  | nil (w : σ) : Rounds s pointing stars [] w [] w
  | cons {w w₁ w₂ w₃ : σ} {center : α × α} {rest : List (α × α)} {calls more : List (Event α)}
      {answer? : Option (FitAnswer α)}
      (hpoll : s.team.cancelled w = (false, w₁))
      (hround : Round s (candidateAt pointing center) (stars.take s.settings.maxImageStars)
        .hunt w₁ calls answer? w₂)
      (hrest : Rounds s pointing stars rest w₂ more w₃) :
      Rounds s pointing stars (center :: rest) w (.polled false :: calls ++ more) w₃

/-- **Schedule of a search** among some candidates: the calls it makes, its outcome if it comes
to one, and the world it leaves.  A hunted fit that is acceptable is nailed in one last round
with all image stars; a poll that says stop is the last call; and if there is neither, all the
calls are those of the candidates tried, none of whose answers is acceptable.  Where a catalog
breaks off, the round that it belongs to is cut short. -/
inductive Schedule (s : Search σ α) (pointing : Pointing α) (stars : List (ImagePoint α))
    (centers : List (α × α)) (w : σ) : List (Event α) → Option (Outcome α) → σ → Prop
  | accepted {before after : List (α × α)} {center : α × α}
      {hunting last nailing : List (Event α)} {w₁ w₂ w₃ w₄ : σ} {hunted kept : Fit α}
      {answer? : Option (FitAnswer α)} {nailed : Bool}
      (hcenters : centers = before ++ center :: after)
      (hrounds : Rounds s pointing stars before w hunting w₁)
      (hunfit : ∀ answer ∈ answers .hunt hunting, ¬ answer.Fits s.settings.maxResidual)
      (hpoll : s.team.cancelled w₁ = (false, w₂))
      (hlast : Round s (candidateAt pointing center) (stars.take s.settings.maxImageStars)
        .hunt w₂ last (some hunted.answer) w₃)
      (hfits : hunted.residual ≤ s.settings.maxResidual)
      (hnail : Round s (s.candidateOf hunted) stars .nail w₃ nailing answer? w₄) :
      Schedule s pointing stars centers w (hunting ++ .polled false :: last ++ nailing)
        (some (.accepted kept (before.length + 1) nailed)) w₄
  | cancelled {before after : List (α × α)} {center : α × α} {hunting : List (Event α)}
      {w₁ w₂ : σ} (hcenters : centers = before ++ center :: after)
      (hrounds : Rounds s pointing stars before w hunting w₁)
      (hunfit : ∀ answer ∈ answers .hunt hunting, ¬ answer.Fits s.settings.maxResidual)
      (hpoll : s.team.cancelled w₁ = (true, w₂)) :
      Schedule s pointing stars centers w (hunting ++ [.polled true])
        (some (.aborted .cancelled before.length)) w₂
  | aborted {tried untried : List (α × α)} {hunting : List (Event α)} {w₁ : σ}
      {cause : AbortCause α} (hcenters : centers = tried ++ untried)
      (hrounds : Rounds s pointing stars tried w hunting w₁)
      (hunfit : ∀ answer ∈ answers .hunt hunting, ¬ answer.Fits s.settings.maxResidual)
      (hcause : cause ≠ .cancelled) :
      Schedule s pointing stars centers w hunting (some (.aborted cause tried.length)) w₁
  | exhausted {hunting : List (Event α)} {w₁ : σ} {radius : α}
      (hrounds : Rounds s pointing stars centers w hunting w₁)
      (hunfit : ∀ answer ∈ answers .hunt hunting, ¬ answer.Fits s.settings.maxResidual) :
      Schedule s pointing stars centers w hunting (some (.exhausted radius centers.length)) w₁
  | brokenHunting {before after : List (α × α)} {center : α × α} {hunting last : List (Event α)}
      {w₁ w₂ w₃ : σ} (hcenters : centers = before ++ center :: after)
      (hrounds : Rounds s pointing stars before w hunting w₁)
      (hunfit : ∀ answer ∈ answers .hunt hunting, ¬ answer.Fits s.settings.maxResidual)
      (hpoll : s.team.cancelled w₁ = (false, w₂))
      (hbroken : Broken s (candidateAt pointing center) w₂ last w₃) :
      Schedule s pointing stars centers w (hunting ++ .polled false :: last) none w₃
  | brokenNailing {before after : List (α × α)} {center : α × α}
      {hunting last nailing : List (Event α)} {w₁ w₂ w₃ w₄ : σ} {hunted : Fit α}
      (hcenters : centers = before ++ center :: after)
      (hrounds : Rounds s pointing stars before w hunting w₁)
      (hunfit : ∀ answer ∈ answers .hunt hunting, ¬ answer.Fits s.settings.maxResidual)
      (hpoll : s.team.cancelled w₁ = (false, w₂))
      (hlast : Round s (candidateAt pointing center) (stars.take s.settings.maxImageStars)
        .hunt w₂ last (some hunted.answer) w₃)
      (hfits : hunted.residual ≤ s.settings.maxResidual)
      (hbroken : Broken s (s.candidateOf hunted) w₃ nailing w₄) :
      Schedule s pointing stars centers w (hunting ++ .polled false :: last ++ nailing) none w₄

variable {s : Search σ α} {pointing : Pointing α} {stars : List (ImagePoint α)}
  {centers : List (α × α)} {w w' : σ} {calls : List (Event α)} {outcome : Outcome α}
  {result : Option (Outcome α)}

/-! ## Every search keeps to its schedule -/

theorem Turn.rounds {center : α × α} {result : Except (Setback α) (Fit α)}
    (h : Turn s pointing stars center w calls result w') :
    Rounds s pointing stars [center] w calls w' := by
  obtain ⟨hpoll, htrial⟩ := h
  obtain ⟨answer?, hround, -⟩ := htrial.exists_round
  have h := Rounds.cons hpoll hround (.nil w')
  rwa [List.append_nil] at h

theorem Turn.exists_round {center : α × α} {fit : Fit α}
    (h : Turn s pointing stars center w calls (.ok fit) w') :
    ∃ w₁ last, calls = .polled false :: last ∧ s.team.cancelled w = (false, w₁) ∧
      Round s (candidateAt pointing center) (stars.take s.settings.maxImageStars) .hunt w₁ last
        (some fit.answer) w' ∧ fit.residual ≤ s.settings.maxResidual := by
  obtain ⟨hpoll, htrial⟩ := h
  obtain ⟨hanswers, hfits⟩ := htrial.answers_of_ok
  obtain ⟨answer?, hround, -⟩ := htrial.exists_round
  rw [hround.answers_eq] at hanswers
  cases answer? with
  | none => cases hanswers
  | some answer =>
      obtain rfl : answer = fit.answer := List.singleton_inj.mp hanswers
      exact ⟨_, _, rfl, hpoll, hround, hfits⟩

theorem Turn.cause_ne_cancelled {center : α × α} {cause : AbortCause α}
    (h : Turn s pointing stars center w calls (.error (.fatal cause)) w') :
    cause ≠ .cancelled := by
  obtain ⟨-, htrial⟩ := h
  exact htrial.cause_ne_cancelled

theorem Rejections.rounds (h : Rejections s pointing stars centers w calls w') :
    Rounds s pointing stars centers w calls w' := by
  induction h with
  | nil w => exact .nil w
  | cons hturn _ ih =>
      obtain ⟨hpoll, htrial⟩ := hturn
      obtain ⟨answer?, hround, -⟩ := htrial.exists_round
      exact .cons hpoll hround ih

theorem Rounds.append {more : List (α × α)} {w₁ : σ} {later : List (Event α)}
    (h : Rounds s pointing stars centers w calls w₁)
    (hmore : Rounds s pointing stars more w₁ later w') :
    Rounds s pointing stars (centers ++ more) w (calls ++ later) w' := by
  induction h with
  | nil w => exact hmore
  | cons hpoll hround _ ih =>
      rw [List.append_assoc]
      exact .cons hpoll hround (ih hmore)

/-- **Every search keeps to its schedule.** -/
theorem Course.schedule {radius : α} (h : Course s pointing stars radius w calls outcome w') :
    Schedule s pointing stars (s.centers pointing radius) w calls (some outcome) w' := by
  cases h with
  | @accepted before _ _ _ _ _ _ _ _ hunted result hcenters hbefore hturn hnail =>
      obtain ⟨kept, nailed, hsettled⟩ := exists_settled_eq hunted (before.length + 1) result
      obtain ⟨_, last, rfl, hpoll, hlast, hfits⟩ := hturn.exists_round
      obtain ⟨answer?, hround, -⟩ := hnail.exists_round
      rw [hsettled, ← List.append_assoc]
      exact .accepted hcenters hbefore.rounds hbefore.not_fits hpoll hlast hfits hround
  | @aborted before after center _ _ _ _ _ hcenters hbefore hturn =>
      -- The candidate that ended the search is the last of those tried.
      have htried : s.centers pointing radius = (before ++ [center]) ++ after := by
        rw [hcenters, List.append_assoc, List.singleton_append]
      have h := Schedule.aborted htried (hbefore.rounds.append hturn.rounds)
        (hbefore.not_fits_append hturn) hturn.cause_ne_cancelled
      rwa [List.length_append] at h
  | cancelled hcenters hbefore hpoll =>
      exact .cancelled hcenters hbefore.rounds hbefore.not_fits hpoll
  | exhausted hall => exact .exhausted hall.rounds hall.not_fits

/-- Up to where it breaks off. -/
theorem Breakdown.schedule {radius : α} (h : Breakdown s pointing stars radius w calls w') :
    Schedule s pointing stars (s.centers pointing radius) w calls none w' := by
  obtain ⟨htaken, hbroken⟩ := h
  cases htaken with
  | hunt hcenters hbefore hpoll =>
      rw [List.append_assoc]
      exact .brokenHunting hcenters hbefore.rounds hbefore.not_fits hpoll hbroken
  | nail hcenters hbefore hturn =>
      obtain ⟨_, last, rfl, hpoll, hlast, hfits⟩ := hturn.exists_round
      exact .brokenNailing hcenters hbefore.rounds hbefore.not_fits hpoll hlast hfits hbroken

/-! ## What the record shows of it -/

theorem Rounds.polls_eq (h : Rounds s pointing stars centers w calls w') :
    polls calls = centers.length := by
  induction h with
  | nil => rfl
  | cons hpoll hround _ ih =>
      rw [List.cons_append, polls_polled_cons, polls_append, hround.polls_eq_zero, ih,
        Nat.zero_add, List.length_cons]

theorem Rounds.stop_notMem (h : Rounds s pointing stars centers w calls w') :
    .polled true ∉ calls := by
  induction h with
  | nil => exact List.not_mem_nil
  | cons hpoll hround _ ih =>
      intro hstop
      rcases List.mem_append.mp hstop with hfirst | hrest
      · rcases List.mem_cons.mp hfirst with hpolled | hcall
        · cases hpolled
        · exact polled_notMem_of_polls hround.polls_eq_zero true hcall
      · exact ih hrest

/-- Nor does the poll of one more round say stop. -/
theorem Rounds.stop_notMem_append {last : List (Event α)}
    (h : Rounds s pointing stars centers w calls w') (hlast : polls last = 0) :
    .polled true ∉ calls ++ .polled false :: last := by
  intro hstop
  rcases List.mem_append.mp hstop with hhunting | hturn
  · exact h.stop_notMem hhunting
  · rcases List.mem_cons.mp hturn with hpolled | hcall
    · cases hpolled
    · exact polled_notMem_of_polls hlast true hcall

theorem Rounds.answers_nail (h : Rounds s pointing stars centers w calls w') :
    answers .nail calls = [] := by
  induction h with
  | nil => rfl
  | cons hpoll hround _ ih =>
      rw [List.cons_append, answers_polled_cons, answers_append,
        hround.answers_other (by decide), ih, List.nil_append]

theorem Schedule.polls_eq (h : Schedule s pointing stars centers w calls (some outcome) w') :
    polls calls = outcome.candidates + if outcome.isCancelled then 1 else 0 := by
  cases h with
  | accepted hcenters hrounds hunfit hpoll hlast hfits hnail =>
      rw [polls_append, polls_append, polls_polled_cons, hrounds.polls_eq, hlast.polls_eq_zero,
        hnail.polls_eq_zero]
      rfl
  | cancelled hcenters hrounds => rw [polls_append, hrounds.polls_eq]; rfl
  | @aborted _ _ _ _ cause hcenters hrounds hunfit hcause =>
      rw [hrounds.polls_eq]
      cases cause with
      | cancelled => exact absurd rfl hcause
      | _ => rfl
  | exhausted hrounds => rw [hrounds.polls_eq]; rfl

theorem Schedule.eq_nil_of_polled {before after : List (Event α)}
    (h : Schedule s pointing stars centers w calls result w')
    (hcalls : calls = before ++ .polled true :: after) : after = [] := by
  have hmem : .polled true ∈ calls := by
    rw [hcalls]
    exact List.mem_append_right before List.mem_cons_self
  -- Only a cancelled search has such a poll at all.
  cases h with
  | accepted hcenters hrounds hunfit hpoll hlast hfits hnail =>
      exfalso
      rcases List.mem_append.mp hmem with hhunt | hnailing
      · exact hrounds.stop_notMem_append hlast.polls_eq_zero hhunt
      · exact polled_notMem_of_polls hnail.polls_eq_zero true hnailing
  | cancelled hcenters hrounds =>
      rcases split_append hcalls with ⟨rest, hhunting⟩ | ⟨rest, hbefore, hlast⟩
      · exact absurd (hhunting ▸ List.mem_append_right before List.mem_cons_self)
          hrounds.stop_notMem
      · cases rest with
        | nil => exact (List.cons.inj hlast).2.symm
        | cons first rest => simp at hlast
  | aborted hcenters hrounds => exact absurd hmem hrounds.stop_notMem
  | exhausted hrounds => exact absurd hmem hrounds.stop_notMem
  | brokenHunting hcenters hrounds hunfit hpoll hbroken =>
      exact absurd hmem (hrounds.stop_notMem_append (polls_of_isFetch hbroken.isFetch))
  | brokenNailing hcenters hrounds hunfit hpoll hlast hfits hbroken =>
      rcases List.mem_append.mp hmem with hhunt | hnailing
      · exact absurd hhunt (hrounds.stop_notMem_append hlast.polls_eq_zero)
      · exact absurd hnailing (polled_notMem_of_polls (polls_of_isFetch hbroken.isFetch) true)

theorem Schedule.length_answers_nail (h : Schedule s pointing stars centers w calls result w') :
    (answers .nail calls).length ≤ 1 := by
  cases h with
  | accepted hcenters hrounds hunfit hpoll hlast hfits hnail =>
      rw [answers_append, answers_append, answers_polled_cons, hrounds.answers_nail,
        hlast.answers_other (by decide), hnail.answers_eq]
      exact Option.length_toList_le
  | cancelled hcenters hrounds => simp [hrounds.answers_nail]
  | aborted hcenters hrounds => simp [hrounds.answers_nail]
  | exhausted hrounds => simp [hrounds.answers_nail]
  | brokenHunting hcenters hrounds hunfit hpoll hbroken =>
      simp [hrounds.answers_nail, answers_of_isFetch hbroken.isFetch]
  | brokenNailing hcenters hrounds hunfit hpoll hlast hfits hbroken =>
      simp [hrounds.answers_nail, hlast.answers_other, answers_of_isFetch hbroken.isFetch]

theorem Schedule.exists_fits_before {before after : List (Event α)} {request : FitRequest α}
    {answer : FitAnswer α} (h : Schedule s pointing stars centers w calls result w')
    (hcalls : calls = before ++ .registered request answer :: after)
    (hpass : request.pass = .nail) :
    ∃ hunted ∈ answers .hunt before, hunted.Fits s.settings.maxResidual := by
  -- Where nailing gave no answer at all, the call in question cannot be.
  have hnone : ∀ {part rest : List (Event α)}, answers .nail part = [] →
      part ≠ before ++ .registered request answer :: rest := by
    rintro part rest hnil rfl
    simp [hpass] at hnil
  cases h with
  | accepted hcenters hrounds hunfit hpoll hlast hfits hnail =>
      rcases split_append hcalls with ⟨rest, hhunt⟩ | ⟨rest, hbefore, -⟩
      · refine absurd hhunt (hnone ?_)
        rw [answers_append, answers_polled_cons, hrounds.answers_nail,
          hlast.answers_other (by decide), List.nil_append]
      · refine ⟨_, ?_, (Fit.answer_fits _ _).mpr hfits⟩
        rw [hbefore, answers_append, answers_append, answers_polled_cons, hlast.answers_eq]
        exact List.mem_append_left _ (List.mem_append_right _ (List.mem_singleton_self _))
  | cancelled hcenters hrounds =>
      refine absurd hcalls (hnone ?_)
      rw [answers_append, hrounds.answers_nail, answers_polled_cons, answers_nil, List.nil_append]
  | aborted hcenters hrounds => exact absurd hcalls (hnone hrounds.answers_nail)
  | exhausted hrounds => exact absurd hcalls (hnone hrounds.answers_nail)
  | brokenHunting hcenters hrounds hunfit hpoll hbroken =>
      refine absurd hcalls (hnone ?_)
      rw [answers_append, hrounds.answers_nail, answers_polled_cons,
        answers_of_isFetch hbroken.isFetch, List.nil_append]
  | brokenNailing hcenters hrounds hunfit hpoll hlast hfits hbroken =>
      refine absurd hcalls (hnone ?_)
      rw [answers_append, answers_append, answers_polled_cons, hrounds.answers_nail,
        hlast.answers_other (by decide), answers_of_isFetch hbroken.isFetch, List.nil_append,
        List.nil_append]

/-- **The calls of a search keep to a schedule.**  So nothing comes after a poll that
says stop; if the search comes to an outcome, the token is polled once for each candidate
tried, and once more exactly if the search was cancelled, and an acceptable answer of the
hunt is never given up for a cancellation, nor for anything else; and nailing asks the
registrar at most once, and only after such an answer. -/
theorem run_schedule (s : Search σ α) (pointing : Pointing α) (stars : List (ImagePoint α))
    (radius : α) (session : Session σ α) :
    ∃ calls, (s.run pointing stars radius session).2.calls = session.calls ++ calls ∧
      Schedule s pointing stars (s.centers pointing radius) session.world calls
        (s.run pointing stars radius session).1 (s.run pointing stars radius session).2.world ∧
      (∀ before after, calls = before ++ .polled true :: after → after = []) ∧
      (∀ outcome, (s.run pointing stars radius session).1 = some outcome →
        polls calls = outcome.candidates + (if outcome.isCancelled then 1 else 0) ∧
        ∀ answer ∈ answers .hunt calls, answer.Fits s.settings.maxResidual →
          ∃ fit tried nailed, outcome = .accepted fit tried nailed) ∧
      (answers .nail calls).length ≤ 1 ∧
      ∀ before request answer after, calls = before ++ .registered request answer :: after →
        request.pass = .nail →
          ∃ hunted ∈ answers .hunt before, hunted.Fits s.settings.maxResidual := by
  obtain ⟨calls, hcalls, hschedule, hdecided⟩ : ∃ calls,
      (s.run pointing stars radius session).2.calls = session.calls ++ calls ∧
      Schedule s pointing stars (s.centers pointing radius) session.world calls
        (s.run pointing stars radius session).1 (s.run pointing stars radius session).2.world ∧
      ∀ outcome, (s.run pointing stars radius session).1 = some outcome →
        ∃ w', Course s pointing stars radius session.world calls outcome w' := by
    rcases exists_course_or_breakdown s pointing stars radius session.world with
      ⟨calls, outcome, w', hcourse⟩ | ⟨calls, w', hbreakdown⟩
    · obtain ⟨houtcome, hworld, hcalls⟩ := hcourse.yields session rfl
      refine ⟨calls, hcalls, by rw [houtcome, hworld]; exact hcourse.schedule, ?_⟩
      intro found hfound
      obtain rfl := Option.some.inj (houtcome.symm.trans hfound)
      exact ⟨w', hcourse⟩
    · obtain ⟨hnone, hworld, hcalls⟩ := hbreakdown.breaks session rfl
      refine ⟨calls, hcalls, by rw [hnone, hworld]; exact hbreakdown.schedule, ?_⟩
      intro found hfound
      cases hnone.symm.trans hfound
  refine ⟨calls, hcalls, hschedule, ?_, ?_, ?_, ?_⟩
  · intro before after hsplit
    exact hschedule.eq_nil_of_polled hsplit
  · intro outcome houtcome
    obtain ⟨_, hcourse⟩ := hdecided outcome houtcome
    rw [houtcome] at hschedule
    refine ⟨hschedule.polls_eq, ?_⟩
    intro answer hanswer hfits
    exact hcourse.accepted_iff.mpr ⟨answer, hanswer, hfits⟩
  · exact hschedule.length_answers_nail
  · intro before request answer after hsplit hpass
    exact hschedule.exists_fits_before hsplit hpass

end Search

end PlateSolver
