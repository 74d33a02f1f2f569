import PlateSolver.Proofs.Search.Round

/-!
# Nailing refines and never loses

Once a fit is acceptable the search is as good as won.  It asks the catalogs and the
registrar once more, at the position it found and with all image stars, and whatever
they say then — no match, a worse fit, a catalog that is gone, no memory — the fit it
has stays.  `run_nail_refines` says what an accepted search hands out: one answer of
the registrar, whole and within the limit, from nailing if that gave one and from the
hunt if not.  Only a catalog that breaks off keeps such a search from an outcome at all.

* `answers_hunt_of_accepted`, `answers_nail_of_accepted` — the answers in the record of a
  course that was accepted.
* `Course.accepted_iff` — a search is accepted exactly if the hunt met an acceptable answer.
* `Course.accepted_spec` — what it hands out then.
* `run_nail_refines` — both, for every search.

A fit is never put together from two answers: `Fit.answer` is all of one, its
solution with both of its residuals, and the record is asked for that very answer.
-/

namespace PlateSolver.Search

variable {σ α : Type} [Analytic α] {s : Search σ α} {pointing : Pointing α}
  {stars : List (ImagePoint α)} {radius : α} {w w' : σ} {calls : List (Event α)}
  {outcome : Outcome α}

section Accepted

variable {before : List (α × α)} {center : α × α} {rejecting turning nailing : List (Event α)}
  {w₁ w₂ w₃ : σ} {hunted : Fit α} {result : Except (Setback α) (Fit α)}

theorem answers_hunt_of_accepted
    (hturn : Turn s pointing stars center w₁ turning (.ok hunted) w₂)
    (hnail : Trial s (s.candidateOf hunted) stars .nail w₂ nailing result w₃) :
    answers .hunt (rejecting ++ (turning ++ nailing)) =
      answers .hunt rejecting ++ [hunted.answer] := by
  have hhunt : answers .hunt turning = [hunted.answer] := hturn.answers_of_ok.1
  have hrest : answers .hunt nailing = [] := hnail.answers_other (by decide)
  rw [answers_append, answers_append, hhunt, hrest, List.append_nil]

theorem answers_nail_of_accepted
    (hbefore : Rejections s pointing stars before w rejecting w₁)
    (hturn : Turn s pointing stars center w₁ turning (.ok hunted) w₂) :
    answers .nail (rejecting ++ (turning ++ nailing)) = answers .nail nailing := by
  rw [answers_append, answers_append, hbefore.answers_nail, hturn.answers_nail,
    List.nil_append, List.nil_append]

end Accepted

/-- Without an acceptable answer of the hunt, what is not accepted is rightly so. -/
theorem accepted_iff_of_not_fits
    (haccepted : ∀ fit tried nailed, outcome ≠ .accepted fit tried nailed)
    (hunfit : ∀ answer ∈ answers .hunt calls, ¬ answer.Fits s.settings.maxResidual) :
    (∃ fit tried nailed, outcome = .accepted fit tried nailed) ↔
      ∃ answer ∈ answers .hunt calls, answer.Fits s.settings.maxResidual := by
  apply iff_of_false
  · rintro ⟨fit, tried, nailed, houtcome⟩
    exact haccepted fit tried nailed houtcome
  · rintro ⟨answer, hanswer, hfits⟩
    exact hunfit answer hanswer hfits

/-- **A search is accepted exactly if the hunt has met an acceptable answer.** -/
theorem Course.accepted_iff (h : Course s pointing stars radius w calls outcome w') :
    (∃ fit tried nailed, outcome = .accepted fit tried nailed) ↔
      ∃ answer ∈ answers .hunt calls, answer.Fits s.settings.maxResidual := by
  cases h with
  | @accepted _ _ _ _ _ _ _ _ _ hunted result hcenters hbefore hturn hnail =>
      apply iff_of_true
      · obtain ⟨kept, nailed, hsettled⟩ := exists_settled_eq hunted (_ + 1) result
        exact ⟨kept, _, nailed, hsettled⟩
      · refine ⟨hunted.answer, ?_, hturn.answers_of_ok.2⟩
        rw [answers_hunt_of_accepted hturn hnail]
        exact List.mem_append_right _ (List.mem_singleton_self _)
  | aborted hcenters hbefore hturn =>
      apply accepted_iff_of_not_fits
      · intro _ _ _ haccepted
        cases haccepted
      · exact hbefore.not_fits_append hturn
  | cancelled hcenters hbefore hpoll =>
      apply accepted_iff_of_not_fits
      · intro _ _ _ haccepted
        cases haccepted
      · rw [answers_append, answers_polled_cons, answers_nil, List.append_nil]
        exact hbefore.not_fits
  | exhausted hall =>
      apply accepted_iff_of_not_fits
      · intro _ _ _ haccepted
        cases haccepted
      · exact hall.not_fits

/-- **What an accepted search hands out** is one whole answer within the limit: the one
from nailing if that is acceptable, and else the last one of the hunt. -/
theorem Course.accepted_spec {fit : Fit α} {tried : Nat} {nailed : Bool}
    (h : Course s pointing stars radius w calls outcome w')
    (houtcome : outcome = .accepted fit tried nailed) :
    fit.residual ≤ s.settings.maxResidual ∧
      (nailed = true → answers .nail calls = [fit.answer]) ∧
      (nailed = false → (answers .hunt calls).getLast? = some fit.answer) ∧
      (nailed = false ↔
        ∀ answer ∈ answers .nail calls, ¬ answer.Fits s.settings.maxResidual) := by
  cases h with
  | @accepted _ _ _ _ _ _ _ _ _ hunted result hcenters hbefore hturn hnail =>
      rw [answers_hunt_of_accepted hturn hnail, answers_nail_of_accepted hbefore hturn]
      cases result with
      | ok better =>
          cases houtcome
          obtain ⟨hanswers, hlimit⟩ := hnail.answers_of_ok
          refine ⟨hlimit, fun _ => hanswers, Bool.noConfusion, iff_of_false Bool.noConfusion ?_⟩
          intro hnone
          exact hnone fit.answer (hanswers ▸ List.mem_singleton_self _) hlimit
      | error setback =>
          cases houtcome
          refine ⟨hturn.answers_of_ok.2, Bool.noConfusion, fun _ => List.getLast?_concat, ?_⟩
          exact iff_of_true rfl hnail.not_fits_of_error
  | aborted => cases houtcome
  | cancelled => cases houtcome
  | exhausted => cases houtcome

/-- **Nailing can only refine.**  A search that comes to an outcome is accepted exactly if the
registrar gave an acceptable answer in the hunt, so nothing that nailing meets can take that
back.  What it hands out has a residual within the limit and is, as a whole, the registrar's one
answer to nailing if it says `nailed`, and its last answer in the hunt if not; and it
does not say `nailed` exactly if nailing gave no acceptable answer. -/
theorem run_nail_refines (s : Search σ α) (pointing : Pointing α) (stars : List (ImagePoint α))
    (radius : α) (session : Session σ α) :
    ∃ calls, (s.run pointing stars radius session).2.calls = session.calls ++ calls ∧
      (∀ outcome, (s.run pointing stars radius session).1 = some outcome →
        ((∃ fit tried nailed, outcome = .accepted fit tried nailed) ↔
          ∃ answer ∈ answers .hunt calls, answer.Fits s.settings.maxResidual)) ∧
      ∀ fit tried nailed,
        (s.run pointing stars radius session).1 = some (.accepted fit tried nailed) →
          fit.residual ≤ s.settings.maxResidual ∧
          (nailed = true → answers .nail calls = [fit.answer]) ∧
          (nailed = false → (answers .hunt calls).getLast? = some fit.answer) ∧
          (nailed = false ↔
            ∀ answer ∈ answers .nail calls, ¬ answer.Fits s.settings.maxResidual) := by
  rcases exists_course_or_breakdown s pointing stars radius session.world with
    ⟨calls, outcome, w', hcourse⟩ | ⟨calls, w', hbreakdown⟩
  · obtain ⟨houtcome, -, hcalls⟩ := hcourse.yields session rfl
    refine ⟨calls, hcalls, ?_, ?_⟩
    · intro found hfound
      obtain rfl := Option.some.inj (houtcome.symm.trans hfound)
      exact hcourse.accepted_iff
    · intro fit tried nailed haccepted
      exact hcourse.accepted_spec (Option.some.inj (houtcome.symm.trans haccepted))
  · obtain ⟨hnone, -, hcalls⟩ := hbreakdown.breaks session rfl
    refine ⟨calls, hcalls, ?_, ?_⟩
    · intro found hfound
      cases hnone.symm.trans hfound
    · intro fit tried nailed haccepted
      cases hnone.symm.trans haccepted

end PlateSolver.Search
