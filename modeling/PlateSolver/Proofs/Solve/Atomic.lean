import PlateSolver.Proofs.Image.Cards
import PlateSolver.Proofs.Search.Nailing
import PlateSolver.Proofs.Solve.Stages

/-!
# All or nothing

A solve reads the header of an image and may end in many ways before it writes to it.
`solve_atomic` says that it never leaves an image half solved: unless the solve succeeds,
the image is the very one it was given, and if it does, its header has the nine cards of
the solution it reports, and everything else is as it was.  A solve with a call that breaks
off comes to nothing at all, before it writes.

* `Plate.updated` — the image after a solve, given the result.
* `Stages.solve_ends` — a solve updates its image, and calls nobody to do so.
* `Stages.exists_registered` — a reported fit is an answer that the registrar gave.
* `solve_atomic` — what a solve does to an image.

The solution in the header is not just the reported one.  It was accepted by the registrar
in this very solve: the record has the request it is the answer to.
-/

namespace PlateSolver

open SearchM

variable {σ α : Type} [Analytic α]

/-- An image after a solve: with the reported solution written, or as it was. -/
def Plate.updated (plate : Plate α) : Except (SolveError α) (Summary α) → Plate α
  | .ok summary => { plate with header := summary.fit.solution.write plate.header }
  | .error _ => plate

theorem Plate.updated_raster (plate : Plate α) (result : Except (SolveError α) (Summary α)) :
    (plate.updated result).raster = plate.raster := by
  cases result <;> rfl

theorem Search.Course.exists_registered {s : Search σ α} {pointing : Pointing α}
    {stars : List (ImagePoint α)} {radius : α} {w w' : σ} {calls : List (Event α)}
    {outcome : Outcome α} {fit : Fit α} {tried : Nat} {nailed : Bool}
    (h : Course s pointing stars radius w calls outcome w')
    (houtcome : outcome = .accepted fit tried nailed) :
    ∃ request, .registered request fit.answer ∈ calls := by
  obtain ⟨-, hnailed, hhunted, -⟩ := h.accepted_spec houtcome
  have hanswer : ∃ pass, fit.answer ∈ answers pass calls := by
    cases nailed with
    | true =>
        refine ⟨.nail, ?_⟩
        rw [hnailed rfl]
        exact List.mem_singleton_self _
    | false => exact ⟨.hunt, List.mem_of_getLast? (hhunted rfl)⟩
  obtain ⟨pass, hmem⟩ := hanswer
  obtain ⟨request, hregistered, -⟩ := mem_answers_iff.mp hmem
  exact ⟨request, hregistered⟩

namespace Solver

variable [Readable α] {solver : Solver σ α} {options : SolveOptions α} {plate : Plate α} {w w' : σ}
  {calls : List (Event α)} {result : Option (Except (SolveError α) (Summary α))}

theorem Stages.solve_ends (h : Stages solver options plate w calls result w') :
    Ends (solver.solve options plate) w calls
      (result.map fun report => (report, plate.updated report)) w' := by
  cases result with
  | none => exact Breaks.bind h.ends _
  | some report =>
      refine Yields.bind_pure h.ends ?_
      cases report <;> rfl

theorem Stages.exists_registered {summary : Summary α}
    (h : Stages solver options plate w calls result w') (hresult : result = some (.ok summary)) :
    ∃ request, .registered request summary.fit.answer ∈ calls := by
  cases h with
  | tooFewStars => cases hresult
  | unmeasured => cases hresult
  | unpointed => cases hresult
  | unsearched => cases hresult
  | @searched _ _ _ _ measuring _ _ _ outcome hfound henough hmeasured hpointing hcourse =>
      cases outcome with
      | accepted fit tried nailed =>
          cases hresult
          obtain ⟨request, hregistered⟩ := hcourse.exists_registered rfl
          refine ⟨request, List.mem_cons_of_mem _ ?_⟩
          exact List.mem_append_right measuring hregistered
      | exhausted => cases hresult
      | aborted => cases hresult

/-- **A solve is atomic.**  It comes to a result if its calls are answered, and it never changes
a pixel.  If it fails, for whatever reason, the image is the one it was given.  If it succeeds,
the header carries the reported solution, which is an answer that the registrar gave in this
solve, and has every other card as it was, whatever the spelling of its keyword. -/
theorem solve_atomic (solver : Solver σ α) (options : SolveOptions α) (plate : Plate α)
    (session : Session σ α) :
    ∃ calls, (solver.solve options plate session).2.calls = session.calls ++ calls ∧
      (solver.Answers plate.raster → (solver.solve options plate session).1 ≠ none) ∧
      ∀ result after, (solver.solve options plate session).1 = some (result, after) →
        after.raster = plate.raster ∧
        (∀ error, result = .error error → after = plate) ∧
        ∀ summary, result = .ok summary →
          after.header.Carries summary.fit.solution ∧
          (∀ key, Header.keyword key ∉ Solution.keywords →
            after.header.get? key = plate.header.get? key) ∧
          ∃ request, .registered request summary.fit.answer ∈ calls := by
  obtain ⟨calls, report?, w', hstages⟩ := exists_stages solver options plate session.world
  obtain ⟨hresult, -, hcalls⟩ := hstages.solve_ends session rfl
  refine ⟨calls, hcalls, fun hanswers hnone => ?_, fun result after hsolve => ?_⟩
  · rw [hresult, Option.map_eq_none_iff] at hnone
    exact hstages.result_ne_none hanswers hnone
  · obtain ⟨_, rfl, heq⟩ := Option.map_eq_some_iff.mp (hresult.symm.trans hsolve)
    obtain ⟨rfl, rfl⟩ := Prod.mk.inj heq
    refine ⟨plate.updated_raster _, ?_, ?_⟩
    · rintro error rfl
      rfl
    · rintro summary rfl
      refine ⟨Solution.write_carries _ _, ?_, hstages.exists_registered rfl⟩
      intro key hkey
      exact Solution.get?_write_of_notMem hkey _ _

end Solver

end PlateSolver
