import PlateSolver.Proofs.Search.Course

/-!
# Rounds: the calls about one candidate

Whatever becomes of a candidate, the calls about it are few and in one order: the
secondary catalog, if there is one and it is wanted; the primary catalog, unless the
secondary one has run out of memory; the registrar, if the primary catalog has
answered and there are enough entries.  Such a *round* is all that a record of calls
ever shows of a candidate, in the hunt and in nailing alike.

* `Event.isFetch`, `Event.isPoll`, `polls`, `answers` — what a record shows.
* `FitAnswer.Fits`, `Fit.answer` — an acceptable answer, and the answer that a fit was.
* `Search.Round` — the calls about a candidate, and the registrar's answer.
* `Trial.exists_round` — a trial is a round, and its result is what the answer means.
* `Trial.answers_of_ok`, `Trial.not_fits_of_error`, `Rejections.not_fits` — which
  answers a record shows.

A trial tells nine ways apart, of which a round keeps three.  What is said of all
calls of a search needs no more than that, and what is said of the answers needs only
that the result of a trial is the judgement on the one answer in its record.
-/

namespace PlateSolver

variable {σ α : Type}

/-! ## Reading a record -/

/-- Whether an event is a question to a catalog. -/
def Event.isFetch : Event α → Bool
  | .fetched .. => true
  | _ => false

/-- Whether an event is a poll of the token. -/
def Event.isPoll : Event α → Bool
  | .polled _ => true
  | _ => false

/-- The registrar's answer, if an event is a call to it in the given stage. -/
def Event.answer? (pass : Pass) : Event α → Option (FitAnswer α)
  | .registered request answer => if request.pass = pass then some answer else none
  | _ => none

/-- How often the token was polled. -/
def polls (calls : List (Event α)) : Nat := calls.countP Event.isPoll

/-- The registrar's answers in a stage, in order. -/
def answers (pass : Pass) (calls : List (Event α)) : List (FitAnswer α) :=
  calls.filterMap (Event.answer? pass)

/-- An event at some place of a record that comes in two parts is in the first part, or
at the corresponding place of the second. -/
theorem split_append {calls more before after : List (Event α)} {event : Event α}
    (h : calls ++ more = before ++ event :: after) :
    (∃ rest, calls = before ++ event :: rest) ∨
      ∃ rest, before = calls ++ rest ∧ more = rest ++ event :: after := by
  rcases List.append_eq_append_iff.mp h with ⟨rest, hbefore, hmore⟩ | ⟨rest, hcalls, hevent⟩
  · exact Or.inr ⟨rest, hbefore, hmore⟩
  · cases rest with
    | nil => exact Or.inr ⟨[], by rw [hcalls, List.append_nil, List.append_nil], hevent.symm⟩
    | cons first rest =>
        obtain ⟨rfl, -⟩ := List.cons.inj hevent
        exact Or.inl ⟨rest, hcalls⟩

section Record

variable {pass : Pass} {calls : List (Event α)} {answer : FitAnswer α}

@[simp] theorem polls_nil : polls ([] : List (Event α)) = 0 := rfl

@[simp] theorem polls_append (calls more : List (Event α)) :
    polls (calls ++ more) = polls calls + polls more :=
  List.countP_append

@[simp] theorem polls_polled_cons (stop : Bool) (calls : List (Event α)) :
    polls (.polled stop :: calls) = polls calls + 1 :=
  List.countP_cons_of_pos rfl

@[simp] theorem polls_registered_cons (request : FitRequest α) (answer : FitAnswer α)
    (calls : List (Event α)) : polls (.registered request answer :: calls) = polls calls :=
  List.countP_cons_of_neg Bool.false_ne_true

@[simp] theorem answers_nil (pass : Pass) : answers pass ([] : List (Event α)) = [] := rfl

@[simp] theorem answers_append (pass : Pass) (calls more : List (Event α)) :
    answers pass (calls ++ more) = answers pass calls ++ answers pass more :=
  List.filterMap_append

@[simp] theorem answers_polled_cons (pass : Pass) (stop : Bool) (calls : List (Event α)) :
    answers pass (.polled stop :: calls) = answers pass calls := rfl

@[simp] theorem answers_registered_cons (pass : Pass) (request : FitRequest α)
    (answer : FitAnswer α) (calls : List (Event α)) :
    answers pass (.registered request answer :: calls) =
      if request.pass = pass then answer :: answers pass calls else answers pass calls := by
  by_cases hpass : request.pass = pass <;> simp [answers, Event.answer?, hpass]

theorem mem_answers_iff :
    answer ∈ answers pass calls ↔ ∃ request, .registered request answer ∈ calls ∧
      request.pass = pass := by
  rw [answers, List.mem_filterMap]
  constructor
  · rintro ⟨event, hevent, hanswer⟩
    cases event with
    | registered request given =>
        rw [Event.answer?, Option.ite_none_right_eq_some, Option.some.injEq] at hanswer
        obtain ⟨hpass, rfl⟩ := hanswer
        exact ⟨request, hevent, hpass⟩
    | _ => cases hanswer
  · rintro ⟨request, hevent, hpass⟩
    exact ⟨_, hevent, if_pos hpass⟩

theorem polls_of_isFetch (h : ∀ event ∈ calls, event.isFetch = true) : polls calls = 0 := by
  rw [polls, List.countP_eq_zero]
  intro event hevent
  cases event with
  | fetched => exact Bool.false_ne_true
  | _ => exact absurd (h _ hevent) Bool.false_ne_true

theorem answers_of_isFetch (h : ∀ event ∈ calls, event.isFetch = true) (pass : Pass) :
    answers pass calls = [] := by
  rw [answers, List.filterMap_eq_nil_iff]
  intro event hevent
  cases event with
  | fetched => rfl
  | _ => exact absurd (h _ hevent) Bool.false_ne_true

end Record

/-- **An acceptable answer**: a fit, with a residual within the limit. -/
def FitAnswer.Fits [Scalar α] (limit : α) : FitAnswer α → Prop
  | .accepted _ residual _ => residual ≤ limit
  | _ => False

/-- The registrar's answer that a fit was, as a whole. -/
def Fit.answer (fit : Fit α) : FitAnswer α :=
  .accepted fit.solution fit.residual fit.higherOrder

@[simp] theorem Fit.answer_fits [Scalar α] (limit : α) (fit : Fit α) :
    fit.answer.Fits limit ↔ fit.residual ≤ limit := Iff.rfl

namespace Search

section Rounds

variable [Scalar α]

/-- An answer becomes a fit exactly if it is acceptable, and then nothing of it changes. -/
theorem judge_eq_ok_iff {limit : α} {answer : FitAnswer α} {fit : Fit α} :
    judge limit answer = .ok fit ↔ answer = fit.answer ∧ fit.residual ≤ limit := by
  cases answer with
  | accepted solution residual higherOrder =>
      by_cases hlimit : residual ≤ limit
      · simp only [judge, if_pos hlimit, Except.ok.injEq]
        constructor
        · rintro rfl
          exact ⟨rfl, hlimit⟩
        · rintro ⟨hanswer, -⟩
          cases hanswer
          rfl
      · simp only [judge, if_neg hlimit, reduceCtorEq, false_iff, not_and]
        rintro hanswer hfit
        cases hanswer
        exact hlimit hfit
  | rejected => simp [judge, Fit.answer]
  | fatal reason => simp [judge, Fit.answer]

theorem not_fits_of_judge {limit : α} {answer : FitAnswer α} {setback : Setback α}
    (h : judge limit answer = .error setback) : ¬ answer.Fits limit := by
  intro hfits
  cases answer with
  | accepted solution residual higherOrder =>
      have hlimit : residual ≤ limit := hfits
      rw [judge, if_pos hlimit] at h
      cases h
  | rejected => exact hfits
  | fatal reason => exact hfits

/-- **A round of calls about a candidate**, with the registrar's answer if it came to
that.  Nobody is asked after a secondary catalog without memory, and the registrar is
not asked unless the primary catalog has answered and there are enough entries. -/
inductive Round (s : Search σ α) (candidate : Candidate α) (stars : List (ImagePoint α))
    (pass : Pass) : σ → List (Event α) → Option (FitAnswer α) → σ → Prop
  | cutShort {w w' : σ} {catalog : Catalog σ α} {found : Accumulator α}
      (hasks : s.Asks catalog)
      (hfetch : catalog.fetch (fieldOf candidate) s.settings.secondaryLimit .empty w =
        (some (.error (.scan .outOfMemory), found), w')) :
      Round s candidate stars pass w
        [.fetched .secondary (fieldOf candidate) s.settings.secondaryLimit .empty
          (.error (.scan .outOfMemory))] none w'
  | unregistered {w w' : σ} {calls : List (Event α)} {answer : Except (CatalogError α) Nat}
      {merged : Accumulator α}
      (hfetched : Fetched s (fieldOf candidate) w calls answer merged w')
      (hfew : ∀ count, answer = .ok count → merged.size < s.settings.minPair) :
      Round s candidate stars pass w calls none w'
  | registered {w w' : σ} {calls : List (Event α)} {answer : FitAnswer α}
      (hregistered : Registered s candidate stars pass w calls answer w') :
      Round s candidate stars pass w calls (some answer) w'

variable {s : Search σ α} {candidate : Candidate α} {stars : List (ImagePoint α)} {pass : Pass}
  {w w' : σ} {calls : List (Event α)}

omit [Scalar α] in
theorem Prepared.isFetch {cone : Cone α} {given : Accumulator α}
    (h : Prepared s cone w calls given w') : ∀ event ∈ calls, event.isFetch = true := by
  cases h with
  | unasked => intro event hevent; cases hevent
  | asked =>
      intro event hevent
      rw [List.mem_singleton.mp hevent]
      rfl

omit [Scalar α] in
theorem Fetched.isFetch {cone : Cone α} {answer : Except (CatalogError α) Nat}
    {merged : Accumulator α} (h : Fetched s cone w calls answer merged w') :
    ∀ event ∈ calls, event.isFetch = true := by
  obtain ⟨hprepared, -⟩ := h
  intro event hevent
  rcases List.mem_append.mp hevent with hbefore | hlast
  · exact hprepared.isFetch event hbefore
  · rw [List.mem_singleton.mp hlast]
    rfl

/-- Before a catalog breaks off, only catalogs were asked. -/
theorem Broken.isFetch (h : Broken s candidate w calls w') :
    ∀ event ∈ calls, event.isFetch = true := by
  cases h with
  | secondary => intro event hevent; cases hevent
  | primary hprepared => exact hprepared.isFetch

theorem Round.polls_eq_zero {answer? : Option (FitAnswer α)}
    (h : Round s candidate stars pass w calls answer? w') : polls calls = 0 := by
  cases h with
  | cutShort => rfl
  | unregistered hfetched => exact polls_of_isFetch hfetched.isFetch
  | registered hregistered =>
      obtain ⟨hfetched, -, -⟩ := hregistered
      simp [polls_of_isFetch hfetched.isFetch]

theorem Round.answers_eq {answer? : Option (FitAnswer α)}
    (h : Round s candidate stars pass w calls answer? w') :
    answers pass calls = answer?.toList := by
  cases h with
  | cutShort => rfl
  | unregistered hfetched => exact answers_of_isFetch hfetched.isFetch pass
  | registered hregistered =>
      obtain ⟨hfetched, -, -⟩ := hregistered
      simp [answers_of_isFetch hfetched.isFetch, request]

theorem Round.answers_other {answer? : Option (FitAnswer α)} {other : Pass}
    (h : Round s candidate stars pass w calls answer? w') (hother : pass ≠ other) :
    answers other calls = [] := by
  cases h with
  | cutShort => rfl
  | unregistered hfetched => exact answers_of_isFetch hfetched.isFetch other
  | registered hregistered =>
      obtain ⟨hfetched, -, -⟩ := hregistered
      simp [answers_of_isFetch hfetched.isFetch, request, hother]

/-- **A trial is a round**, and its result is the judgement on the registrar's answer,
or a setback if there is none. -/
theorem Trial.exists_round {result : Except (Setback α) (Fit α)}
    (h : Trial s candidate stars pass w calls result w') :
    ∃ answer?, Round s candidate stars pass w calls answer? w' ∧
      match answer? with
      | some answer => judge s.settings.maxResidual answer = result
      | none => ∃ setback, result = .error setback := by
  cases h with
  | secondaryOutOfMemory hasks hfetch => exact ⟨none, .cutShort hasks hfetch, _, rfl⟩
  | primaryOutOfMemory hfetched | primaryUnavailable hfetched | primaryFailed hfetched =>
      exact ⟨none, .unregistered hfetched (fun _ h => nomatch h), _, rfl⟩
  | tooFewEntries hfetched hfew => exact ⟨none, .unregistered hfetched (fun _ _ => hfew), _, rfl⟩
  | registrarFatal hregistered => exact ⟨some _, .registered hregistered, rfl⟩
  | noMatch hregistered => exact ⟨some _, .registered hregistered, rfl⟩
  | imprecise hregistered hlimit => exact ⟨some _, .registered hregistered, if_neg hlimit⟩
  | fit hregistered hlimit => exact ⟨some _, .registered hregistered, if_pos hlimit⟩

theorem Trial.answers_other {result : Except (Setback α) (Fit α)} {other : Pass}
    (h : Trial s candidate stars pass w calls result w') (hother : pass ≠ other) :
    answers other calls = [] := by
  obtain ⟨answer?, hround, -⟩ := h.exists_round
  exact hround.answers_other hother

theorem Trial.answers_of_ok {fit : Fit α} (h : Trial s candidate stars pass w calls (.ok fit) w') :
    answers pass calls = [fit.answer] ∧ fit.residual ≤ s.settings.maxResidual := by
  obtain ⟨answer?, hround, hresult⟩ := h.exists_round
  cases answer? with
  | none =>
      obtain ⟨setback, herror⟩ := hresult
      cases herror
  | some answer =>
      obtain ⟨rfl, hlimit⟩ := judge_eq_ok_iff.mp hresult
      exact ⟨hround.answers_eq, hlimit⟩

theorem Trial.not_fits_of_error {setback : Setback α}
    (h : Trial s candidate stars pass w calls (.error setback) w') :
    ∀ answer ∈ answers pass calls, ¬ answer.Fits s.settings.maxResidual := by
  obtain ⟨answer?, hround, hresult⟩ := h.exists_round
  rw [hround.answers_eq]
  intro answer hanswer
  cases answer? with
  | none => cases hanswer
  | some given =>
      rw [Option.toList_some, List.mem_singleton] at hanswer
      rw [hanswer]
      exact not_fits_of_judge hresult

end Rounds

/-! ## Candidates of the hunt -/

section Hunt

variable [Analytic α] {s : Search σ α} {pointing : Pointing α} {stars : List (ImagePoint α)}
  {center : α × α} {centers : List (α × α)} {w w' : σ} {calls : List (Event α)}

theorem Turn.answers_of_ok {fit : Fit α} (h : Turn s pointing stars center w calls (.ok fit) w') :
    answers .hunt calls = [fit.answer] ∧ fit.residual ≤ s.settings.maxResidual := by
  obtain ⟨-, htrial⟩ := h
  exact htrial.answers_of_ok

theorem Turn.not_fits_of_error {setback : Setback α}
    (h : Turn s pointing stars center w calls (.error setback) w') :
    ∀ answer ∈ answers .hunt calls, ¬ answer.Fits s.settings.maxResidual := by
  obtain ⟨-, htrial⟩ := h
  exact htrial.not_fits_of_error

theorem Turn.answers_nail {result : Except (Setback α) (Fit α)}
    (h : Turn s pointing stars center w calls result w') : answers .nail calls = [] := by
  obtain ⟨-, htrial⟩ := h
  exact htrial.answers_other (by decide)

theorem Rejections.not_fits (h : Rejections s pointing stars centers w calls w') :
    ∀ answer ∈ answers .hunt calls, ¬ answer.Fits s.settings.maxResidual := by
  induction h with
  | nil => intro answer hanswer; cases hanswer
  | cons hturn _ ih =>
      intro answer hanswer
      rw [answers_append] at hanswer
      rcases List.mem_append.mp hanswer with hfirst | hrest
      · exact hturn.not_fits_of_error answer hfirst
      · exact ih answer hrest

theorem Rejections.not_fits_append {w₁ : σ} {last : List (Event α)} {setback : Setback α}
    (hbefore : Rejections s pointing stars centers w calls w₁)
    (hturn : Turn s pointing stars center w₁ last (.error setback) w') :
    ∀ answer ∈ answers .hunt (calls ++ last), ¬ answer.Fits s.settings.maxResidual := by
  intro answer hanswer
  rw [answers_append] at hanswer
  rcases List.mem_append.mp hanswer with hrejected | hlast
  · exact hbefore.not_fits answer hrejected
  · exact hturn.not_fits_of_error answer hlast

theorem Rejections.answers_nail (h : Rejections s pointing stars centers w calls w') :
    answers .nail calls = [] := by
  induction h with
  | nil => rfl
  | cons hturn _ ih => rw [answers_append, hturn.answers_nail, ih, List.nil_append]

end Hunt

end Search

end PlateSolver
