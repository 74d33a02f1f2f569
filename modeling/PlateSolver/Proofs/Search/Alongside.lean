import Mathlib.Data.List.Forall2
import PlateSolver.Proofs.Catalog.Accumulator
import PlateSolver.Proofs.Search.Round

/-!
# Two searches side by side

Two searches of the same settings may work with different collaborators and still take
the same course, as long as each finds the same answers at the same time.  How they come
to find them does not matter, and neither does what the secondary catalogs are asked:
what counts of those is the accumulator they leave to the primary catalog.

* `Event.Alike`, `RecordsAlike`, `RunsAlike` — two calls, two records of calls and two runs
  that are the same but for the secondary catalog.
* `Search.withTeam` — a search with other collaborators.
* `Search.Alongside` — what two teams have to have in common.
* `Alongside.trial`, `Alongside.rejections`, `Alongside.course` — what two searches have in
  common then: every trial, every candidate rejected, and the whole course.
* `Search.BreaksAlongside` — they break off at the same time, too.
* `Alongside.runsAlike_of_outcome`, `Alongside.runsAlike` — their outcomes are the same and
  their records alike.

The worlds of the two searches need not be the same.  All that is asked of them is that
they stay related, and the relation is what carries the induction over the candidates.
-/

namespace PlateSolver

variable {σ τ α : Type}

/-! ## Records -/

/-- Whether an event is a question to the secondary catalog. -/
def Event.isSecondary : Event α → Bool
  | .fetched .secondary .. => true
  | _ => false

/-- The calls of a record that are not questions to the secondary catalog. -/
def withoutSecondary (calls : List (Event α)) : List (Event α) :=
  calls.filter fun event => !event.isSecondary

/-- **Two calls that are alike**: the same question with the same answer, the primary catalog
being given accumulators that are alike. -/
inductive Event.Alike (alike : Accumulator α → Accumulator α → Prop) : Event α → Event α → Prop
  | polled (stop : Bool) : Event.Alike alike (.polled stop) (.polled stop)
  | fetched {given other : Accumulator α} (cone : Cone α) (limit : α)
      (answer : Except (CatalogError α) Nat) (hgiven : alike given other) :
      Event.Alike alike (.fetched .primary cone limit given answer)
        (.fetched .primary cone limit other answer)
  | registered (request : FitRequest α) (answer : FitAnswer α) :
      Event.Alike alike (.registered request answer) (.registered request answer)

/-- **Two records that are alike**, call by call, questions to the secondary catalog left
out on either side. -/
def RecordsAlike (alike : Accumulator α → Accumulator α → Prop)
    (calls others : List (Event α)) : Prop :=
  List.Forall₂ (Event.Alike alike) (withoutSecondary calls) (withoutSecondary others)

/-- **Two runs that are alike**: from the sessions in which they begin they come to the same
outcome, or break off both, by records that are alike. -/
def RunsAlike (alike : Accumulator α → Accumulator α → Prop) (session : Session σ α)
    (otherSession : Session τ α) (run : Option (Outcome α) × Session σ α)
    (otherRun : Option (Outcome α) × Session τ α) : Prop :=
  run.1 = otherRun.1 ∧ ∃ calls others, run.2.calls = session.calls ++ calls ∧
    otherRun.2.calls = otherSession.calls ++ others ∧ RecordsAlike alike calls others

section Records

variable {alike : Accumulator α → Accumulator α → Prop} {calls others more further : List (Event α)}

theorem RecordsAlike.nil : RecordsAlike alike [] [] := List.Forall₂.nil

theorem RecordsAlike.append (h : RecordsAlike alike calls others)
    (hmore : RecordsAlike alike more further) :
    RecordsAlike alike (calls ++ more) (others ++ further) := by
  unfold RecordsAlike withoutSecondary
  rw [List.filter_append, List.filter_append]
  exact List.rel_append h hmore

theorem Event.Alike.records {event other : Event α} (h : event.Alike alike other) :
    RecordsAlike alike [event] [other] := by
  cases h with
  | polled stop => exact .cons (.polled stop) .nil
  | fetched cone limit answer hgiven => exact .cons (.fetched cone limit answer hgiven) .nil
  | registered request answer => exact .cons (.registered request answer) .nil

theorem RecordsAlike.of_isSecondary (hcalls : ∀ event ∈ calls, event.isSecondary = true)
    (hothers : ∀ event ∈ others, event.isSecondary = true) :
    RecordsAlike alike calls others := by
  have hnone : ∀ {record : List (Event α)}, (∀ event ∈ record, event.isSecondary = true) →
      withoutSecondary record = [] := by
    intro record hrecord
    unfold withoutSecondary
    rw [List.filter_eq_nil_iff]
    intro event hevent
    rw [hrecord event hevent]
    exact Bool.false_ne_true
  unfold RecordsAlike
  rw [hnone hcalls, hnone hothers]
  exact .nil

theorem Search.Prepared.isSecondary {s : Search σ α} {cone : Cone α} {w w' : σ}
    {given : Accumulator α} (h : Prepared s cone w calls given w') :
    ∀ event ∈ calls, event.isSecondary = true := by
  intro event hevent
  cases h with
  | unasked => cases hevent
  | asked =>
      rw [List.mem_singleton.mp hevent]
      rfl

end Records

namespace Search

/-- A search with other collaborators, in a world of their own. -/
def withTeam (s : Search σ α) (team : Collaborators τ α) (wantSecondary : Bool) : Search τ α where
  team := team
  settings := s.settings
  wantSecondary := wantSecondary
  verbose := s.verbose
  width := s.width
  height := s.height

/-- **What two teams have in common** if one can take the other's place: in worlds that are
related, the token, the primary catalog and the registrar answer the same and leave worlds
that are related, and so do the secondary catalogs as far as the primary one gets to see it.
Of the secondary catalog this is asked only where its answer is one of those allowed for, and
of both only where they answer at all. -/
structure Alongside (alike : Accumulator α → Accumulator α → Prop) (related : σ → τ → Prop)
    (allowed : Event α → Prop) (s : Search σ α) (t : Search τ α) : Prop where
  /-- Nothing but the team is different. -/
  same : ∃ team want, t = s.withTeam team want ∧ team.primary.name = s.team.primary.name
  /-- Polls have the same answer. -/
  cancelled : ∀ {stop w w' v}, related w v → s.team.cancelled w = (stop, w') →
    ∃ v', t.team.cancelled v = (stop, v') ∧ related w' v'
  /-- Questions to the primary catalog have the same answer, with the same entries. -/
  primary : ∀ {cone limit given other answer merged w w' v}, alike given other → related w v →
    s.team.primary.fetch cone limit given w = (some (answer, merged), w') →
      ∃ merged' v', t.team.primary.fetch cone limit other v = (some (answer, merged'), v') ∧
        merged'.toList = merged.toList ∧ related w' v'
  /-- Requests have the same answer. -/
  register : ∀ {request answer w w' v}, related w v → s.team.register request w = (answer, w') →
    ∃ v', t.team.register request v = (answer, v') ∧ related w' v'
  /-- The secondary catalogs leave accumulators that are alike. -/
  prepared : ∀ {cone calls given w w' v}, related w v → (∀ event ∈ calls, allowed event) →
    Prepared s cone w calls given w' →
      ∃ others other v', Prepared t cone v others other v' ∧ alike given other ∧ related w' v'
  /-- The secondary catalogs are out of memory at the same time. -/
  outOfMemory : ∀ {cone catalog found w w' v}, related w v →
    allowed (.fetched .secondary cone s.settings.secondaryLimit .empty
      (.error (.scan .outOfMemory))) →
    s.Asks catalog →
    catalog.fetch cone s.settings.secondaryLimit .empty w =
        (some (.error (.scan .outOfMemory), found), w') →
      ∃ catalog' found' v', t.Asks catalog' ∧
        catalog'.fetch cone s.settings.secondaryLimit .empty v =
          (some (.error (.scan .outOfMemory), found'), v') ∧ related w' v'

/-- **Two teams break off at the same time** if in worlds that are related the catalogs of both
do. -/
structure BreaksAlongside (alike : Accumulator α → Accumulator α → Prop) (related : σ → τ → Prop)
    (s : Search σ α) (t : Search τ α) : Prop where
  /-- The primary catalogs do. -/
  primary : ∀ {cone limit given other w w' v}, alike given other → related w v →
    s.team.primary.fetch cone limit given w = (none, w') →
      ∃ v', t.team.primary.fetch cone limit other v = (none, v')
  /-- The secondary catalogs do, where they are asked. -/
  secondary : ∀ {cone catalog w w' v}, related w v → s.Asks catalog →
    catalog.fetch cone s.settings.secondaryLimit .empty w = (none, w') →
      ∃ catalog' v', t.Asks catalog' ∧
        catalog'.fetch cone s.settings.secondaryLimit .empty v = (none, v')

namespace Alongside

variable {alike : Accumulator α → Accumulator α → Prop} {related : σ → τ → Prop}
  {allowed : Event α → Prop} {s : Search σ α} {t : Search τ α} {w w' : σ} {v : τ}
  {calls : List (Event α)}

section Attempt

variable [Scalar α] {candidate : Candidate α} {stars : List (ImagePoint α)} {pass : Pass}

omit [Scalar α] in
theorem fetched {cone : Cone α} {answer : Except (CatalogError α) Nat} {merged : Accumulator α}
    (h : Alongside alike related allowed s t) (hrelated : related w v)
    (hallowed : ∀ event ∈ calls, allowed event)
    (hfetched : Fetched s cone w calls answer merged w') :
    ∃ others merged' v', Fetched t cone v others answer merged' v' ∧
      merged'.toList = merged.toList ∧ related w' v' ∧ RecordsAlike alike calls others := by
  obtain ⟨hprepared, hfetch⟩ := hfetched
  obtain ⟨hbefore, -⟩ := List.forall_mem_append.mp hallowed
  obtain ⟨others, other, v₁, hother, halike, hrelated₁⟩ := h.prepared hrelated hbefore hprepared
  obtain ⟨merged', v₂, hfetch', hentries, hrelated₂⟩ := h.primary halike hrelated₁ hfetch
  obtain ⟨team, want, rfl, -⟩ := h.same
  refine ⟨_, merged', v₂, .mk hother hfetch', hentries, hrelated₂, ?_⟩
  exact (RecordsAlike.of_isSecondary hprepared.isSecondary hother.isSecondary).append
    (Event.Alike.fetched _ _ _ halike).records

/-- A request shows the registrar nothing but the entries of the accumulator. -/
theorem request_withTeam (s : Search σ α) (team : Collaborators τ α) (want : Bool)
    {merged merged' : Accumulator α} (hentries : merged'.toList = merged.toList) :
    (s.withTeam team want).request candidate stars pass merged' =
      s.request candidate stars pass merged := by
  unfold request
  rw [hentries]
  rfl

theorem registered {answer : FitAnswer α} (h : Alongside alike related allowed s t)
    (hrelated : related w v) (hallowed : ∀ event ∈ calls, allowed event)
    (hregistered : Registered s candidate stars pass w calls answer w') :
    ∃ others v', Registered t candidate stars pass v others answer v' ∧ related w' v' ∧
      RecordsAlike alike calls others := by
  obtain ⟨hfetched, henough, hregister⟩ := hregistered
  obtain ⟨hbefore, -⟩ := List.forall_mem_append.mp hallowed
  obtain ⟨others, merged', v₁, hfetched', hentries, hrelated₁, hrecords⟩ :=
    h.fetched hrelated hbefore hfetched
  obtain ⟨v₂, hregister', hrelated₂⟩ := h.register hrelated₁ hregister
  obtain ⟨team, want, rfl, -⟩ := h.same
  rw [← request_withTeam s team want hentries] at hregister'
  have hsize : merged'.size = _ := congrArg List.length hentries
  refine ⟨_, v₂, .mk hfetched' (hsize ▸ henough) hregister', hrelated₂, ?_⟩
  rw [request_withTeam s team want hentries]
  exact hrecords.append (Event.Alike.registered _ _).records

/-- **Every trial has a trial alongside**, with the same result. -/
theorem trial {result : Except (Setback α) (Fit α)} (h : Alongside alike related allowed s t)
    (hrelated : related w v) (hallowed : ∀ event ∈ calls, allowed event)
    (htrial : Trial s candidate stars pass w calls result w') :
    ∃ others v', Trial t candidate stars pass v others result v' ∧ related w' v' ∧
      RecordsAlike alike calls others := by
  obtain ⟨team, want, rfl, hname⟩ := h.same
  cases htrial with
  | secondaryOutOfMemory hasks hfetch =>
      obtain ⟨catalog', found', v', hasks', hfetch', hrelated'⟩ :=
        h.outOfMemory hrelated (hallowed _ (List.mem_singleton_self _)) hasks hfetch
      refine ⟨_, v', .secondaryOutOfMemory hasks' hfetch', hrelated', ?_⟩
      apply RecordsAlike.of_isSecondary
      · intro event hevent
        rw [List.mem_singleton.mp hevent]
        rfl
      · intro event hevent
        rw [List.mem_singleton.mp hevent]
        rfl
  | primaryOutOfMemory hfetched =>
      obtain ⟨others, _, v', hfetched', -, hrest⟩ := h.fetched hrelated hallowed hfetched
      exact ⟨others, v', .primaryOutOfMemory hfetched', hrest⟩
  | primaryUnavailable hfetched =>
      obtain ⟨others, _, v', hfetched', -, hrest⟩ := h.fetched hrelated hallowed hfetched
      rw [← hname]
      exact ⟨others, v', .primaryUnavailable hfetched', hrest⟩
  | primaryFailed hfetched hmemory hlocal =>
      obtain ⟨others, _, v', hfetched', -, hrest⟩ := h.fetched hrelated hallowed hfetched
      rw [← hname]
      exact ⟨others, v', .primaryFailed hfetched' hmemory hlocal, hrest⟩
  | tooFewEntries hfetched hfew =>
      obtain ⟨others, merged', v', hfetched', hentries, hrest⟩ :=
        h.fetched hrelated hallowed hfetched
      have hsize : merged'.size = _ := congrArg List.length hentries
      refine ⟨others, v', ?_, hrest⟩
      rw [← Accumulator.length_toList, ← hentries]
      exact .tooFewEntries hfetched' (hsize ▸ hfew)
  | registrarFatal hregistered =>
      obtain ⟨others, v', hregistered', hrest⟩ := h.registered hrelated hallowed hregistered
      exact ⟨others, v', .registrarFatal hregistered', hrest⟩
  | noMatch hregistered =>
      obtain ⟨others, v', hregistered', hrest⟩ := h.registered hrelated hallowed hregistered
      exact ⟨others, v', .noMatch hregistered', hrest⟩
  | imprecise hregistered hlimit =>
      obtain ⟨others, v', hregistered', hrest⟩ := h.registered hrelated hallowed hregistered
      exact ⟨others, v', .imprecise hregistered' hlimit, hrest⟩
  | fit hregistered hlimit =>
      obtain ⟨others, v', hregistered', hrest⟩ := h.registered hrelated hallowed hregistered
      exact ⟨others, v', .fit hregistered' hlimit, hrest⟩

/-- **Where a catalog breaks off**, it does so alongside. -/
theorem broken (h : Alongside alike related allowed s t)
    (hbreaks : BreaksAlongside alike related s t) (hrelated : related w v)
    (hallowed : ∀ event ∈ calls, allowed event) (hbroken : Broken s candidate w calls w') :
    ∃ others v', Broken t candidate v others v' ∧ RecordsAlike alike calls others := by
  obtain ⟨team, want, rfl, -⟩ := h.same
  cases hbroken with
  | secondary hasks hfetch =>
      obtain ⟨catalog', v', hasks', hfetch'⟩ := hbreaks.secondary hrelated hasks hfetch
      exact ⟨_, v', .secondary hasks' hfetch', .nil⟩
  | primary hprepared hfetch =>
      obtain ⟨others, other, v₁, hother, halike, hrelated₁⟩ :=
        h.prepared hrelated hallowed hprepared
      obtain ⟨v₂, hfetch'⟩ := hbreaks.primary halike hrelated₁ hfetch
      exact ⟨_, v₂, .primary hother hfetch',
        .of_isSecondary hprepared.isSecondary hother.isSecondary⟩

end Attempt

section Run

variable [Analytic α] {pointing : Pointing α} {stars : List (ImagePoint α)} {center : α × α}
  {centers : List (α × α)} {radius : α}

theorem turn {result : Except (Setback α) (Fit α)} (h : Alongside alike related allowed s t)
    (hrelated : related w v) (hallowed : ∀ event ∈ calls, allowed event)
    (hturn : Turn s pointing stars center w calls result w') :
    ∃ others v', Turn t pointing stars center v others result v' ∧ related w' v' ∧
      RecordsAlike alike calls others := by
  obtain ⟨hpoll, htrial⟩ := hturn
  obtain ⟨v₁, hpoll', hrelated₁⟩ := h.cancelled hrelated hpoll
  obtain ⟨-, hafter⟩ := List.forall_mem_cons.mp hallowed
  obtain ⟨others, v₂, htrial', hrelated₂, hrecords⟩ := h.trial hrelated₁ hafter htrial
  obtain ⟨team, want, rfl, -⟩ := h.same
  exact ⟨_, v₂, .mk hpoll' htrial', hrelated₂, (Event.Alike.polled false).records.append hrecords⟩

/-- **Every candidate rejected** is rejected alongside. -/
theorem rejections (h : Alongside alike related allowed s t) (hrelated : related w v)
    (hallowed : ∀ event ∈ calls, allowed event)
    (hall : Rejections s pointing stars centers w calls w') :
    ∃ others v', Rejections t pointing stars centers v others v' ∧ related w' v' ∧
      RecordsAlike alike calls others := by
  induction hall generalizing v with
  | nil w => exact ⟨[], v, .nil v, hrelated, .nil⟩
  | cons hturn _ ih =>
      obtain ⟨hfirst, hlater⟩ := List.forall_mem_append.mp hallowed
      obtain ⟨others, v₁, hturn', hrelated₁, hrecords⟩ := h.turn hrelated hfirst hturn
      obtain ⟨further, v₂, hrest', hrelated₂, hmore⟩ := ih hrelated₁ hlater
      exact ⟨_, v₂, .cons hturn' hrest', hrelated₂, hrecords.append hmore⟩

/-- **The whole course** has a course alongside, with the same outcome. -/
theorem course {outcome : Outcome α} (h : Alongside alike related allowed s t)
    (hrelated : related w v) (hallowed : ∀ event ∈ calls, allowed event)
    (hcourse : Course s pointing stars radius w calls outcome w') :
    ∃ others v', Course t pointing stars radius v others outcome v' ∧
      RecordsAlike alike calls others := by
  obtain ⟨team, want, rfl, -⟩ := h.same
  cases hcourse with
  | accepted hcenters hbefore hturn hnail =>
      obtain ⟨hfirst, hlater⟩ := List.forall_mem_append.mp hallowed
      obtain ⟨hsecond, hlast⟩ := List.forall_mem_append.mp hlater
      obtain ⟨others, v₁, hbefore', hrelated₁, hrejecting⟩ := h.rejections hrelated hfirst hbefore
      obtain ⟨_, v₂, hturn', hrelated₂, hturning⟩ := h.turn hrelated₁ hsecond hturn
      obtain ⟨_, v₃, hnail', -, hnailing⟩ := h.trial hrelated₂ hlast hnail
      exact ⟨_, v₃, .accepted hcenters hbefore' hturn' hnail',
        hrejecting.append (hturning.append hnailing)⟩
  | aborted hcenters hbefore hturn =>
      obtain ⟨hfirst, hlast⟩ := List.forall_mem_append.mp hallowed
      obtain ⟨others, v₁, hbefore', hrelated₁, hrejecting⟩ := h.rejections hrelated hfirst hbefore
      obtain ⟨_, v₂, hturn', -, hturning⟩ := h.turn hrelated₁ hlast hturn
      exact ⟨_, v₂, .aborted hcenters hbefore' hturn', hrejecting.append hturning⟩
  | cancelled hcenters hbefore hpoll =>
      obtain ⟨hfirst, -⟩ := List.forall_mem_append.mp hallowed
      obtain ⟨others, v₁, hbefore', hrelated₁, hrejecting⟩ := h.rejections hrelated hfirst hbefore
      obtain ⟨v₂, hpoll', -⟩ := h.cancelled hrelated₁ hpoll
      exact ⟨_, v₂, .cancelled hcenters hbefore' hpoll',
        hrejecting.append (Event.Alike.polled true).records⟩
  | exhausted hall =>
      obtain ⟨others, v₁, hall', -, hrejecting⟩ := h.rejections hrelated hallowed hall
      exact ⟨others, v₁, .exhausted hall', hrejecting⟩

/-- A candidate taken up is taken up alongside. -/
theorem takenUp {pass : Pass} {candidate : Candidate α} {imageStars : List (ImagePoint α)}
    (h : Alongside alike related allowed s t) (hrelated : related w v)
    (hallowed : ∀ event ∈ calls, allowed event)
    (htaken : TakenUp s pointing stars centers w calls pass candidate imageStars w') :
    ∃ others v', TakenUp t pointing stars centers v others pass candidate imageStars v' ∧
      related w' v' ∧ RecordsAlike alike calls others := by
  obtain ⟨team, want, rfl, -⟩ := h.same
  cases htaken with
  | hunt hcenters hbefore hpoll =>
      obtain ⟨hfirst, -⟩ := List.forall_mem_append.mp hallowed
      obtain ⟨others, v₁, hbefore', hrelated₁, hrejecting⟩ := h.rejections hrelated hfirst hbefore
      obtain ⟨v₂, hpoll', hrelated₂⟩ := h.cancelled hrelated₁ hpoll
      exact ⟨_, v₂, .hunt hcenters hbefore' hpoll', hrelated₂,
        hrejecting.append (Event.Alike.polled false).records⟩
  | nail hcenters hbefore hturn =>
      obtain ⟨hfirst, hlast⟩ := List.forall_mem_append.mp hallowed
      obtain ⟨others, v₁, hbefore', hrelated₁, hrejecting⟩ := h.rejections hrelated hfirst hbefore
      obtain ⟨_, v₂, hturn', hrelated₂, hturning⟩ := h.turn hrelated₁ hlast hturn
      exact ⟨_, v₂, .nail hcenters hbefore' hturn', hrelated₂, hrejecting.append hturning⟩

/-- A breakdown has a breakdown alongside. -/
theorem breakdown (h : Alongside alike related allowed s t)
    (hbreaks : BreaksAlongside alike related s t) (hrelated : related w v)
    (hallowed : ∀ event ∈ calls, allowed event)
    (hbreakdown : Breakdown s pointing stars radius w calls w') :
    ∃ others v', Breakdown t pointing stars radius v others v' ∧
      RecordsAlike alike calls others := by
  obtain ⟨htaken, hbroken⟩ := hbreakdown
  obtain ⟨hprior, hasked⟩ := List.forall_mem_append.mp hallowed
  obtain ⟨others, v₁, htaken', hrelated₁, hrecords⟩ := h.takenUp hrelated hprior htaken
  obtain ⟨_, v₂, hbroken', hmore⟩ := h.broken hbreaks hrelated₁ hasked hbroken
  obtain ⟨team, want, rfl, -⟩ := h.same
  exact ⟨_, v₂, .mk htaken' hbroken', hrecords.append hmore⟩

section Sessions

variable {session : Session σ α} {other : Session τ α}

/-- **Two searches side by side** come to the same outcome, by records that are alike, if one of
them comes to one. -/
theorem runsAlike_of_outcome (h : Alongside alike related allowed s t) (pointing : Pointing α)
    (stars : List (ImagePoint α)) (radius : α) (hrelated : related session.world other.world)
    (hallowed : ∀ calls, (s.run pointing stars radius session).2.calls = session.calls ++ calls →
      ∀ event ∈ calls, allowed event)
    (houtcome : (s.run pointing stars radius session).1 ≠ none) :
    RunsAlike alike session other (s.run pointing stars radius session)
      (t.run pointing stars radius other) := by
  obtain ⟨outcome, houtcome⟩ := Option.ne_none_iff_exists'.mp houtcome
  obtain ⟨calls, w', hcourse⟩ := exists_course houtcome
  obtain ⟨-, -, hcalls⟩ := hcourse.yields session rfl
  obtain ⟨others, v', hcourse', hrecords⟩ := h.course hrelated (hallowed calls hcalls) hcourse
  obtain ⟨houtcome', -, hothers⟩ := hcourse'.yields other rfl
  exact ⟨houtcome.trans houtcome'.symm, calls, others, hcalls, hothers, hrecords⟩

/-- And in any case if they break off at the same time. -/
theorem runsAlike (h : Alongside alike related allowed s t)
    (hbreaks : BreaksAlongside alike related s t) (pointing : Pointing α)
    (stars : List (ImagePoint α)) (radius : α) (hrelated : related session.world other.world)
    (hallowed : ∀ calls, (s.run pointing stars radius session).2.calls = session.calls ++ calls →
      ∀ event ∈ calls, allowed event) :
    RunsAlike alike session other (s.run pointing stars radius session)
      (t.run pointing stars radius other) := by
  rcases exists_course_or_breakdown s pointing stars radius session.world with
    ⟨_, _, _, hcourse⟩ | ⟨calls, w', hbreakdown⟩
  · refine h.runsAlike_of_outcome pointing stars radius hrelated hallowed ?_
    rw [hcourse.outcome_eq]
    exact Option.some_ne_none _
  · obtain ⟨hnone, -, hcalls⟩ := hbreakdown.breaks session rfl
    obtain ⟨others, v', hbreakdown', hrecords⟩ :=
      h.breakdown hbreaks hrelated (hallowed calls hcalls) hbreakdown
    obtain ⟨hnone', -, hothers⟩ := hbreakdown'.breaks other rfl
    exact ⟨hnone.trans hnone'.symm, calls, others, hcalls, hothers, hrecords⟩

end Sessions

end Run

end Alongside

end Search

end PlateSolver
