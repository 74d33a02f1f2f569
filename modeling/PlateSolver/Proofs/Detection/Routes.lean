import Mathlib
import PlateSolver.Proofs.Detection.Blobs

/-!
# Routes through a group

A group is filled from its first pixel, and every pixel looks up, down, left and right, in the
order of discovery.  The order that this leads to can be said without the queue.  A pixel is
reached from the first one by steps that do not leave the lit pixels, on many routes.  Of
two routes the one with fewer steps comes sooner, and of two with equally many the one whose first
different step is tried sooner.  A pixel is discovered on the soonest of its routes, and the
pixels of a group are discovered in the order of these routes.

* `Step`, `Route` — the steps between pixels, and the routes made of them.
* `Sooner`, `NoLater` — the order of routes; `Earlier` — that of pixels.
* `Trail`, `Trail.discover`, `Trail.look` — discovered pixels with their routes, and what one look
  adds to them.
* `Paced`, `Paced.round`, `Fill.paced` — the invariant of the loop that fills a group.
* `Group.Filled.pairwise_earlier` — the order of discovery.
-/

namespace PlateSolver.Detection

/-! ## Steps -/

/-- A step to one of the four pixels that touch a pixel. -/
inductive Step where
  /-- To the row before. -/
  | up
  /-- To the row after. -/
  | down
  /-- To the column before. -/
  | left
  /-- To the column after. -/
  | right

namespace Step

/-- The number of a step in the order in which the steps are tried. -/
def rank : Step → ℕ
  | .up => 0
  | .down => 1
  | .left => 2
  | .right => 3

/-- The steps in that order. -/
def all : List Step := [.up, .down, .left, .right]

theorem rank_injective : Function.Injective rank := by
  intro a b h
  cases a <;> cases b <;> first | rfl | cases h

instance : LinearOrder Step := LinearOrder.lift' rank rank_injective

theorem mem_all (step : Step) : step ∈ all := by
  cases step <;> simp [all]

theorem pairwise_all : all.Pairwise (· < ·) := by decide

/-- Where a step leads. -/
def Leads : Step → Position → Position → Prop
  | .up, a, b => b.1 + 1 = a.1 ∧ b.2 = a.2
  | .down, a, b => b.1 = a.1 + 1 ∧ b.2 = a.2
  | .left, a, b => b.1 = a.1 ∧ b.2 + 1 = a.2
  | .right, a, b => b.1 = a.1 ∧ b.2 = a.2 + 1

/-- Where the program looks, whose rows and columns are words. -/
def target : Step → Position → Position
  | .up, (row, col) => (wordBefore row, col)
  | .down, (row, col) => (row + 1, col)
  | .left, (row, col) => (row, wordBefore col)
  | .right, (row, col) => (row, col + 1)

theorem map_target_all (spot : Position) : all.map (target · spot) = neighbours spot := rfl

theorem Leads.touching {step : Step} {a b : Position} (h : step.Leads a b) : Touching a b := by
  cases step <;> (simp only [Leads] at h; unfold Touching; omega)

/-- On a raster the program looks where the step leads. -/
theorem leads_iff {raster : Raster} (hwords : raster.InWords) {step : Step} {a b : Position}
    (hb : raster.holds b = true) : step.Leads a b ↔ step.target a = b := by
  obtain ⟨row, col⟩ := a
  obtain ⟨row', col'⟩ := b
  obtain ⟨hrow, hcol⟩ := Raster.holds_iff.mp hb
  have hheight := hwords.height_lt
  have hwidth := hwords.width_lt
  have hpow : Nat.pow 2 64 = 2 ^ 64 := rfl
  cases step <;> simp only [Leads, target, wordBefore, Prod.mk.injEq] <;> (try split) <;> omega

end Step

/-! ## The order of routes -/

/-- Routes are compared by their lengths, and then step by step. -/
def key (route : List Step) : ℕ ×ₗ List Step := toLex (route.length, route)

/-- **The order of routes**: a route with fewer steps comes sooner, and of two with equally many
steps the one whose first different step is tried sooner. -/
def Sooner (a b : List Step) : Prop := key a < key b

/-- A route that comes no later than another. -/
def NoLater (a b : List Step) : Prop := key a ≤ key b

section Sooner

variable {a b c : List Step}

theorem sooner_iff : Sooner a b ↔ a.length < b.length ∨ a.length = b.length ∧ a < b :=
  Prod.Lex.toLex_lt_toLex

theorem Sooner.trans_noLater (hab : Sooner a b) (hbc : NoLater b c) : Sooner a c :=
  lt_of_lt_of_le hab hbc

theorem Sooner.asymm (hab : Sooner a b) : ¬ Sooner b a := lt_asymm hab

theorem sooner_nil_concat (route : List Step) (step : Step) : Sooner [] (route ++ [step]) :=
  sooner_iff.mpr (.inl (by simp))

/-- Of two steps at the end of a route the one tried sooner makes the sooner route. -/
theorem sooner_concat {d e : Step} (h : d < e) (route : List Step) :
    Sooner (route ++ [d]) (route ++ [e]) := by
  refine sooner_iff.mpr (.inr ⟨by simp, ?_⟩)
  induction route with
  | nil => exact List.cons_lt_cons_iff.mpr (.inl h)
  | cons first rest ih => exact List.cons_lt_cons_iff.mpr (.inr ⟨rfl, ih⟩)

/-- **One more step** does not change which of two routes is the sooner, whatever it is. -/
theorem Sooner.concat (h : Sooner a b) (d e : Step) : Sooner (a ++ [d]) (b ++ [e]) := by
  rw [sooner_iff] at h ⊢
  rcases h with hshort | ⟨hlength, hlex⟩
  · exact .inl (by simpa using hshort)
  refine .inr ⟨by simpa using hlength, ?_⟩
  induction a generalizing b with
  | nil =>
      obtain rfl := List.length_eq_zero_iff.mp hlength.symm
      exact absurd hlex (lt_irrefl _)
  | cons first rest ih =>
      cases b with
      | nil => cases hlength
      | cons first' rest' =>
          rw [List.cons_append, List.cons_append, List.cons_lt_cons_iff]
          rcases List.cons_lt_cons_iff.mp hlex with hlt | ⟨rfl, hrest⟩
          · exact .inl hlt
          · exact .inr ⟨rfl, ih (Nat.succ_injective hlength) hrest⟩

theorem NoLater.concat (h : NoLater a b) (d : Step) : NoLater (a ++ [d]) (b ++ [d]) := by
  rcases lt_or_eq_of_le h with hlt | heq
  · exact le_of_lt (Sooner.concat hlt d d)
  · rw [(Prod.mk.inj (toLex.injective heq)).2]
    exact le_rfl

end Sooner

/-! ## Routes -/

section Routes

variable {α : Type} [Scalar α] {raster : Raster} {level : α} {first spot other : Position}
  {s s' : Spread} {next : ℕ}

/-- **A route from a first pixel**, and the pixel that it leads to, over lit pixels only. -/
inductive Route (raster : Raster) (level : α) (first : Position) : List Step → Position → Prop
  /-- The first pixel is where it is. -/
  | start : Route raster level first [] first
  /-- One more step. -/
  | step {route : List Step} {a b : Position} (step : Step) (h : Route raster level first route a)
      (hleads : step.Leads a b) (hlit : lit raster level b = true) :
      Route raster level first (route ++ [step]) b

/-- **A pixel that is reached earlier than another**: on a route that is sooner than all routes
of the other. -/
def Earlier (raster : Raster) (level : α) (first a b : Position) : Prop :=
  ∃ route, Route raster level first route a ∧
    ∀ other, Route raster level first other b → Sooner route other

theorem Earlier.asymm {a b : Position} (h : Earlier raster level first a b) :
    ¬ Earlier raster level first b a := by
  obtain ⟨route, hroute, hsooner⟩ := h
  rintro ⟨route', hroute', hsooner'⟩
  exact (hsooner route' hroute').asymm (hsooner' route hroute)

/-! ## Pixels that are passed over -/

/-- A pixel that was marked but is not in the group. -/
def Passed (raster : Raster) (s : Spread) (spot : Position) : Prop :=
  marked raster s.seen spot = true ∧ spot ∉ s.found.toList

theorem Passed.discover (h : Passed raster s spot) (other : Position) :
    Passed raster (discover raster level s other) spot := by
  rcases discover_cases raster level s other with ⟨-, hfresh, hs⟩ | ⟨-, hs⟩
  · rw [hs]
    refine ⟨?_, ?_⟩
    · -- Marks stay, whether or not the new one is at the same place.
      have hmarked := h.1
      unfold marked at hmarked ⊢
      rw [Array.getElem?_setIfInBounds]
      split_ifs
      · rfl
      · rfl
      · exact hmarked
    · rw [Array.toList_push, List.mem_append, List.mem_singleton]
      rintro (hold | rfl)
      · exact h.2 hold
      · rw [h.1] at hfresh
        cases hfresh
  · rw [hs]
    exact h

theorem Passed.foldl (h : Passed raster s spot) (spots : List Position) :
    Passed raster (spots.foldl (Detection.discover raster level) s) spot := by
  induction spots generalizing s with
  | nil => exact h
  | cons other rest ih => exact ih (h.discover other)

/-- **What is in the group at the end was never passed over.** -/
theorem Fill.not_passed (hfill : Fill raster level next s s') (hspot : spot ∈ s'.found.toList) :
    ¬ Passed raster s spot := by
  induction hfill with
  | done => exact fun hpassed => hpassed.2 hspot
  | look _ _ ih => exact fun hpassed => ih hspot (hpassed.foldl _)

/-! ## Trails -/

/-- **Trail.** The pixels of a group so far, each with the route on which it was discovered, in
the order of these routes. -/
structure Trail (raster : Raster) (level : α) (first : Position) (s : Spread)
    (trail : List (Position × List Step)) : Prop where
  /-- The pixels are those of the group. -/
  spots : trail.map Prod.fst = s.found.toList
  /-- The group begins with the first pixel. -/
  start : (first, []) ∈ trail
  /-- The routes lead to the pixels. -/
  route : ∀ mark ∈ trail, Route raster level first mark.2 mark.1
  /-- The routes are in order. -/
  sorted : trail.Pairwise fun a b => Sooner a.2 b.2

/-- A step from a pixel of a trail that has been tried: if it leads to a lit pixel of the whole
group, that one is on the trail by now, and its route is no later. -/
def Tried (raster : Raster) (level : α) (final : List Position)
    (trail : List (Position × List Step)) (mark : Position × List Step) (step : Step) : Prop :=
  ∀ other ∈ final, step.Leads mark.1 other → lit raster level other = true →
    ∃ found ∈ trail, found.1 = other ∧ NoLater found.2 (mark.2 ++ [step])

theorem Tried.append {final : List Position} {trail : List (Position × List Step)}
    {mark : Position × List Step} {step : Step} (h : Tried raster level final trail mark step)
    (new : List (Position × List Step)) : Tried raster level final (trail ++ new) mark step := by
  intro other hother hleads hlit
  obtain ⟨found, hfound, hrest⟩ := h other hother hleads hlit
  exact ⟨found, List.mem_append_left new hfound, hrest⟩

variable {trail : List (Position × List Step)} {mark : Position × List Step} {final : List Position}

theorem Trail.exists_mem (h : Trail raster level first s trail) (hspot : spot ∈ s.found.toList) :
    ∃ mark ∈ trail, mark.1 = spot := by
  rw [← h.spots] at hspot
  exact List.mem_map.mp hspot

/-- **One step is tried.**  All routes on the trail are sooner than the one that the step would
make, so a pixel that it discovers belongs at the end. -/
theorem Trail.discover (hwords : raster.InWords) (h : Trail raster level first s trail)
    (hmark : mark ∈ trail) {step : Step} (hlast : ∀ old ∈ trail, Sooner old.2 (mark.2 ++ [step]))
    (hfinal : ∀ spot ∈ final, ¬ Passed raster s spot) :
    ∃ new, Trail raster level first (discover raster level s (step.target mark.1))
        (trail ++ new) ∧ (∀ found ∈ new, found.2 = mark.2 ++ [step]) ∧
      Tried raster level final (trail ++ new) mark step := by
  rcases discover_cases raster level s (step.target mark.1) with ⟨hlit, -, hs⟩ | ⟨hmarked, hs⟩
  · have hleads : step.Leads mark.1 (step.target mark.1) :=
      (Step.leads_iff hwords (holds_of_lit hlit)).mpr rfl
    refine ⟨[(step.target mark.1, mark.2 ++ [step])], ?_, ?_, ?_⟩
    · rw [hs]
      exact
        { spots := by rw [List.map_append, h.spots, Array.toList_push]; rfl
          start := List.mem_append_left _ h.start
          route := List.forall_mem_append.mpr
            ⟨h.route, by simpa using (h.route mark hmark).step step hleads hlit⟩
          sorted := by
            rw [List.pairwise_append]
            exact ⟨h.sorted, List.pairwise_singleton _ _, by simpa using hlast⟩ }
    · simp
    · intro other _ hother hotherLit
      obtain rfl := (Step.leads_iff hwords (holds_of_lit hotherLit)).mp hother
      exact ⟨_, List.mem_append_right trail (List.mem_singleton_self _), rfl, le_rfl⟩
  · refine ⟨[], ?_, nofun, ?_⟩
    · rw [hs, List.append_nil]
      exact h
    · -- What is marked was not passed over, so it is in the group already.
      intro other hother hleads hlit
      obtain rfl := (Step.leads_iff hwords (holds_of_lit hlit)).mp hleads
      have hfound : step.target mark.1 ∈ s.found.toList := by
        by_contra hnot
        exact hfinal _ hother ⟨hmarked hlit, hnot⟩
      obtain ⟨old, hold, hsame⟩ := h.exists_mem hfound
      exact ⟨old, List.mem_append_left [] hold, hsame, le_of_lt (hlast old hold)⟩

/-- **One look**: some steps are tried, one after the other. -/
theorem Trail.look (hwords : raster.InWords) (h : Trail raster level first s trail)
    (hmark : mark ∈ trail) {steps : List Step} (hsteps : steps.Pairwise (· < ·))
    (hlast : ∀ step ∈ steps, ∀ old ∈ trail, Sooner old.2 (mark.2 ++ [step]))
    (hfinal : ∀ spot ∈ final, ¬ Passed raster
      ((steps.map (Step.target · mark.1)).foldl (Detection.discover raster level) s) spot) :
    ∃ new, Trail raster level first
        ((steps.map (Step.target · mark.1)).foldl (Detection.discover raster level) s)
        (trail ++ new) ∧ (∀ found ∈ new, ∃ step, found.2 = mark.2 ++ [step]) ∧
      ∀ step ∈ steps, Tried raster level final (trail ++ new) mark step := by
  induction steps generalizing s trail with
  | nil => exact ⟨[], by simpa using h, nofun, nofun⟩
  | cons step steps ih =>
      rw [List.pairwise_cons] at hsteps
      have hpassed : ∀ spot ∈ final, ¬ Passed raster s spot := fun spot hspot hpassed =>
        hfinal spot hspot (hpassed.foldl _)
      obtain ⟨new, htrail, hnew, htried⟩ :=
        h.discover hwords hmark (hlast step List.mem_cons_self) hpassed
      obtain ⟨more, htrail', hmore, htried'⟩ := ih htrail (List.mem_append_left new hmark)
        hsteps.2 (fun later hlater => List.forall_mem_append.mpr
          ⟨hlast later (List.mem_cons_of_mem step hlater), fun found hfound => by
            rw [hnew found hfound]
            exact sooner_concat (hsteps.1 later hlater) mark.2⟩) hfinal
      rw [List.append_assoc] at htrail' htried'
      refine ⟨new ++ more, htrail', List.forall_mem_append.mpr
        ⟨fun found hfound => ⟨step, hnew found hfound⟩, hmore⟩, ?_⟩
      rw [List.forall_mem_cons]
      refine ⟨?_, htried'⟩
      rw [← List.append_assoc]
      exact htried.append more

/-! ## The loop -/

/-- **The invariant of the loop** that fills a group, when the pixels before the one numbered
`next` have been looked at. -/
structure Paced (raster : Raster) (level : α) (first : Position) (final : List Position)
    (next : ℕ) (s : Spread) (trail : List (Position × List Step)) : Prop extends
    Trail raster level first s trail where
  /-- Every route but the empty one goes on from a pixel that was looked at. -/
  parent : ∀ mark ∈ trail, mark.2 = [] ∨
    ∃ i < next, ∃ old, trail[i]? = some old ∧ ∃ step, mark.2 = old.2 ++ [step]
  /-- From every pixel that was looked at all steps have been tried. -/
  tried : ∀ i < next, ∀ mark, trail[i]? = some mark → ∀ step,
    Tried raster level final trail mark step

theorem Trail.sooner (h : Trail raster level first s trail) {i j : ℕ} (hij : i < j)
    {a b : Position × List Step} (ha : trail[i]? = some a) (hb : trail[j]? = some b) :
    Sooner a.2 b.2 := by
  obtain ⟨hi, rfl⟩ := List.getElem?_eq_some_iff.mp ha
  obtain ⟨hj, rfl⟩ := List.getElem?_eq_some_iff.mp hb
  exact List.pairwise_iff_getElem.mp h.sorted i j hi hj hij

/-- All routes on the trail are sooner than those that go on from the pixel to look at. -/
theorem Paced.sooner_concat (h : Paced raster level first final next s trail)
    (hmark : trail[next]? = some mark) (step : Step) :
    ∀ old ∈ trail, Sooner old.2 (mark.2 ++ [step]) := by
  intro old hold
  obtain hempty | ⟨i, hi, before, hbefore, last, hconcat⟩ := h.parent old hold
  · rw [hempty]
    exact sooner_nil_concat _ _
  · rw [hconcat]
    exact (h.sooner hi hbefore hmark).concat last step

/-- **One round.** -/
theorem Paced.round (hwords : raster.InWords) (h : Paced raster level first final next s trail)
    (hspot : s.found[next]? = some spot)
    (hfinal : ∀ other ∈ final, ¬ Passed raster
      ((neighbours spot).foldl (Detection.discover raster level) s) other) :
    ∃ trail', Paced raster level first final (next + 1)
      ((neighbours spot).foldl (Detection.discover raster level) s) trail' := by
  obtain ⟨mark, hmark, rfl⟩ : ∃ mark, trail[next]? = some mark ∧ mark.1 = spot := by
    rw [← Array.getElem?_toList, ← h.spots, List.getElem?_map] at hspot
    exact Option.map_eq_some_iff.mp hspot
  rw [← Step.map_target_all] at hfinal ⊢
  obtain ⟨new, htrail, hnew, htried⟩ := h.toTrail.look hwords (List.mem_of_getElem? hmark)
    Step.pairwise_all (fun step _ => h.sooner_concat hmark step) hfinal
  have hkept {i : ℕ} {old : Position × List Step} (hold : trail[i]? = some old) :
      (trail ++ new)[i]? = some old := by
    rw [List.getElem?_append_left (List.getElem?_eq_some_iff.mp hold).1, hold]
  refine ⟨trail ++ new, htrail,
    List.forall_mem_append.mpr ⟨fun old hold => ?_, fun found hfound => ?_⟩,
    fun i hi old hold step => ?_⟩
  · obtain hempty | ⟨i, hi, before, hbefore, hconcat⟩ := h.parent old hold
    · exact .inl hempty
    · exact .inr ⟨i, hi.trans (Nat.lt_succ_self next), before, hkept hbefore, hconcat⟩
  · exact .inr ⟨next, Nat.lt_succ_self next, mark, hkept hmark, hnew found hfound⟩
  · -- The pixels looked at are the same as before and one more, so the two are told apart.
    rcases Nat.lt_succ_iff_lt_or_eq.mp hi with hlt | rfl
    · have hlength : i < trail.length := hlt.trans (List.getElem?_eq_some_iff.mp hmark).1
      rw [List.getElem?_append_left hlength] at hold
      exact (h.tried i hlt old hold step).append new
    · obtain rfl : mark = old := Option.some.inj ((hkept hmark).symm.trans hold)
      exact htried step (Step.mem_all step)

/-- **All rounds.**  At the end every pixel of the group has been looked at. -/
theorem Fill.paced (hwords : raster.InWords) (hfill : Fill raster level next s s')
    (h : Paced raster level first s'.found.toList next s trail) :
    ∃ last trail', Paced raster level first s'.found.toList last s' trail' ∧
      trail'.length ≤ last := by
  induction hfill generalizing trail with
  | @done next s hnone =>
      refine ⟨next, trail, h, ?_⟩
      have hlength : trail.length = s.found.size := by
        rw [← List.length_map (f := Prod.fst), h.spots, Array.length_toList]
      rw [hlength]
      exact Array.getElem?_eq_none_iff.mp hnone
  | look hspot hrest ih =>
      obtain ⟨trail', hround⟩ := h.round hwords hspot fun other hother => hrest.not_passed hother
      exact ih hround

/-- **No route is sooner than the one on the trail**, if the trail was followed to its end and the
group leaves no pixel out. -/
theorem Paced.noLater {last : ℕ} (h : Paced raster level first final last s trail)
    (hlast : trail.length ≤ last)
    (hclosed : ∀ mark ∈ trail, ∀ other, Touching mark.1 other → lit raster level other = true →
      other ∈ final) {route : List Step} (hroute : Route raster level first route spot) :
    ∃ mark ∈ trail, mark.1 = spot ∧ NoLater mark.2 route := by
  -- By induction on the route: a step from a pixel that is reached no later was tried.
  induction hroute with
  | start => exact ⟨_, h.start, rfl, le_rfl⟩
  | @step route a b step _ hleads hlit ih =>
      obtain ⟨mark, hmark, rfl, hsooner⟩ := ih
      obtain ⟨i, hi, hget⟩ := List.getElem_of_mem hmark
      have htried := h.tried i (hi.trans_le hlast) mark (by rw [List.getElem?_eq_getElem hi, hget])
      obtain ⟨found, hfound, hsame, hbefore⟩ :=
        htried step b (hclosed mark hmark b hleads.touching hlit) hleads hlit
      exact ⟨found, hfound, hsame, hbefore.trans (hsooner.concat step)⟩

/-! ## Groups -/

/-- The loop begins with the first pixel of a group that it fills. -/
theorem Group.Filled.exists_paced {group : Group} (hwords : raster.InWords)
    (h : group.Filled raster level) :
    ∃ last s trail, Paced raster level group.first group.pixels last s trail ∧
      trail.length ≤ last ∧ trail.map Prod.fst = group.pixels := by
  obtain ⟨seen, s, hfill, hpixels⟩ := h
  have hbegin : Paced raster level group.first s.found.toList 0
      (discover raster level ⟨seen, #[]⟩ group.first) [(group.first, [])] := by
    rcases discover_cases raster level ⟨seen, #[]⟩ group.first with ⟨-, -, hs⟩ | ⟨-, hs⟩
    · rw [hs]
      exact
        { spots := rfl
          start := List.mem_singleton_self _
          route := by simpa using Route.start
          sorted := List.pairwise_singleton _ _
          parent := by simp
          tried := nofun }
    · -- A loop that begins with nothing ends with nothing.
      rw [hs] at hfill
      cases hfill with
      | done => cases hpixels
      | look hspot => cases hspot
  obtain ⟨last, trail, hpaced, hlast⟩ := hfill.paced hwords hbegin
  have hspots := hpaced.spots
  rw [hpixels] at hpaced hspots
  exact ⟨last, s, trail, hpaced, hlast, hspots⟩

/-- **The order of discovery.**  In a group that was filled, and is a whole component, every pixel
is reached earlier than all that were discovered after it. -/
theorem Group.Filled.pairwise_earlier {group : Group} (hwords : raster.InWords)
    (h : group.Filled raster level) (hcomponent : group.Component raster level) :
    group.pixels.Pairwise (Earlier raster level group.first) := by
  obtain ⟨last, s, trail, hpaced, hlast, hspots⟩ := h.exists_paced hwords
  have hnodup := hcomponent.nodup
  have hclosed : ∀ mark ∈ trail, ∀ other, Touching mark.1 other →
      lit raster level other = true → other ∈ group.pixels := by
    intro mark hmark other htouch hother
    have hmem : mark.1 ∈ group.pixels := hspots ▸ List.mem_map_of_mem hmark
    have hlinked := (hcomponent.mem_iff mark.1).mp hmem
    exact (hcomponent.mem_iff other).mpr
      (hlinked.trans (.of_touching (hlinked.lit hcomponent.lit_first) hother htouch))
  rw [← hspots] at hnodup ⊢
  rw [List.pairwise_map]
  refine hpaced.sorted.imp_of_mem fun {a b} ha hb hsooner => ?_
  refine ⟨a.2, hpaced.route a ha, fun other hother => ?_⟩
  obtain ⟨mark, hmark, hsame, hnoLater⟩ := hpaced.noLater hlast hclosed hother
  obtain rfl := List.inj_on_of_nodup_map hnodup hmark hb hsame
  exact hsooner.trans_noLater hnoLater

end Routes

end PlateSolver.Detection
