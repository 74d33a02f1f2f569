import PlateSolver.Search.Session

/-!
# What a program of a search comes to

A program of a search is a function on sessions, but it never looks at what a
session has recorded: what it does depends on the world alone.  `Yields x w calls
b w'` says so for one run of it — in the world `w` the program `x` makes these
calls, gives `b` and leaves the world `w'` — and `Breaks x w calls w'` says that it
makes these calls and then breaks off.  The rules below read both off the way the
program is put together.  A relation between worlds that obeys the rules of a
program is thereby known to describe it.

* `Event.isCall`, `Session.calls` — the recorded calls, notices left out.
* `SearchM.Ends`, `SearchM.Yields`, `SearchM.Breaks` — the judgements.
* `Yields.pure`, `Yields.bind_ends`, `Yields.ask`, `Yields.note` — the rules for a result.
* `Breaks.ask`, `Breaks.bind` — those for breaking off, which only questions do.
-/

namespace PlateSolver

variable {σ α β γ : Type}

/-- Whether an event is a call to a collaborator and not a notice. -/
def Event.isCall : Event α → Bool
  | .noted _ => false
  | _ => true

/-- The calls that a session has seen, in order. -/
def Session.calls (session : Session σ α) : List (Event α) :=
  session.events.toList.filter Event.isCall

namespace SearchM

/-- **How a program ends.**  In the world `w` it makes `calls`, one after the other, comes
to `result`, and leaves the world `w'` — whatever was recorded before. -/
def Ends (x : SearchM σ α β) (w : σ) (calls : List (Event α)) (result : Option β) (w' : σ) : Prop :=
  ∀ session : Session σ α, session.world = w →
    (x session).1 = result ∧ (x session).2.world = w' ∧
      (x session).2.calls = session.calls ++ calls

/-- **A program gives a result.** -/
def Yields (x : SearchM σ α β) (w : σ) (calls : List (Event α)) (b : β) (w' : σ) : Prop :=
  Ends x w calls (some b) w'

/-- **A program breaks off.** -/
def Breaks (x : SearchM σ α β) (w : σ) (calls : List (Event α)) (w' : σ) : Prop :=
  Ends x w calls none w'

/-- A program that goes on after another starts with what that one leaves. -/
theorem bind_apply {x : SearchM σ α β} {f : β → SearchM σ α γ} {b : β}
    {session after : Session σ α} (h : x session = (some b, after)) :
    (x >>= f) session = f b after := by
  simp only [Bind.bind, OptionT.bind, OptionT.mk, StateT.bind, h]

/-- If that one breaks off, it does not even start. -/
theorem bind_apply_none {x : SearchM σ α β} {f : β → SearchM σ α γ}
    {session after : Session σ α} (h : x session = (none, after)) :
    (x >>= f) session = (none, after) := by
  simp only [Bind.bind, OptionT.bind, OptionT.mk, StateT.bind, h]
  rfl

/-- After a program with a result, another one ends the way it does. -/
theorem Yields.bind_ends {x : SearchM σ α β} {f : β → SearchM σ α γ} {w w₁ w₂ : σ}
    {first rest : List (Event α)} {b : β} {result : Option γ} (hx : Yields x w first b w₁)
    (hf : Ends (f b) w₁ rest result w₂) : Ends (x >>= f) w (first ++ rest) result w₂ := by
  intro session hw
  obtain ⟨hb, hw₁, hfirst⟩ := hx session hw
  obtain ⟨hresult, hw₂, hrest⟩ := hf (x session).2 hw₁
  rw [bind_apply (Prod.ext hb rfl : x session = (some b, (x session).2))]
  exact ⟨hresult, hw₂, by rw [hrest, hfirst, List.append_assoc]⟩

namespace Yields

theorem pure (b : β) (w : σ) : Yields (Pure.pure b : SearchM σ α β) w [] b w := by
  rintro session rfl
  exact ⟨rfl, rfl, (List.append_nil session.calls).symm⟩

theorem bind {x : SearchM σ α β} {f : β → SearchM σ α γ} {w w₁ w₂ : σ}
    {first rest : List (Event α)} {b : β} {c : γ} (hx : Yields x w first b w₁)
    (hf : Yields (f b) w₁ rest c w₂) : Yields (x >>= f) w (first ++ rest) c w₂ :=
  bind_ends hx hf

/-- The first step of a program often makes no call, -/
theorem bind_nil {x : SearchM σ α β} {f : β → SearchM σ α γ} {w w₁ w₂ : σ}
    {rest : List (Event α)} {result : Option γ} {b : β} (hx : Yields x w [] b w₁)
    (hf : Ends (f b) w₁ rest result w₂) : Ends (x >>= f) w rest result w₂ :=
  bind_ends hx hf

/-- Or it makes one. -/
theorem bind_cons {x : SearchM σ α β} {f : β → SearchM σ α γ} {w w₁ w₂ : σ} {call : Event α}
    {rest : List (Event α)} {result : Option γ} {b : β} (hx : Yields x w [call] b w₁)
    (hf : Ends (f b) w₁ rest result w₂) : Ends (x >>= f) w (call :: rest) result w₂ :=
  bind_ends hx hf

/-- The last step of a program often only hands on what came before. -/
theorem bind_pure {x : SearchM σ α β} {f : β → SearchM σ α γ} {w w' : σ}
    {calls : List (Event α)} {b : β} {c : γ} (hx : Yields x w calls b w')
    (hf : f b = Pure.pure c) : Yields (x >>= f) w calls c w' := by
  rw [← List.append_nil calls]
  exact bind hx (hf ▸ pure c w')

/-- A call is recorded with its answer. -/
theorem ask {question : StateM σ (Option β)} {event : β → Event α} {w w' : σ} {b : β}
    (hanswer : question w = (some b, w')) (hcall : (event b).isCall = true) :
    Yields (SearchM.ask question event) w [event b] b w' := by
  rintro session rfl
  have hrun : SearchM.ask question event session =
      (some b, ⟨w', session.events.push (event b)⟩) := by
    simp only [SearchM.ask, hanswer]
  rw [hrun]
  exact ⟨rfl, rfl, by simp [Session.calls, hcall]⟩

/-- A question that cannot break off is asked like any other. -/
theorem ask_answer {question : StateM σ β} {event : β → Event α} {w w' : σ} {b : β}
    (hanswer : question w = (b, w')) (hcall : (event b).isCall = true) :
    Yields (SearchM.ask (some <$> question) event) w [event b] b w' := by
  refine ask ?_ hcall
  simp only [Functor.map, StateT.map, hanswer]
  rfl

/-- A notice is no call. -/
theorem note (notice : Notice α) (w : σ) :
    Yields (SearchM.note notice : SearchM σ α Unit) w [] () w := by
  rintro session rfl
  have hrun : (SearchM.note notice : SearchM σ α Unit) session =
      (some (), ⟨session.world, session.events.push (.noted notice)⟩) := rfl
  rw [hrun]
  exact ⟨rfl, rfl, by simp [Session.calls, Event.isCall]⟩

end Yields

namespace Breaks

/-- A call that breaks off is not recorded. -/
theorem ask {question : StateM σ (Option β)} {event : β → Event α} {w w' : σ}
    (hanswer : question w = (none, w')) :
    Breaks (SearchM.ask question event) w [] w' := by
  rintro session rfl
  have hrun : SearchM.ask question event session = (none, ⟨w', session.events⟩) := by
    simp only [SearchM.ask, hanswer]
  rw [hrun]
  exact ⟨rfl, rfl, (List.append_nil session.calls).symm⟩

/-- A program breaks off with its first step. -/
theorem bind {x : SearchM σ α β} {w w' : σ} {calls : List (Event α)} (hx : Breaks x w calls w')
    (f : β → SearchM σ α γ) : Breaks (x >>= f) w calls w' := by
  intro session hw
  obtain ⟨hnone, hrest⟩ := hx session hw
  rw [bind_apply_none (Prod.ext hnone rfl : x session = (none, (x session).2))]
  exact ⟨rfl, hrest⟩

end Breaks

end SearchM

end PlateSolver
