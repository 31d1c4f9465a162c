import BrowserFlow.Action

/-!
# What an action leaves behind

`Outcome.Leaves` says what an outcome is up to its records: the state, the events and
the result. A sequence of two actions leaves what the second leaves, after the events
of the first (`Leaves.bind`), or what the first leaves where that fails
(`Leaves.bind_error`).

Most steps of an edit only look something up or check it. Such an action `Looks`: it
leaves the state as it is and announces nothing. A sequence that begins with one
either fails without a trace or goes on in the same state (`Looks.bind_cases`), which
is how the edits are taken apart.

An action `Preserves` a property of the state if it holds afterwards whenever it held
before, also when the action fails.
-/

namespace BrowserFlow

namespace Outcome

variable {σ ω ε α β : Type}

/-- An outcome with a state, events and a result, whatever its records are. -/
structure Leaves (o : Outcome σ ω ε α) (s : σ) (events : List ω) (result : Except ε α) :
    Prop where
  state_eq : o.state = s
  events_eq : o.events = events
  result_eq : o.result = result

theorem Leaves.bind {x : Action σ ω ε α} {next : α → Action σ ω ε β} {s s' s'' : σ}
    {events events' : List ω} {a : α} {result : Except ε β}
    (hx : (x s).Leaves s' events (.ok a)) (hnext : (next a s').Leaves s'' events' result) :
    ((x >>= next) s).Leaves s'' (events ++ events') result := by
  obtain ⟨hstate, hevents, hresult⟩ := hx
  constructor
  · rw [Action.bind_apply, hresult, hstate]
    exact hnext.state_eq
  · rw [Action.bind_apply, hresult, hstate, hevents]
    exact congrArg (events ++ ·) hnext.events_eq
  · rw [Action.bind_apply, hresult, hstate]
    exact hnext.result_eq

theorem Leaves.bind_error {x : Action σ ω ε α} {next : α → Action σ ω ε β} {s s' : σ}
    {events : List ω} {e : ε} (hx : (x s).Leaves s' events (.error e)) :
    ((x >>= next) s).Leaves s' events (.error e) := by
  obtain ⟨hstate, hevents, hresult⟩ := hx
  constructor
  · rw [Action.bind_apply, hresult]
    exact hstate
  · rw [Action.bind_apply, hresult]
    exact hevents
  · rw [Action.bind_apply, hresult]

/-- What is left behind does not depend on how the value is returned. -/
theorem Leaves.map_ok {x : Action σ ω ε α} {s s' : σ} {events : List ω} {a : α}
    (hx : (x s).Leaves s' events (.ok a)) (f : α → β) :
    ((do return f (← x) : Action σ ω ε β) s).Leaves s' events (.ok (f a)) := by
  have hpure : ((pure (f a) : Action σ ω ε β) s').Leaves s' [] (.ok (f a)) := ⟨rfl, rfl, rfl⟩
  rw [← List.append_nil events]
  exact hx.bind hpure

end Outcome

namespace Action

open Outcome

variable {σ ω ε ε' α β : Type}

/-- An action that changes nothing and announces nothing. -/
def Looks (x : Action σ ω ε α) : Prop := ∀ s, (x s).state = s ∧ (x s).events = []

theorem looks_pure (a : α) : Looks (pure a : Action σ ω ε α) := fun _ => ⟨rfl, rfl⟩

theorem looks_fail (e : ε) : Looks (fail e : Action σ ω ε α) := fun _ => ⟨rfl, rfl⟩

theorem looks_read : Looks (read : Action σ ω ε σ) := fun _ => ⟨rfl, rfl⟩

theorem looks_ofJournaled (f : ε' → ε) (x : Journaled ε' α) :
    Looks (ofJournaled f x : Action σ ω ε α) := fun _ => ⟨rfl, rfl⟩

theorem looks_ofExcept (x : Except ε α) : Looks (ofExcept x : Action σ ω ε α) :=
  fun _ => ⟨rfl, rfl⟩

theorem looks_noteAll (records : List Record) : Looks (noteAll records : Action σ ω ε Unit) :=
  fun _ => ⟨rfl, rfl⟩

theorem Looks.leaves {x : Action σ ω ε α} (hx : Looks x) (s : σ) :
    (x s).Leaves s [] (x s).result :=
  ⟨(hx s).1, (hx s).2, rfl⟩

theorem Looks.leaves_bind {x : Action σ ω ε α} (hx : Looks x) {next : α → Action σ ω ε β}
    {s s' : σ} {events : List ω} {result : Except ε β} {a : α} (ha : (x s).result = .ok a)
    (hnext : (next a s).Leaves s' events result) : ((x >>= next) s).Leaves s' events result := by
  have hleaves := hx.leaves s
  rw [ha] at hleaves
  exact hleaves.bind hnext

theorem Looks.bind {x : Action σ ω ε α} {next : α → Action σ ω ε β} (hx : Looks x)
    (hnext : ∀ a, Looks (next a)) : Looks (x >>= next) := by
  intro s
  have hleaves := hx.leaves s
  cases hresult : (x s).result with
  | error e =>
      rw [hresult] at hleaves
      have hboth : ((x >>= next) s).Leaves s [] (.error e) := hleaves.bind_error
      exact ⟨hboth.state_eq, hboth.events_eq⟩
  | ok a =>
      rw [hresult] at hleaves
      have hboth := hleaves.bind ((hnext a).leaves s)
      exact ⟨hboth.state_eq, hboth.events_eq⟩

theorem Looks.result_bind {x : Action σ ω ε α} (hx : Looks x) (next : α → Action σ ω ε β) (s : σ) :
    ((x >>= next) s).result = (x s).result.bind fun a => (next a s).result := by
  rw [bind_apply, (hx s).1]
  cases (x s).result <;> rfl

/-- A sequence that begins by looking either fails without a trace, or goes on in the
same state as if it had begun there. -/
theorem Looks.bind_cases {x : Action σ ω ε α} (hx : Looks x) (next : α → Action σ ω ε β) (s : σ) :
    (∃ e, ((x >>= next) s).Leaves s [] (.error e)) ∨
      ∃ a, (x s).result = .ok a ∧ ∀ {s' : σ} {events : List ω} {result : Except ε β},
        (next a s).Leaves s' events result → ((x >>= next) s).Leaves s' events result := by
  cases hresult : (x s).result with
  | error e =>
      have hleaves := hx.leaves s
      rw [hresult] at hleaves
      exact Or.inl ⟨e, hleaves.bind_error⟩
  | ok a => exact Or.inr ⟨a, rfl, fun hnext => hx.leaves_bind hresult hnext⟩

/-! ## Properties of the state -/

/-- An action that keeps a property of the state, whether it fails or not. -/
def Preserves (P : σ → Prop) (x : Action σ ω ε α) : Prop := ∀ s, P s → P (x s).state

variable {P : σ → Prop}

theorem Looks.preserves {x : Action σ ω ε α} (hx : Looks x) (P : σ → Prop) : Preserves P x := by
  intro s h
  rw [(hx s).1]
  exact h

theorem preserves_update {f : σ → σ} (h : ∀ s, P s → P (f s)) :
    Preserves P (update f : Action σ ω ε Unit) := h

/-- What holds of the state that an action leaves holds at the end of a sequence, if all
that can follow preserves it. -/
theorem Preserves.of_bind {x : Action σ ω ε α} {next : α → Action σ ω ε β} {s : σ}
    (hx : P (x s).state) (hnext : ∀ a, Preserves P (next a)) : P ((x >>= next) s).state := by
  rw [bind_apply]
  cases (x s).result with
  | error e => exact hx
  | ok a => exact hnext a _ hx

theorem Preserves.bind {x : Action σ ω ε α} {next : α → Action σ ω ε β} (hx : Preserves P x)
    (hnext : ∀ a, Preserves P (next a)) : Preserves P (x >>= next) :=
  fun s h => Preserves.of_bind (hx s h) hnext

/-- An action on the first of two states preserves what it preserves of its own state. -/
theorem Preserves.onFirst {τ : Type} {x : Action σ ω ε α} (hx : Preserves P x) :
    Preserves (fun both : σ × τ => P both.1) (Action.onFirst x) := fun s h => hx s.1 h

theorem preserves_attempt_onSecond {τ : Type} (P : σ → Prop) (x : Action τ ω ε α) :
    Preserves (fun both : σ × τ => P both.1)
      (attempt (onSecond x) : Action (σ × τ) ω ε' (Except ε α)) := fun _ h => h

end Action

end BrowserFlow
