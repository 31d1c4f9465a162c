import BrowserFlow.Journal

/-!
# Actions on a state

An `Action` works on a state, announces events and makes records, and ends with a
value or a failure. A failing action keeps what it had done before: the state, the
events and the records up to then belong to its outcome. So that an action changes
nothing when it fails is a property to be proved of it.
-/

namespace BrowserFlow

/-- What an action leaves behind. -/
structure Outcome (σ ω ε α : Type) where
  state : σ
  events : List ω
  records : List Record
  result : Except ε α

def Action (σ ω ε α : Type) : Type := σ → Outcome σ ω ε α

namespace Action

variable {σ τ ω ε ε' α β : Type}

def run (x : Action σ ω ε α) (s : σ) : Outcome σ ω ε α := x s

/-- Runs `next` after `x`, from the state that `x` leaves; a failure ends both. -/
def andThen (x : Action σ ω ε α) (next : α → Action σ ω ε β) : Action σ ω ε β := fun s =>
  let first := x s
  match first.result with
  | .error e => ⟨first.state, first.events, first.records, .error e⟩
  | .ok a =>
    let second := next a first.state
    ⟨second.state, first.events ++ second.events, first.records ++ second.records, second.result⟩

instance : Monad (Action σ ω ε) where
  pure a := fun s => ⟨s, [], [], .ok a⟩
  bind := andThen

def fail (e : ε) : Action σ ω ε α := fun s => ⟨s, [], [], .error e⟩

def read : Action σ ω ε σ := fun s => ⟨s, [], [], .ok s⟩

def update (f : σ → σ) : Action σ ω ε Unit := fun s => ⟨f s, [], [], .ok ()⟩

def announce (event : ω) : Action σ ω ε Unit := fun s => ⟨s, [event], [], .ok ()⟩

def noteAll (records : List Record) : Action σ ω ε Unit := fun s => ⟨s, [], records, .ok ()⟩

def note (level : Level) (channel : Channel) (text : String) : Action σ ω ε Unit :=
  noteAll [⟨level, channel, text⟩]

def ofJournaled (f : ε' → ε) (x : Journaled ε' α) : Action σ ω ε α := fun s =>
  ⟨s, [], x.records, x.result.mapError f⟩

def ofExcept (x : Except ε α) : Action σ ω ε α := fun s => ⟨s, [], [], x⟩

/-- Turns the failure of an action into a value. -/
def attempt (x : Action σ ω ε α) : Action σ ω ε' (Except ε α) := fun s =>
  let outcome := x s
  ⟨outcome.state, outcome.events, outcome.records, .ok outcome.result⟩

def zoom (get : σ → τ) (put : τ → σ → σ) (x : Action τ ω ε α) : Action σ ω ε α := fun s =>
  let outcome := x (get s)
  ⟨put outcome.state s, outcome.events, outcome.records, outcome.result⟩

def onFirst (x : Action σ ω ε α) : Action (σ × τ) ω ε α := zoom Prod.fst (fun a s => (a, s.2)) x

def onSecond (x : Action τ ω ε α) : Action (σ × τ) ω ε α := zoom Prod.snd (fun b s => (s.1, b)) x

@[simp] theorem pure_apply (a : α) (s : σ) :
    (pure a : Action σ ω ε α) s = ⟨s, [], [], .ok a⟩ := rfl

theorem bind_apply (x : Action σ ω ε α) (next : α → Action σ ω ε β) (s : σ) :
    (x >>= next) s =
      match (x s).result with
      | .error e => ⟨(x s).state, (x s).events, (x s).records, .error e⟩
      | .ok a =>
        ⟨(next a (x s).state).state, (x s).events ++ (next a (x s).state).events,
          (x s).records ++ (next a (x s).state).records, (next a (x s).state).result⟩ := rfl

@[simp] theorem fail_apply (e : ε) (s : σ) :
    (fail e : Action σ ω ε α) s = ⟨s, [], [], .error e⟩ := rfl

@[simp] theorem read_apply (s : σ) : (read : Action σ ω ε σ) s = ⟨s, [], [], .ok s⟩ := rfl

@[simp] theorem update_apply (f : σ → σ) (s : σ) :
    (update f : Action σ ω ε Unit) s = ⟨f s, [], [], .ok ()⟩ := rfl

@[simp] theorem announce_apply (event : ω) (s : σ) :
    (announce event : Action σ ω ε Unit) s = ⟨s, [event], [], .ok ()⟩ := rfl

@[simp] theorem noteAll_apply (records : List Record) (s : σ) :
    (noteAll records : Action σ ω ε Unit) s = ⟨s, [], records, .ok ()⟩ := rfl

@[simp] theorem ofJournaled_apply (f : ε' → ε) (x : Journaled ε' α) (s : σ) :
    (ofJournaled f x : Action σ ω ε α) s = ⟨s, [], x.records, x.result.mapError f⟩ := rfl

@[simp] theorem ofExcept_apply (x : Except ε α) (s : σ) :
    (ofExcept x : Action σ ω ε α) s = ⟨s, [], [], x⟩ := rfl

@[simp] theorem attempt_apply (x : Action σ ω ε α) (s : σ) :
    (attempt x : Action σ ω ε' (Except ε α)) s =
      ⟨(x s).state, (x s).events, (x s).records, .ok (x s).result⟩ := rfl

@[simp] theorem onFirst_apply (x : Action σ ω ε α) (s : σ × τ) :
    (onFirst x : Action (σ × τ) ω ε α) s =
      ⟨((x s.1).state, s.2), (x s.1).events, (x s.1).records, (x s.1).result⟩ := rfl

@[simp] theorem onSecond_apply (x : Action τ ω ε α) (s : σ × τ) :
    (onSecond x : Action (σ × τ) ω ε α) s =
      ⟨(s.1, (x s.2).state), (x s.2).events, (x s.2).records, (x s.2).result⟩ := rfl

end Action

end BrowserFlow
