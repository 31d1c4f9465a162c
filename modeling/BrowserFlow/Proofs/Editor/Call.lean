import BrowserFlow.Proofs.Editor.Effect

/-!
# Calls of a session

A `Call` is one operation of a session with its arguments, which may be any values, and
with the limits within which it shows numbers. A run performs calls one after the other,
whether they fail or not, and `Session.after` is the session that it ends with.

What a call `Causes` says which effects it can have. `does_perform` is the step of
every argument about runs: a call either fails without a trace or has such an effect,
and the effect is allowed; only a change of parameters can fail and have its effect
(`Call.BreaksOff`). `Session.after_induction` turns a property that allowed effects keep into
one of all runs.
-/

namespace BrowserFlow.Editor

open BrowserFlow.Action Session

/-- An operation of a session with its arguments. The store and the runner answer in
any way. -/
inductive Call where
  | add (kind position params : Json)
  | update (id changes : Json) (limits : Json.Limits := {})
  | apply (handler : Handler) (changes : Json) (limits : Json.Limits := {})
  | move (id x y : Json)
  | remove (id : Json)
  | connect (source target : Json)
  | disconnect (id : Json)
  | clear
  | rename (name : String)
  | load (limits : Json.Limits) (document : Json)
  | find (id : Json)
  | hold (id : Json)
  | order
  | generate (headless : Toggle) (limits : Json.Limits := {})
  | save (store : SaveRequest → Except Failure Json) (limits : Json.Limits := {})
  | run (runner : String → Except Failure Json) (headless : Toggle) (limits : Json.Limits := {})

/-- What an operation gives back. -/
inductive Returned where
  | nothing (done : Unit)
  | node (node : Node)
  | edge (edge : Edge)
  | graph (g : Graph)
  | handler (handler : Handler)
  | ids (ids : List String)
  | script (text : String)
  | answer (v : Json)

namespace Call

def perform : Call → Edit Returned
  | add kind position params => do return .node (← addValues kind position params)
  | update v changes limits => do
    return .node (← onNamed .unknownNode v fun id => applyValueWithin limits ⟨id⟩ changes)
  | apply handler changes limits => do return .node (← applyValueWithin limits handler changes)
  | move v x y => do return .node (← onNamed .unknownNode v fun id => moveNode id x y)
  | remove v => do return .nothing (← onNamed .unknownNode v removeNode)
  | connect source target => do return .edge (← connectValues source target)
  | disconnect v => do return .nothing (← onNamed .unknownEdge v removeEdge)
  | clear => do return .nothing (← Session.clear)
  | rename name => do return .nothing (← Session.rename name)
  | load limits document => do return .graph (← importWithin limits document)
  | find v => do return .node (← onNamed .unknownNode v findNode)
  | hold v => do return .handler (← handlerOf v)
  | order => do return .ids (← Session.order)
  | generate headless limits => do return .script (← generateWithin limits headless)
  | save store limits => do return .answer (← saveThrough limits store)
  | run runner headless limits => do return .answer (← runThrough limits runner headless)

/-- The effects that a call can have. -/
def Causes : Call → Effect → Prop
  | add _ _ _, effect => ∃ node number, effect = .added node number
  | update v _ _, effect => ∃ old changes, v = .text old.id ∧ effect = .updated old changes
  | apply handler _ _, effect =>
    ∃ old changes, handler.nodeId = old.id ∧ effect = .updated old changes
  | move v _ _, effect => ∃ old position, v = .text old.id ∧ effect = .moved old position
  | remove v, effect => ∃ id, v = .text id ∧ effect = .removed id
  | connect v w, effect =>
    effect = .nothing ∨
      ∃ source target, (v = .text source ∧ w = .text target) ∧ effect = .joined source target
  | disconnect v, effect => ∃ edge : Edge, v = .text edge.id ∧ effect = .parted edge
  | clear, effect => effect = .cleared
  | rename name, effect => effect = .renamed name
  | load _ _, effect => ∃ g, effect = .imported g
  | find _, effect | hold _, effect | order, effect => effect = .nothing
  | generate headless _, effect => effect = .told (.generated headless)
  | save _ _, effect => ∃ name, effect = .told (.saved name)
  | run _ headless _, effect => effect = .told (.ran headless)

def limits : Call → Json.Limits
  | update _ _ limits | apply _ _ limits | generate _ limits | save _ limits | run _ _ limits =>
    limits
  | _ => {}

/-- A change of parameters that can be caused is made, and then cannot be shown. -/
def BreaksOff (call : Call) (s : Session) : Prop :=
  ∃ node changes excess, call.Causes (.updated node changes) ∧
    Unshown call.limits call.perform s node changes excess

theorem breaksOff_of_doesWithin {call : Call} {s : Session} (about : String → Prop)
    (h : DoesWithin call.limits call.perform s about fun effect _ => call.Causes effect)
    (habout : ∀ (node : Node) changes, about node.id → call.Causes (.updated node changes)) :
    Does call.perform s (fun effect _ => call.Causes effect) ∨ call.BreaksOff s := by
  rcases h with h | ⟨node, changes, excess, hnode, h⟩
  · exact Or.inl h
  · exact Or.inr ⟨node, changes, excess, habout node changes hnode, h⟩

/-- A call either fails without a trace or has an allowed effect that it can cause, unless it
changes parameters and breaks off. -/
theorem does_perform (call : Call) (s : Session) :
    Does call.perform s (fun effect _ => call.Causes effect) ∨ call.BreaksOff s := by
  cases call with
  | add kind position params =>
      refine Or.inl ((does_addValues kind position params s).map Returned.node ?_)
      rintro effect node ⟨number, rfl⟩
      exact ⟨node, number, rfl⟩
  | update v changes limits =>
      refine breaksOff_of_doesWithin (fun id => v = .text id) ?_
        fun node kept hnode => ⟨node, kept, hnode, rfl⟩
      refine DoesWithin.map (doesWithin_onNamed fun id hid => ?_) Returned.node fun _ _ h => h
      refine (does_applyValueWithin limits ⟨id⟩ changes s).weaken ?_ ?_
      · rintro other rfl
        exact hid
      · rintro effect node ⟨old, kept, rfl, rfl, -⟩
        exact ⟨old, kept, hid, rfl⟩
  | apply handler changes limits =>
      refine breaksOff_of_doesWithin (· = handler.nodeId) ?_
        fun node kept hnode => ⟨node, kept, hnode.symm, rfl⟩
      refine (does_applyValueWithin limits handler changes s).map Returned.node ?_
      rintro effect node ⟨old, kept, hid, rfl, -⟩
      exact ⟨old, kept, hid.symm, rfl⟩
  | move v x y =>
      refine Or.inl (Does.map (does_onNamed fun id hid => ?_) Returned.node fun _ _ h => h)
      refine (does_moveNode id x y s).weaken ?_
      rintro effect node ⟨old, position, rfl, rfl, -⟩
      exact ⟨old, position, hid, rfl⟩
  | remove v =>
      refine Or.inl (Does.map (does_onNamed fun id hid => ?_) Returned.nothing fun _ _ h => h)
      refine (does_removeNode id s).weaken ?_
      rintro effect - rfl
      exact ⟨id, hid, rfl⟩
  | connect source target =>
      refine Or.inl ((does_connectValues source target s).map Returned.edge ?_)
      rintro effect edge (⟨rfl, -⟩ | ⟨hends, rfl⟩)
      · exact Or.inl rfl
      · exact Or.inr ⟨edge.source, edge.target, hends, rfl⟩
  | disconnect v =>
      refine Or.inl (Does.map (does_onNamed fun id hid => ?_) Returned.nothing fun _ _ h => h)
      refine (does_removeEdge id s).weaken ?_
      rintro effect - ⟨edge, rfl, rfl⟩
      exact ⟨edge, hid, rfl⟩
  | clear =>
      refine Or.inl ((does_clear s).map Returned.nothing ?_)
      exact fun _ _ h => h
  | rename name =>
      refine Or.inl ((does_rename name s).map Returned.nothing ?_)
      exact fun _ _ h => h
  | load limits document =>
      refine Or.inl ((does_importWithin limits document s).map Returned.graph ?_)
      rintro effect g rfl
      exact ⟨g, rfl⟩
  | find v =>
      refine Or.inl (Does.map (does_of_looks (looks_onNamed looks_findNode) ?_) Returned.node
        fun _ _ h => h)
      exact fun _ => rfl
  | hold v =>
      refine Or.inl (Does.map (does_of_looks (looks_handlerOf v) ?_) Returned.handler
        fun _ _ h => h)
      exact fun _ => rfl
  | order =>
      refine Or.inl (Does.map (does_of_looks looks_order ?_) Returned.ids fun _ _ h => h)
      exact fun _ => rfl
  | generate headless limits =>
      refine Or.inl ((does_generateWithin limits headless s).map Returned.script ?_)
      exact fun _ _ h => h
  | save store limits =>
      refine Or.inl ((does_saveThrough limits store s).map Returned.answer ?_)
      exact fun _ _ h => h
  | run runner headless limits =>
      refine Or.inl ((does_runThrough limits runner headless s).map Returned.answer ?_)
      exact fun _ _ h => h

theorem leaves_add {kind position params : Json} {s : Session} {node : Node}
    (h : (addValues kind position params s).result = .ok node) :
    ∃ number, (Effect.added node number).Allowed s ∧
      ((add kind position params).perform s).Leaves ((Effect.added node number).apply s)
        (Effect.added node number).events (.ok (.node node)) := by
  rcases does_addValues kind position params s with
    ⟨failure, hleaves⟩ | ⟨_, other, ⟨number, rfl⟩, hallowed, hleaves⟩
  · rw [hleaves.result_eq] at h
    exact nomatch h
  · rw [hleaves.result_eq] at h
    obtain rfl := Except.ok.inj h
    exact ⟨number, hallowed, hleaves.bind ⟨rfl, rfl, rfl⟩⟩

/-- Only a call that asks for it joins two steps. -/
theorem eq_connect_of_causes {call : Call} {source target : String}
    (h : call.Causes (.joined source target)) : call = connect (.text source) (.text target) := by
  cases call with
  | connect v w =>
      rcases h with h | ⟨first, second, ⟨rfl, rfl⟩, h⟩
      · exact absurd h (by simp)
      · obtain ⟨rfl, rfl⟩ := Effect.joined.inj h
        rfl
  | _ => simp [Causes] at h

theorem exists_load_of_causes {call : Call} {g : Graph} (h : call.Causes (.imported g)) :
    ∃ limits document, call = load limits document := by
  cases call with
  | load limits document => exact ⟨limits, document, rfl⟩
  | _ => simp [Causes] at h

/-- The session after a call is the one before, or the one that an allowed effect of
the call leaves. -/
theorem state_perform (call : Call) (s : Session) :
    (call.perform s).state = s ∨
      ∃ effect, call.Causes effect ∧ effect.Allowed s ∧
        (call.perform s).state = effect.apply s := by
  rcases call.does_perform s with
    (⟨failure, h⟩ | ⟨effect, returned, hcauses, hallowed, h⟩) | ⟨node, changes, excess, hcauses, h⟩
  · exact Or.inl h.state_eq
  · exact Or.inr ⟨effect, hcauses, hallowed, h.state_eq⟩
  · exact Or.inr ⟨_, hcauses, h.allowed, h.leaves.state_eq⟩

end Call

namespace Session

def after (s : Session) (calls : List Call) : Session :=
  calls.foldl (fun s call => (call.perform s).state) s

@[simp] theorem after_nil (s : Session) : s.after [] = s := rfl

@[simp] theorem after_cons (s : Session) (call : Call) (calls : List Call) :
    s.after (call :: calls) = (call.perform s).state.after calls := rfl

@[simp] theorem after_append (s : Session) (before later : List Call) :
    s.after (before ++ later) = (s.after before).after later :=
  List.foldl_append

/-- What the allowed effects of the calls of a run keep holds after the run. -/
theorem after_induction_of_causes {P : Session → Prop} {s : Session} {calls : List Call} (h : P s)
    (hstep : ∀ call ∈ calls, ∀ s (effect : Effect), P s → call.Causes effect → effect.Allowed s →
      P (effect.apply s)) : P (s.after calls) := by
  induction calls generalizing s with
  | nil => exact h
  | cons call calls ih =>
      rw [List.forall_mem_cons] at hstep
      rw [after_cons]
      refine ih ?_ hstep.2
      rcases call.state_perform s with heq | ⟨effect, hcauses, hallowed, heq⟩
      · rw [heq]
        exact h
      · rw [heq]
        exact hstep.1 s effect h hcauses hallowed

/-- What allowed effects keep holds after every run. -/
theorem after_induction {P : Session → Prop} {s : Session} (calls : List Call) (h : P s)
    (hstep : ∀ s (effect : Effect), P s → effect.Allowed s → P (effect.apply s)) :
    P (s.after calls) :=
  after_induction_of_causes h fun _ _ s effect h _ hallowed => hstep s effect h hallowed

end Session

end BrowserFlow.Editor
