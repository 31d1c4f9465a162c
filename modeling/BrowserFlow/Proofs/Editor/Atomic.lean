import BrowserFlow.Proofs.Editor.Consistent
import BrowserFlow.Proofs.Flow.Reach
import BrowserFlow.Proofs.Json.ReadBack

/-!
# Failures leave no trace

A session is `Atomic`: a call that fails leaves the session as it was and announces
nothing. Saving and running have one form, `consult`: something is prepared by looking, a
collaborator with a state of its own is asked, and its answer is finished. A failure of
theirs is one of the preparation, before the collaborator is asked, or one that the
collaborator has raised, and then nothing has changed and nothing was announced but by the
collaborator.

The one exception is a call that breaks off: its step has the new parameters already when they
turn out to be too long for the record of them, and only the event is missing. In a run the
other calls that fail can be left out: what is left has the same session afterwards and the same
events (`LeavesOut.after_eq`).
-/

namespace BrowserFlow.Editor

open BrowserFlow.Action

/-- A change that a step takes breaks off if its parameters are too long then to be shown. -/
theorem Call.breaksOff_update {s : Session} {node : Node} {changes : Table Json}
    {limits : Json.Limits} {excess : Json.Excess} (hnode : s.graph.node? node.id = some node)
    (htakes : node.kind.shape.Takes changes)
    (hunshown : Json.checkWritten limits (.object (node.params.merged changes).pairs) =
      .error excess) :
    (Call.update (.text node.id) (.object changes) limits).BreaksOff s := by
  refine ⟨node, changes, excess, ⟨node, changes, rfl, rfl⟩, ⟨hnode, htakes⟩, hunshown, ?_⟩
  have hfound := Session.result_findNode_eq_ok_iff.mpr hnode
  have hkept := Session.result_requireParams_of_takes htakes s
  refine Outcome.Leaves.bind_error ?_
  rw [Session.onNamed_text]
  refine (Session.looks_findNode node.id).leaves_bind hfound ?_
  refine (looks_ofExcept _).leaves_bind rfl ?_
  refine (Session.looks_findNode node.id).leaves_bind hfound ?_
  refine (Session.looks_requireParams node.kind changes).leaves_bind hkept ?_
  simp only [Session.requireShown, hunshown]
  exact ⟨rfl, rfl, rfl⟩

namespace Session

/-! ## Asking a collaborator -/

section Consult

variable {ρ τ : Type} {prepare : Edit ρ} {ask : ρ → Action τ Event Failure Json}
  {finish : ρ → Except Failure Json → Edit Json} {s : Session} {outside : τ} {failure : Failure}

/-- Prepares something, asks a collaborator about it and finishes the answer. -/
def consult (prepare : Edit ρ) (ask : ρ → Action τ Event Failure Json)
    (finish : ρ → Except Failure Json → Edit Json) : Action (Session × τ) Event Failure Json := do
  let request ← onFirst prepare
  let answer ← attempt (onSecond (ask request))
  onFirst (finish request answer)

theorem leaves_onFirst {α : Type} {x : Edit α} {s' : Session} {events : List Event}
    {result : Except Failure α} (h : (x s).Leaves s' events result) (outside : τ) :
    ((onFirst x : Action (Session × τ) Event Failure α) (s, outside)).Leaves (s', outside) events
      result := by
  obtain ⟨rfl, rfl, rfl⟩ := h
  exact ⟨rfl, rfl, rfl⟩

theorem leaves_consult_of_prepared (hprepare : Looks prepare) {request : ρ}
    (h : (prepare s).result = .ok request) {s' : Session} {events : List Event}
    {result : Except Failure Json}
    (hfinish : (finish request (ask request outside).result s).Leaves s' events result) :
    (consult prepare ask finish (s, outside)).Leaves (s', (ask request outside).state)
      ((ask request outside).events ++ events) result := by
  have hlooked := hprepare.leaves s
  rw [h] at hlooked
  have hasked : (attempt (onSecond (ask request) : Action (Session × τ) Event Failure Json)
      (s, outside) : Outcome _ _ Failure _).Leaves (s, (ask request outside).state)
        (ask request outside).events (.ok (ask request outside).result) := ⟨rfl, rfl, rfl⟩
  exact (leaves_onFirst hlooked outside).bind (hasked.bind (leaves_onFirst hfinish _))

end Consult

/-! ## What is required before a collaborator is asked -/

/-- A consistent session with a start step has a script, that of the steps in order. -/
theorem Consistent.exists_order {s : Session} (h : s.Consistent)
    (hstart : ∃ node ∈ s.graph.nodes, node.kind = .start) (headless : Toggle) :
    ∃ order, s.graph.order? = some order ∧
      (s.graph.compile headless).result = .ok (Script.assemble order headless.isOn) := by
  obtain ⟨start, hfind⟩ : ∃ start, s.graph.start? = some start := by
    rw [← Option.isSome_iff_exists, Graph.start?_eq_find?, List.find?_isSome]
    simpa using hstart
  have horder : s.graph.order? = some (s.graph.orderFrom start.id) := by
    rw [Graph.order?, hfind]
    rfl
  refine ⟨_, horder, ?_⟩
  rw [h.sound.result_compile, Graph.script?, horder]
  rfl

theorem result_prepareSaveWithin_of_blank {s : Session} (limits : Json.Limits)
    (h : Text.allBlank s.name.toList = true) :
    (prepareSaveWithin limits s).result = .error .emptyName := by
  simp only [prepareSaveWithin, looks_read.result_bind, read_apply, Except.bind, h, reduceIte,
    fail_apply]

theorem result_prepareSave_of_blank {s : Session} (h : Text.allBlank s.name.toList = true) :
    (prepareSave s).result = .error .emptyName :=
  result_prepareSaveWithin_of_blank {} h

theorem result_prepareSaveWithin {s : Session} (limits : Json.Limits)
    (h : Text.allBlank s.name.toList = false) :
    (prepareSaveWithin limits s).result =
      (compileWithin limits (Toggle.ofBool true) s).result.map fun script =>
        ⟨s.name, script, s.graph.nodes, s.graph.edges⟩ := by
  simp only [prepareSaveWithin, looks_read.result_bind, read_apply, Except.bind, h,
    Bool.false_eq_true, reduceIte, (looks_compileWithin limits _).result_bind, pure_apply]
  cases (compileWithin limits (Toggle.ofBool true) s).result <;> rfl

theorem result_prepareSave {s : Session} (h : Text.allBlank s.name.toList = false) :
    (prepareSave s).result = (compile (Toggle.ofBool true) s).result.map fun script =>
      ⟨s.name, script, s.graph.nodes, s.graph.edges⟩ :=
  result_prepareSaveWithin {} h

/-! ## Runs -/

def announced (s : Session) : List Call → List Event
  | [] => []
  | call :: calls => (call.perform s).events ++ (call.perform s).state.announced calls

/-- Whatever the limit on digits is, a wait of as many zeros is entered and breaks off. -/
theorem breaksOff_wait {limits : Json.Limits} {zeros : Nat} (hlimit : limits.digits = some zeros) :
    (Call.update (.text "wait-1") (.object [("waitMillis", .nat (10 ^ zeros))]) limits).BreaksOff
      ((create "1" "Log in" []).after [.add (.text "wait") .null .null]) := by
  let node : Node := { id := "wait-1", kind := .wait, params := .wait .null .null .null .null }
  have haccepts : Field.waitMillis.accepts (.nat (10 ^ zeros)) = true :=
    decide_eq_true (p := (0 : Int) ≤ (10 ^ zeros : Nat)) (Int.natCast_nonneg _)
  have hunshown : Json.checkWritten limits (.object (node.params.merged
      [("waitMillis", .nat (10 ^ zeros))]).pairs) = .error (.written zeros) :=
    Json.checkWritten_of_pow_mem hlimit (List.mem_singleton.mpr rfl)
  have htakes : node.kind.shape.Takes [("waitMillis", .nat (10 ^ zeros))] := by
    intro entry hentry
    obtain rfl := List.mem_singleton.mp hentry
    exact ⟨.waitMillis, rfl, haccepts⟩
  exact Call.breaksOff_update rfl htakes hunshown

end Session

end BrowserFlow.Editor
