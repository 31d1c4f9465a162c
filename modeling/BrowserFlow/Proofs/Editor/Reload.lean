import BrowserFlow.Proofs.Document.RoundTrip
import BrowserFlow.Proofs.Editor.Consistent
import Mathlib.Data.List.Induction
import Mathlib.Data.List.Infix

/-!
# Reloading a session from what it writes

A session `Reloads` when its flow is what the document that it writes is read as. The
flow of a session that can be reached passes every check of the reader but possibly
one: two edges of it may share an id (`Consistent.reloads_iff`). No two edges do as long
as no call `Repeats` an id, that is, joins two steps by a new edge whose id is that of an
edge between others.

Such calls exist: the default id of an edge joins the ids of its steps with a hyphen,
and the ids of steps that were read may have hyphens, too.
-/

namespace BrowserFlow.Editor

open BrowserFlow.Action Document

/-- A call that joins two steps which no edge joins, while the id that the new edge gets
is the id of another. -/
def Call.Repeats (call : Call) (s : Session) : Prop :=
  ∃ source target, call = .connect (.text source) (.text target) ∧
    (Effect.joined source target).Allowed s ∧ Edge.defaultId source target ∈ s.graph.edgeIds

namespace Session

/-- The document that a session writes is read as the flow of the session. -/
def Reloads (s : Session) : Prop := (importGraph s.graph.toJson).result = .ok s.graph

/-- A consistent session reloads just if no two edges share an id. -/
theorem Consistent.reloads_iff {s : Session} (h : s.Consistent) :
    s.Reloads ↔ s.graph.edgeIds.Nodup := by
  have hs : ∀ node ∈ s.graph.nodes, node.params.shape = node.kind.shape :=
    fun node hnode => (h.sound.proper node hnode).shape_eq
  rw [Reloads, result_importGraph_toJson_iff hs]
  constructor
  · rintro ⟨⟨-, hnodup⟩, -⟩
    exact hnodup
  · intro hnodup
    exact ⟨⟨h.sound, hnodup⟩, rfl⟩

theorem state_perform_connect {s : Session} {source target : String}
    (h : (Effect.joined source target).Allowed s) :
    ((Call.connect (.text source) (.text target)).perform s).state =
      (Effect.joined source target).apply s := by
  have hreturn : ((pure (Returned.edge (.between source target)) : Edit Returned)
      ((Effect.joined source target).apply s)).Leaves _ [] _ := ⟨rfl, rfl, rfl⟩
  exact ((leaves_connect h).bind hreturn).state_eq

/-- An effect repeats the id of an edge only by joining two steps. -/
theorem edgeIds_nodup_apply {s : Session} (h : s.graph.edgeIds.Nodup) {effect : Effect}
    (hallowed : effect.Allowed s)
    (hjoined : ∀ source target, effect = .joined source target →
      Edge.defaultId source target ∉ s.graph.edgeIds) :
    (effect.apply s).graph.edgeIds.Nodup := by
  cases effect with
  | nothing | told _ | renamed _ | added _ _ | updated _ _ | moved _ _ => exact h
  | removed id => exact h.sublist (Graph.edgeIds_removeNode_sublist _ _)
  | joined source target =>
      change (s.graph.insertEdge (.between source target)).edgeIds.Nodup
      rw [Graph.edgeIds_insertEdge]
      exact nodup_append_singleton_iff.mpr ⟨hjoined source target rfl, h⟩
  | parted edge => exact h.sublist (Graph.edgeIds_eraseEdge_sublist _ _)
  | cleared => exact List.nodup_nil
  | imported g => exact hallowed.2

/-- The ids of the edges stay distinct through a call just if it does not repeat one. -/
theorem edgeIds_nodup_perform_iff {s : Session} (h : s.graph.edgeIds.Nodup) (call : Call) :
    (call.perform s).state.graph.edgeIds.Nodup ↔ ¬ call.Repeats s := by
  constructor
  · rintro hnodup ⟨source, target, rfl, hallowed, htaken⟩
    rw [state_perform_connect hallowed] at hnodup
    change (s.graph.insertEdge (.between source target)).edgeIds.Nodup at hnodup
    rw [Graph.edgeIds_insertEdge] at hnodup
    exact (nodup_append_singleton_iff.mp hnodup).1 htaken
  · intro hnot
    rcases call.state_perform s with heq | ⟨effect, hcauses, hallowed, heq⟩
    · rw [heq]
      exact h
    · rw [heq]
      apply edgeIds_nodup_apply h hallowed
      rintro source target rfl htaken
      exact hnot ⟨source, target, Call.eq_connect_of_causes hcauses, hallowed, htaken⟩

/-- Along a run the ids of the edges are distinct all the time just if no call of the
run repeats one. -/
theorem edgeIds_nodup_along_iff {s : Session} (h : s.graph.edgeIds.Nodup) (calls : List Call) :
    (∀ before later, calls = before ++ later → (s.after before).graph.edgeIds.Nodup) ↔
      ∀ before call later, calls = before ++ call :: later → ¬ call.Repeats (s.after before) := by
  constructor
  · intro hall before call later hcalls
    have hbefore := hall before (call :: later) hcalls
    have hafter := hall (before ++ [call]) later (by rw [hcalls, List.append_cons])
    rw [after_append] at hafter
    exact (edgeIds_nodup_perform_iff hbefore call).mp hafter
  · intro hnever before
    -- the calls before are put together from the first to the last
    induction before using List.reverseRecOn with
    | nil =>
        intro later _
        exact h
    | append_singleton before call ih =>
        intro later hcalls
        rw [← List.append_cons] at hcalls
        rw [after_append]
        exact (edgeIds_nodup_perform_iff (ih (call :: later) hcalls) call).mpr
          (hnever before call later hcalls)

/-- A session that can be reached reloads just if no two edges of it share an id, and
otherwise what it writes is refused for that and for nothing else. It reloads at every
moment of a run just if no call of the run joins two steps by an edge with an id that is
taken. -/
theorem reloads_after_iff (sessionId name : String) (listeners : List Listener)
    (calls : List Call) :
    let start := create sessionId name listeners
    let s := start.after calls
    (s.Reloads ↔ s.graph.edgeIds.Nodup) ∧
      (s.Reloads ∨
        ∃ place id, (importGraph s.graph.toJson).result = .error (.repeatedId .edges place id)) ∧
      ((∀ before later, calls = before ++ later → (start.after before).Reloads) ↔
        ∀ before call later, calls = before ++ call :: later →
          ¬ call.Repeats (start.after before)) := by
  intro start s
  have hs : ∀ before, (start.after before).Consistent := consistent_after sessionId name listeners
  refine ⟨(hs calls).reloads_iff, ?_, ?_⟩
  · rw [(hs calls).reloads_iff]
    by_cases hnodup : (start.after calls).graph.edgeIds.Nodup
    · exact Or.inl hnodup
    · exact Or.inr (exists_repeatedId_of_not_nodup (hs calls).sound hnodup)
  · rw [← edgeIds_nodup_along_iff (s := start) List.nodup_nil]
    constructor
    · intro hall before later hcalls
      exact (hs before).reloads_iff.mp (hall before later hcalls)
    · intro hall before later hcalls
      exact (hs before).reloads_iff.mpr (hall before later hcalls)

/-- A wait that is added and joined to the start: the session reloads at every moment. -/
theorem reloads_after_iff_wait :
    let start := create "s" "flow" []
    let calls := [Call.add (.text "wait") .null .null,
      .connect (.text "start-node") (.text "wait-1")]
    (start.after calls).Reloads ∧ ∀ before call later, calls = before ++ call :: later →
      ¬ call.Repeats (start.after before) := by
  intro start calls
  have hnodup : ∀ before ∈ calls.inits, (start.after before).graph.edgeIds.Nodup := by decide
  have hreloads : ∀ before later, calls = before ++ later → (start.after before).Reloads := by
    intro before later hcalls
    have hmem : before ∈ calls.inits := (List.mem_inits _ _).mpr ⟨later, hcalls.symm⟩
    exact (reloads_after_iff "s" "flow" [] before).1.mpr (hnodup before hmem)
  refine ⟨hreloads calls [] (List.append_nil _).symm, ?_⟩
  exact (reloads_after_iff "s" "flow" [] calls).2.2.mp hreloads

/-- Joining `a` to `b-c` and `a-b` to `c` gives two edges one id, and the session does
not reload. -/
theorem not_reloads_hyphens :
    let document := Json.object
      [("nodes", .list
        [.object [("id", .text "a"), ("kind", .text "start")],
          .object [("id", .text "a-b"), ("kind", .text "wait")],
          .object [("id", .text "b-c"), ("kind", .text "wait")],
          .object [("id", .text "c"), ("kind", .text "wait")]]),
        ("edges", .list [])]
    let s := (create "s" "flow" []).after [.load {} document,
      .connect (.text "a") (.text "b-c"), .connect (.text "a-b") (.text "c")]
    (importGraph s.graph.toJson).result = .error (.repeatedId .edges 1 "edge-a-b-c") ∧
      ¬ s.Reloads := by
  intro document s
  have hrefused : (importGraph s.graph.toJson).result =
      .error (.repeatedId .edges 1 "edge-a-b-c") := by decide
  refine ⟨hrefused, ?_⟩
  rw [Reloads, hrefused]
  simp

end Session

end BrowserFlow.Editor
