import BrowserFlow.Proofs.Editor.Reload
import BrowserFlow.Proofs.Flow.Leaf

/-!
# Adding a step and connecting it

The id of a new step is fresh, so no edge of a consistent session touches it, and
connecting another step with it makes a new edge behind all others: the flow is the one
before with the new step hung onto the other (`Consistent.graph_after_connected`). What that
does to the order of the flow is a fact about walks, `Graph.Bears.orderFrom_hang`.
-/

namespace BrowserFlow.Editor.Session

open BrowserFlow.Action

/-- A step that was added can be hung onto every other, and connecting the other with it does
so. -/
theorem Consistent.graph_after_connected {s : Session} (h : s.Consistent)
    {kind position params : Json} {bearer leaf : Node} (hbearer : bearer ∈ s.graph.nodes)
    (hadded : (addValues kind position params s).result = .ok leaf) :
    s.graph.Bears bearer leaf ∧
      (s.after [.add kind position params, .connect (.text bearer.id) (.text leaf.id)]).graph =
        s.graph.hang bearer.id leaf := by
  obtain ⟨number, hallowed, hleaves⟩ := Call.leaves_add hadded
  have hbears : s.graph.Bears bearer leaf := ⟨h.sound, hbearer, hallowed.notMem_nodeIds⟩
  have hjoined :
      (Effect.joined bearer.id leaf.id).Allowed ((Effect.added leaf number).apply s) := by
    refine ⟨?_, ?_, ?_⟩
    · exact List.mem_map_of_mem (List.mem_append_left _ hbearer)
    · exact List.mem_map_of_mem (List.mem_append_right _ (List.mem_singleton_self _))
    · apply List.find?_eq_none.mpr
      intro edge hedge hends
      have htarget : edge.target = leaf.id := (of_decide_eq_true hends).2
      exact hbears.new (htarget ▸ h.sound.target_mem edge hedge)
  refine ⟨hbears, ?_⟩
  rw [after_cons, after_cons, after_nil, hleaves.state_eq, state_perform_connect hjoined]
  rfl

/-- In every session that can be reached and has a start, adding a step and connecting
another with it leaves the order of all others as it is. If the other has a place in the
order the new step gets one, behind it and what the walk notes while it visits it, hence at the
end if the other was last; if the other has none the new step has none. -/
theorem linearize_connected (sessionId name : String) (listeners : List Listener)
    (calls : List Call) (kind position params : Json) (start bearer leaf : Node) :
    let s := (create sessionId name listeners).after calls
    let t := s.after [.add kind position params, .connect (.text bearer.id) (.text leaf.id)]
    s.graph.start? = some start → bearer ∈ s.graph.nodes →
      (addValues kind position params s).result = .ok leaf →
        ∃ old new, s.graph.linearize.result = .ok old ∧ t.graph.linearize.result = .ok new ∧
          new.filter (· ≠ leaf) = old ∧
          (bearer ∈ old → new.count leaf = 1 ∧ s.graph.Hung start bearer leaf old new) ∧
          (old.getLast? = some bearer → new = old ++ [leaf]) ∧
          (bearer ∉ old → leaf ∉ new) := by
  intro s t hstart hbearer hadded
  have hs : s.Consistent := consistent_after sessionId name listeners calls
  obtain ⟨hbears, hgraph⟩ := hs.graph_after_connected hbearer hadded
  have hmem : start ∈ s.graph.nodes :=
    List.mem_of_find?_eq_some ((Graph.start?_eq_find? s.graph).symm.trans hstart)
  have hold : s.graph.order? = some (s.graph.orderFrom start.id) := by
    rw [Graph.order?, hstart, Option.map_some]
  have hnew : t.graph.order? = some ((s.graph.hang bearer.id leaf).orderFrom start.id) := by
    rw [Graph.order?, hgraph, Graph.start?_hang hstart, Option.map_some]
  have hfresh : leaf ∉ s.graph.orderFrom start.id := by
    intro hleaf
    exact hbears.new
      (List.mem_map_of_mem (Graph.mem_of_mem_order? hs.sound.nodup_nodeIds hold hleaf))
  have hnodup : (s.graph.orderFrom start.id).Nodup :=
    (Search.tracks_run hs.sound.nodup_nodeIds hmem).nodup.of_map
  refine ⟨_, _, by rw [Graph.result_linearize, hold], by rw [Graph.result_linearize, hnew], ?_⟩
  rcases hbears.orderFrom_hang hmem with ⟨hout, hsame⟩ | hhung
  · rw [hsame]
    refine ⟨?_, fun hin => absurd hin hout, ?_, fun _ => hfresh⟩
    · exact List.filter_eq_self.mpr fun node hnode =>
        decide_eq_true (ne_of_mem_of_not_mem hnode hfresh)
    · exact fun hlast => absurd (List.mem_of_getLast? hlast) hout
  · have hin : bearer ∈ s.graph.orderFrom start.id := by
      obtain ⟨u, inner, after, -, -, -, horder, -⟩ := hhung
      rw [horder]
      exact List.mem_append_right _ List.mem_cons_self
    exact ⟨hhung.filter_ne hfresh, fun _ => ⟨hhung.count_eq_one hfresh, hhung⟩,
      hhung.eq_append_singleton hnodup, fun hout => absurd hin hout⟩

/-- Code is hung onto a wait that leads back to the start, which leads to a click as well. -/
theorem linearize_connected_cycle :
    let calls := [Call.add (.text "wait") .null .null, .add (.text "click") .null .null,
      .connect (.text startId) (.text "wait-1"), .connect (.text startId) (.text "click-2"),
      .connect (.text "wait-1") (.text startId)]
    let s := (create "s" "flow" []).after calls
    let start : Node := { id := startId, kind := .start, position := ⟨.int 250, .int 50⟩ }
    let bearer : Node :=
      { id := "wait-1", kind := .wait, params := .wait .null .null .null .null }
    let leaf : Node := { id := "code-3", kind := .code, params := .code .null }
    let t := s.after [.add (.text "code") .null .null,
      .connect (.text bearer.id) (.text leaf.id)]
    s.graph.start? = some start ∧ bearer ∈ s.graph.nodes ∧
      (addValues (.text "code") .null .null s).result = .ok leaf ∧
      ∃ old new, s.graph.linearize.result = .ok old ∧ t.graph.linearize.result = .ok new ∧
        new.filter (· ≠ leaf) = old ∧
        (bearer ∈ old → new.count leaf = 1 ∧ s.graph.Hung start bearer leaf old new) ∧
        (old.getLast? = some bearer → new = old ++ [leaf]) ∧
        (bearer ∉ old → leaf ∉ new) := by
  intro calls s start bearer leaf t
  have hstart : s.graph.start? = some start := by decide
  have hbearer : bearer ∈ s.graph.nodes := by decide
  have hadded : (addValues (.text "code") .null .null s).result = .ok leaf := by decide
  exact ⟨hstart, hbearer, hadded, linearize_connected "s" "flow" [] calls (.text "code") .null .null
    start bearer leaf hstart hbearer hadded⟩

end BrowserFlow.Editor.Session
