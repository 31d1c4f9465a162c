import BrowserFlow.Proofs.Editor.Consistent

/-!
# Taking a new step back

A step that was added and then only changed, moved and connected is all that a session
has more: without it, and without the edges that touch it, the flow and the handlers are
what they were (`Extends`). Calls that are about the step keep this (`Extends.after`),
so removing the step undoes the addition together with everything done to it since
(`removed_undoes_added`). The counter alone has moved on.
-/

namespace BrowserFlow

namespace Graph

theorem removeNode_insertNode {g : Graph} (h : g.Sound) {node : Node}
    (hid : node.id ∉ g.nodeIds) : (g.insertNode node).removeNode node.id = g := by
  have hnodes : g.nodes.filter (fun other => other.id ≠ node.id) = g.nodes := by
    apply List.filter_eq_self.mpr
    intro other hother
    exact decide_eq_true (ne_of_mem_of_not_mem (List.mem_map_of_mem hother) hid)
  have hedges : g.edges.filter (fun edge => edge.source ≠ node.id ∧ edge.target ≠ node.id) =
      g.edges := by
    apply List.filter_eq_self.mpr
    intro edge hedge
    exact decide_eq_true ⟨ne_of_mem_of_not_mem (h.source_mem edge hedge) hid,
      ne_of_mem_of_not_mem (h.target_mem edge hedge) hid⟩
  simp only [removeNode, insertNode, List.filter_append, hnodes, hedges]
  simp

/-- What a removed step was changed to before plays no part. -/
theorem removeNode_updateNode (g : Graph) (id : String) {f : Node → Node}
    (hf : ∀ node, (f node).id = node.id) : (g.updateNode id f).removeNode id = g.removeNode id := by
  have hnodes : ∀ nodes : List Node,
      (nodes.map fun node => if node.id = id then f node else node).filter
        (fun node => node.id ≠ id) = nodes.filter fun node => node.id ≠ id := by
    intro nodes
    induction nodes with
    | nil => rfl
    | cons node nodes ih =>
        by_cases hid : node.id = id
        · simpa [hid, hf] using ih
        · simpa [hid] using ih
  simp only [removeNode, updateNode, hnodes]

theorem removeNode_insertEdge (g : Graph) {id : String} {edge : Edge}
    (h : edge.source = id ∨ edge.target = id) :
    (g.insertEdge edge).removeNode id = g.removeNode id := by
  have hedge : ¬ (edge.source ≠ id ∧ edge.target ≠ id) := by
    rintro ⟨hsource, htarget⟩
    exact h.elim hsource htarget
  simp only [removeNode, insertEdge, List.filter_append, List.filter_singleton,
    decide_eq_false hedge]
  simp

end Graph

namespace Editor

open BrowserFlow.Action Session

/-- The calls that change a step, move it, take its handler, or connect it with others or
itself. -/
def Call.IsAbout (id : String) : Call → Prop
  | update v _ _ | move v _ _ | hold v => v = .text id
  | apply handler _ _ => handler = ⟨id⟩
  | connect source target => source = .text id ∨ target = .text id
  | _ => False

namespace Session

/-- The session `t` has a step of an id, and without it is as `s` but for the counter. -/
structure Extends (s : Session) (id : String) (t : Session) : Prop where
  mem : id ∈ t.graph.nodeIds
  removed : (Effect.removed id).apply t = { s with nextNumber := t.nextNumber }

namespace Extends

variable {s t : Session} {id : String}

/-- A session with a step more extends the one without. -/
theorem of_added (h : s.Consistent) {node : Node} {number : Nat}
    (hallowed : (Effect.added node number).Allowed s) :
    s.Extends node.id ((Effect.added node number).apply s) := by
  have hnew := hallowed.notMem_nodeIds
  constructor
  case mem => simp [Effect.apply]
  case removed =>
    have hgraph : (s.graph.insertNode node).removeNode node.id = s.graph :=
      Graph.removeNode_insertNode h.sound hnew
    have hhandlers : Table.erase (Table.set s.handlers node.id ⟨node.id⟩) node.id = s.handlers := by
      rw [h.handlers_eq, set_handlersOf hnew, erase_handlersOf, ← Graph.nodeIds_insertNode,
        ← Graph.nodeIds_removeNode, hgraph]
    simp only [Effect.apply, hgraph, hhandlers]

/-- Another flow that comes to the same without the step. -/
theorem changed (h : s.Extends id t) {g : Graph} (hmem : id ∈ g.nodeIds)
    (hg : g.removeNode id = t.graph.removeNode id) : s.Extends id { t with graph := g } where
  mem := hmem
  removed := by
    rw [← h.removed]
    simp only [Effect.apply, hg]

/-- What a call about the step does leaves a session that extends the same. -/
theorem apply (h : s.Extends id t) {call : Call} (habout : call.IsAbout id) {effect : Effect}
    (hcauses : call.Causes effect) : s.Extends id (effect.apply t) := by
  have hupdated {f : Node → Node} (hf : ∀ node, (f node).id = node.id) :
      s.Extends id { t with graph := t.graph.updateNode id f } := by
    refine h.changed ?_ (Graph.removeNode_updateNode t.graph id hf)
    rw [Graph.nodeIds_updateNode _ _ hf]
    exact h.mem
  cases call with
  | update v changes limits =>
      obtain ⟨old, kept, hv, rfl⟩ := hcauses
      obtain rfl := Json.text.inj (hv.symm.trans habout)
      exact hupdated fun _ => rfl
  | apply handler changes limits =>
      obtain ⟨old, kept, hid, rfl⟩ := hcauses
      obtain rfl : old.id = id := hid.symm.trans (congrArg Handler.nodeId habout)
      exact hupdated fun _ => rfl
  | move v x y =>
      obtain ⟨old, position, hv, rfl⟩ := hcauses
      obtain rfl := Json.text.inj (hv.symm.trans habout)
      exact hupdated fun _ => rfl
  | connect v w =>
      rcases hcauses with rfl | ⟨source, target, ⟨rfl, rfl⟩, rfl⟩
      · exact h
      · have htouches : source = id ∨ target = id := habout.imp Json.text.inj Json.text.inj
        exact h.changed h.mem (Graph.removeNode_insertEdge t.graph htouches)
  | hold v =>
      rw [show effect = .nothing from hcauses]
      exact h
  | _ => exact absurd habout (by simp [Call.IsAbout])

theorem after (h : s.Extends id t) {calls : List Call} (habout : ∀ call ∈ calls, call.IsAbout id) :
    s.Extends id (t.after calls) := by
  induction calls generalizing t with
  | nil => exact h
  | cons call calls ih =>
      rw [List.forall_mem_cons] at habout
      rw [after_cons]
      apply ih _ habout.2
      rcases call.state_perform t with heq | ⟨effect, hcauses, -, heq⟩
      · rw [heq]
        exact h
      · rw [heq]
        exact h.apply habout.1 hcauses

theorem leaves_removeNode (h : s.Extends id t) :
    (removeNode id t).Leaves { s with nextNumber := t.nextNumber } [.nodeRemoved id] (.ok ()) := by
  obtain ⟨node, hnode⟩ := Graph.mem_nodeIds_iff.mp h.mem
  rw [← h.removed]
  exact (looks_findNode id).leaves_bind (result_findNode_eq_ok_iff.mpr hnode) ⟨rfl, rfl, rfl⟩

end Extends

/-- In every session that can be reached, a step that is added and then only changed,
moved and connected, by calls that may fail, can be removed again; the session is then as
it was before, up to the counter. -/
theorem removed_undoes_added (sessionId name : String) (listeners : List Listener)
    (calls : List Call) (kind position params : Json) (node : Node) (edits : List Call) :
    let s := (create sessionId name listeners).after calls
    let t := s.after (.add kind position params :: edits)
    (addValues kind position params s).result = .ok node →
      (∀ call ∈ edits, call.IsAbout node.id) →
        (removeNode node.id t).Leaves { s with nextNumber := t.nextNumber }
          [.nodeRemoved node.id] (.ok ()) := by
  intro s t hadded habout
  obtain ⟨number, hallowed, hleaves⟩ := Call.leaves_add hadded
  have hs : s.Consistent := consistent_after sessionId name listeners calls
  have hbegin := Extends.of_added hs hallowed
  rw [← hleaves.state_eq] at hbegin
  exact (hbegin.after habout).leaves_removeNode

/-- A wait is changed, moved, and connected with the start, with itself, and with a step that
is not there. -/
theorem removed_undoes_added_wait :
    let s := (create "s" "flow" []).after []
    let node : Node :=
      { id := "wait-1", kind := .wait, params := .wait .null .null .null .null }
    let edits := [Call.update (.text "wait-1") (.object [("waitMillis", .int 5)]),
      .apply ⟨"wait-1"⟩ (.object [("waitMillis", .text "long")]),
      .move (.text "wait-1") (.int 3) (.int 4), .connect (.text startId) (.text "wait-1"),
      .connect (.text "wait-1") (.text "wait-1"), .connect (.text "wait-1") (.text "zz")]
    let t := s.after (.add (.text "wait") .null .null :: edits)
    (addValues (.text "wait") .null .null s).result = .ok node ∧
      (∀ call ∈ edits, call.IsAbout node.id) ∧ t.graph.edges.length = 2 ∧
      (removeNode node.id t).Leaves { s with nextNumber := t.nextNumber }
        [.nodeRemoved node.id] (.ok ()) := by
  intro s node edits t
  have hadded : (addValues (.text "wait") .null .null s).result = .ok node := by decide
  have habout : ∀ call ∈ edits, call.IsAbout node.id := by
    simp [edits, node, Call.IsAbout]
  have hedges : t.graph.edges.length = 2 := by decide
  exact ⟨hadded, habout, hedges,
    removed_undoes_added "s" "flow" [] [] (.text "wait") .null .null node edits hadded habout⟩

end Session

end Editor

end BrowserFlow
