import BrowserFlow.Proofs.Editor.Consistent
import BrowserFlow.Proofs.Editor.Updated

/-!
# Changes of one step that follow each other

Two changes of the parameters of a step that are each admitted come to the same as one, with the
second entered over the first. The second change finds a step of the same kind, so what would have
been admitted before the first one is admitted after it (`leaves_updateParams_twice`).

`updates_compose` says so for the sessions that runs lead to, and says parameter by parameter what
the step has then.
-/

namespace BrowserFlow

namespace Editor.Session

open BrowserFlow.Action

variable {s : Session} {id : String} {node : Node} {a b : Table Json}

/-- The second of two changes leaves the step with both, whatever the first one put in its
place. -/
theorem leaves_updateParams_twice (h : s.graph.nodeIds.Nodup)
    (hnode : s.graph.node? id = some node) (hshape : node.params.shape = node.kind.shape)
    (hkeys : (Table.keys a).Nodup)
    (ha : (Document.checkParams "params" node.kind a).result =
      .ok (a.filter fun entry => (node.kind.shape.field? entry.1).isSome))
    (hb : (Document.checkParams "params" node.kind b).result =
      .ok (b.filter fun entry => (node.kind.shape.field? entry.1).isSome)) :
    (updateParams id b (updateParams id a s).state).Leaves
      { s with graph := s.graph.updateNode id fun _ =>
        { node with params := node.params.entered (Table.merge a b) } }
      [.nodeUpdated id (node.params.entered (Table.merge a b)).pairs]
      (.ok { node with params := node.params.entered (Table.merge a b) }) := by
  obtain rfl := Graph.id_of_node? hnode
  let between : Node := { node with params := node.params.entered a }
  have hids : (s.graph.updateNode between.id fun _ => between).nodeIds = s.graph.nodeIds :=
    Graph.nodeIds_updateNode_id s.graph between
  have hsecond := @leaves_updateParams_entered
    { s with graph := s.graph.updateNode between.id fun _ => between } between.id between
    (by rw [hids]; exact h) (Graph.node?_updateNode (Graph.mem_nodeIds_of_node? hnode))
    ((Params.shape_entered _ _).trans hshape) b hb
  rw [(leaves_updateParams_entered h hnode hshape ha).state_eq]
  rwa [Graph.updateNode_updateNode, Params.entered_entered _ hkeys] at hsecond

/-- Two changes of the parameters of a step, each of which is done by itself, come to the same as
one with the second entered over the first. A parameter has the value of the second change, or
else that of the first, or else its own; keys that are not parameters of the step play no part.
Nothing else has changed. -/
theorem updates_compose (sessionId name : String) (listeners : List Listener) (calls : List Call)
    (id : String) (a b : Table Json) (ha : (Table.keys a).Nodup) (hb : (Table.keys b).Nodup) :
    let s := (create sessionId name listeners).after calls
    (∃ changed, (updateParams id a s).result = .ok changed) →
      (∃ changed, (updateParams id b s).result = .ok changed) →
        ∃ node p, s.graph.node? id = some node ∧ p.shape = node.kind.shape ∧
          (∀ field ∈ node.kind.shape.fields, p.get field =
            ((Table.get? b field.name).or (Table.get? a field.name)).getD (node.params.get field)) ∧
          (∀ once ∈ [updateParams id b (updateParams id a s).state,
              updateParams id (Table.merge a b) s],
            once.Leaves
              { s with graph := s.graph.updateNode id fun other => { other with params := p } }
              [.nodeUpdated id p.pairs] (.ok { node with params := p })) ∧
          ∀ changes, (updateParams id
              (changes.filter fun entry => (node.kind.shape.field? entry.1).isSome) s).Leaves
            (updateParams id changes s).state (updateParams id changes s).events
            (updateParams id changes s).result := by
  rintro s ⟨first, hfirst⟩ ⟨second, hsecond⟩
  have hs : s.Consistent := consistent_after sessionId name listeners calls
  obtain ⟨node, hnode, hapass⟩ := exists_of_result_updateParams hfirst
  obtain ⟨other, hother, hbpass⟩ := exists_of_result_updateParams hsecond
  obtain rfl := Option.some.inj (hnode.symm.trans hother)
  have hshape : node.params.shape = node.kind.shape :=
    (hs.sound.proper node (Graph.mem_of_node? hnode)).shape_eq
  refine ⟨node, node.params.entered (Table.merge a b), hnode,
    (Params.shape_entered _ _).trans hshape, ?_, ?_, leaves_updateParams_filter hnode⟩
  · intro field hfield
    exact Params.get_entered_merge (by rwa [hshape]) ha hb
  · rw [Graph.updateNode_of_node? hs.sound.nodup_nodeIds hnode]
    refine List.forall_mem_cons.mpr ⟨?_, List.forall_mem_singleton.mpr ?_⟩
    · exact leaves_updateParams_twice hs.sound.nodup_nodeIds hnode hshape ha hapass hbpass
    · exact leaves_updateParams_entered hs.sound.nodup_nodeIds hnode hshape
        (Document.result_checkParams_merge hapass hbpass)

/-- A wait gets a mode and another time, and then a limit and no time. -/
theorem updates_compose_wait :
    let s := (create "s" "flow" []).after [.add (.text "wait") .null
      (.object [("selector", .text "#a"), ("waitMillis", .int 4)])]
    let a := [("waitMode", Json.text "time"), ("waitMillis", .int 7), ("wait_mode", .int 1)]
    let b := [("waitMillis", Json.null), ("timeoutMillis", .int 3)]
    let p := Params.wait (.text "time") (.text "#a") .null (.int 3)
    ((Table.keys a).Nodup ∧ (Table.keys b).Nodup ∧
      (∃ changed, (updateParams "wait-1" a s).result = .ok changed) ∧
        ∃ changed, (updateParams "wait-1" b s).result = .ok changed) ∧
      ∀ once ∈ [updateParams "wait-1" b (updateParams "wait-1" a s).state,
          updateParams "wait-1" (Table.merge a b) s],
        once.Leaves
          { s with graph := s.graph.updateNode "wait-1" fun other => { other with params := p } }
          [.nodeUpdated "wait-1" p.pairs] (.ok { id := "wait-1", kind := .wait, params := p }) := by
  intro s a b p
  have ha : (Table.keys a).Nodup := by decide
  have hb : (Table.keys b).Nodup := by decide
  have hfirst : ∃ changed, (updateParams "wait-1" a s).result = .ok changed := ⟨_, rfl⟩
  have hsecond : ∃ changed, (updateParams "wait-1" b s).result = .ok changed := ⟨_, rfl⟩
  refine ⟨⟨ha, hb, hfirst, hsecond⟩, ?_⟩
  obtain ⟨node, q, hnode, hshape, hget, honce, -⟩ :=
    updates_compose "s" "flow" [] _ "wait-1" a b ha hb hfirst hsecond
  let start : Node :=
    ⟨"wait-1", .wait, {}, .wait .null (.text "#a") (.int 4) .null⟩
  have hstart : s.graph.node? "wait-1" = some start := rfl
  obtain rfl := Option.some.inj (hstart.symm.trans hnode)
  have hq : q = p := by
    refine Params.ext_get hshape fun field => ?_
    by_cases hfield : field ∈ Shape.wait.fields
    · rw [hget field hfield]
      revert hfield
      cases field <;> decide
    · rw [Params.get_of_notMem (by rwa [hshape]), Params.get_of_notMem (p := p) hfield]
  rwa [hq] at honce

end Editor.Session

end BrowserFlow
