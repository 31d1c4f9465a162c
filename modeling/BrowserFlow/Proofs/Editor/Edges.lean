import BrowserFlow.Proofs.Editor.Consistent
import BrowserFlow.Proofs.Flow.EdgeId

/-!
# Edges of a session that reads no document

A session gives every step an id of two words with a hyphen between them, and joins two steps
by one edge at most, which has its default id. Flows of this kind have `OwnIds`, and all calls
but those that read a document keep it (`ownIds_after`). Since all ids of steps have equally
many hyphens, the id of an edge tells which steps it joins (`OwnIds.eq_of_id`). So whoever
joins two steps gets the id under which just this connection is removed again
(`edgeIds_identify`).
-/

namespace BrowserFlow

/-- A flow whose steps have ids with one hyphen each, and whose edges have their default ids,
no two of them with the same ends. -/
structure Graph.OwnIds (g : Graph) : Prop where
  one_hyphen : ∀ id ∈ g.nodeIds, id.toList.count '-' = 1
  eq_between : ∀ edge ∈ g.edges, edge = .between edge.source edge.target
  nodup_ends : (g.edges.map Edge.ends).Nodup

namespace Graph

theorem notMem_ends_iff {g : Graph} {source target : String} :
    (source, target) ∉ g.edges.map Edge.ends ↔ g.edgeBetween? source target = none := by
  simp [edgeBetween?, Edge.ends]

theorem ends_of_edgeBetween? {g : Graph} {source target : String} {edge : Edge}
    (h : g.edgeBetween? source target = some edge) : edge.ends = (source, target) := by
  have hends : edge.source = source ∧ edge.target = target := by simpa using List.find?_some h
  rw [Edge.ends, hends.1, hends.2]

namespace OwnIds

variable {g : Graph}

theorem sublist (h : g.OwnIds) {g' : Graph} (hnodes : g'.nodeIds ⊆ g.nodeIds)
    (hedges : g'.edges.Sublist g.edges) : g'.OwnIds where
  one_hyphen id hid := h.one_hyphen id (hnodes hid)
  eq_between edge hedge := h.eq_between edge (hedges.subset hedge)
  nodup_ends := h.nodup_ends.sublist (hedges.map Edge.ends)

theorem insertNode (h : g.OwnIds) {node : Node} (hid : node.id.toList.count '-' = 1) :
    (g.insertNode node).OwnIds where
  one_hyphen := by
    rw [nodeIds_insertNode, List.forall_mem_append, List.forall_mem_singleton]
    exact ⟨h.one_hyphen, hid⟩
  eq_between := h.eq_between
  nodup_ends := h.nodup_ends

theorem insertEdge (h : g.OwnIds) {source target : String}
    (hnew : g.edgeBetween? source target = none) :
    (g.insertEdge (.between source target)).OwnIds where
  one_hyphen := h.one_hyphen
  eq_between := by
    rw [Graph.insertEdge, List.forall_mem_append, List.forall_mem_singleton]
    exact ⟨h.eq_between, rfl⟩
  nodup_ends := by
    rw [Graph.insertEdge, List.map_append]
    exact nodup_append_singleton_iff.mpr ⟨notMem_ends_iff.mpr hnew, h.nodup_ends⟩

theorem eq_of_id (h : g.OwnIds) (hg : g.Sound) {first second : Edge} (hfirst : first ∈ g.edges)
    (hsecond : second ∈ g.edges) (hid : first.id = second.id) : first = second := by
  have hcount : ∀ edge ∈ g.edges, edge.ends.1.toList.count '-' = 1 :=
    fun edge hedge => h.one_hyphen _ (hg.source_mem edge hedge)
  have hfirstId : first.id = Edge.defaultId first.ends.1 first.ends.2 :=
    congrArg Edge.id (h.eq_between first hfirst)
  have hsecondId : second.id = Edge.defaultId second.ends.1 second.ends.2 :=
    congrArg Edge.id (h.eq_between second hsecond)
  have hends : first.ends = second.ends := by
    apply Edge.ends_of_defaultId
    · rw [hcount first hfirst, hcount second hsecond]
    · rw [← hfirstId, ← hsecondId, hid]
  exact List.inj_on_of_nodup_map h.nodup_ends hfirst hsecond hends

theorem nodup_edgeIds (h : g.OwnIds) (hg : g.Sound) : g.edgeIds.Nodup :=
  (h.nodup_ends.of_map _).map_on fun _ hfirst _ hsecond => h.eq_of_id hg hfirst hsecond

theorem edge?_id (h : g.OwnIds) (hg : g.Sound) {edge : Edge} (hedge : edge ∈ g.edges) :
    g.edge? edge.id = some edge := by
  cases hfind : g.edge? edge.id with
  | none =>
      have hnone := List.find?_eq_none.mp hfind edge hedge
      exact absurd (decide_eq_true rfl) hnone
  | some found =>
      have hid : found.id = edge.id := by simpa using List.find?_some hfind
      rw [h.eq_of_id hg (List.mem_of_find?_eq_some hfind) hedge hid]

end OwnIds

end Graph

namespace Editor

open BrowserFlow.Action Session

theorem count_numberedId (kind : Kind) (n : Nat) : (numberedId kind n).toList.count '-' = 1 := by
  rw [toList_numberedId, List.count_append, List.count_cons_self,
    List.count_eq_zero.mpr (hyphen_notMem_name kind), List.count_eq_zero.mpr (hyphen_notMem_repr n)]

theorem ownIds_initialGraph : initialGraph.OwnIds where
  one_hyphen := by decide
  eq_between := by decide
  nodup_ends := by decide

/-- All effects but the reading of a flow keep the ids of a flow its own. -/
theorem ownIds_apply {s : Session} (h : s.graph.OwnIds) {effect : Effect}
    (hallowed : effect.Allowed s) (hread : ∀ g, effect ≠ .imported g) :
    (effect.apply s).graph.OwnIds := by
  have hupdated (id : String) {f : Node → Node} (hf : ∀ node, (f node).id = node.id) :
      (s.graph.updateNode id f).OwnIds := by
    refine h.sublist ?_ (.refl _)
    rw [Graph.nodeIds_updateNode _ id hf]
    exact List.Subset.refl _
  cases effect with
  | nothing | told event | renamed name => exact h
  | added node number =>
      obtain ⟨-, hid, -⟩ := hallowed
      exact h.insertNode (hid ▸ count_numberedId node.kind number)
  | updated node changes => exact hupdated node.id fun _ => rfl
  | moved node position => exact hupdated node.id fun _ => rfl
  | removed id =>
      refine h.sublist ?_ List.filter_sublist
      rw [Effect.apply, Graph.nodeIds_removeNode]
      exact List.filter_subset_self _
  | joined source target => exact h.insertEdge hallowed.2.2
  | parted edge => exact h.sublist (List.Subset.refl _) List.erase_sublist
  | cleared => exact ownIds_initialGraph
  | imported g => exact absurd rfl (hread g)

namespace Session

theorem ownIds_after {s : Session} (h : s.graph.OwnIds) {calls : List Call}
    (hread : ∀ limits document, Call.load limits document ∉ calls) :
    (s.after calls).graph.OwnIds := by
  refine after_induction_of_causes (P := fun s => s.graph.OwnIds) h ?_
  intro call hcall s effect hs hcauses hallowed
  refine ownIds_apply hs hallowed ?_
  rintro g rfl
  obtain ⟨limits, document, rfl⟩ := Call.exists_load_of_causes hcauses
  exact hread limits document hcall

theorem leaves_connect_of_edgeBetween? {source target : String} {s : Session} {edge : Edge}
    (hsource : source ∈ s.graph.nodeIds) (htarget : target ∈ s.graph.nodeIds)
    (hedge : s.graph.edgeBetween? source target = some edge) :
    (connect source target s).Leaves s [] (.ok edge) := by
  obtain ⟨first, hfirst⟩ := Graph.mem_nodeIds_iff.mp hsource
  obtain ⟨second, hsecond⟩ := Graph.mem_nodeIds_iff.mp htarget
  refine (looks_findNode source).leaves_bind (result_findNode_eq_ok_iff.mpr hfirst) ?_
  refine (looks_findNode target).leaves_bind (result_findNode_eq_ok_iff.mpr hsecond) ?_
  refine looks_read.leaves_bind rfl ?_
  rw [hedge]
  exact ⟨rfl, rfl, rfl⟩

theorem leaves_removeEdge {s : Session} (h : s.graph.OwnIds) (hs : s.graph.Sound) {edge : Edge}
    (hedge : edge ∈ s.graph.edges) :
    (removeEdge edge.id s).Leaves
      { s with graph := { s.graph with edges := s.graph.edges.filter (· ≠ edge) } }
      [.edgeRemoved edge.id] (.ok ()) := by
  have hnodup : s.graph.edges.Nodup := h.nodup_ends.of_map _
  have herase : s.graph.edges.filter (· ≠ edge) = s.graph.edges.erase edge := by
    rw [hnodup.erase_eq_filter]
    exact List.filter_congr fun other _ => by simp [bne, BEq.beq]
  rw [herase]
  refine looks_read.leaves_bind rfl ?_
  rw [h.edge?_id hs hedge]
  exact ⟨rfl, rfl, rfl⟩

/-- The edge that two steps are joined by, whether it was there before or not. -/
theorem exists_connected {s : Session} (h : s.graph.OwnIds) (hs : s.graph.Sound)
    {source target : String} (hsource : source ∈ s.graph.nodeIds)
    (htarget : target ∈ s.graph.nodeIds) :
    ∃ edge g, (connect source target s).state = { s with graph := g } ∧
      (connect source target s).result = .ok edge ∧ g.OwnIds ∧ g.Sound ∧ edge ∈ g.edges ∧
      g.nodes = s.graph.nodes ∧ edge.ends = (source, target) ∧
      (s.graph.edgeBetween? source target = none →
        g.edges.filter (· ≠ edge) = s.graph.edges) := by
  cases hedge : s.graph.edgeBetween? source target with
  | some edge =>
      have hleaves := leaves_connect_of_edgeBetween? hsource htarget hedge
      exact ⟨edge, s.graph, hleaves.state_eq, hleaves.result_eq, h, hs,
        List.mem_of_find?_eq_some hedge, rfl, Graph.ends_of_edgeBetween? hedge, nofun⟩
  | none =>
      have hleaves := leaves_connect ⟨hsource, htarget, hedge⟩
      refine ⟨.between source target, s.graph.insertEdge (.between source target),
        hleaves.state_eq, hleaves.result_eq, h.insertEdge hedge, hs.insertEdge hsource htarget,
        List.mem_append_right _ (List.mem_singleton_self _), rfl, rfl, fun _ => ?_⟩
      have hnew : Edge.between source target ∉ s.graph.edges := by
        intro hmem
        exact Graph.notMem_ends_iff.mpr hedge (List.mem_map_of_mem hmem)
      have hkept : s.graph.edges.filter (· ≠ Edge.between source target) = s.graph.edges :=
        List.filter_eq_self.mpr fun other hother =>
          decide_eq_true (ne_of_mem_of_not_mem hother hnew)
      rw [Graph.insertEdge, List.filter_append, hkept]
      simp

/-- After a run that reads no document, no two edges have the same ends and no two have the same
id. Two steps that exist can be joined, and removing the edge under the id that is given back
removes the edge between them and no other; if they were not joined before, the edges are then
those that were there. -/
theorem edgeIds_identify (sessionId name : String) (listeners : List Listener)
    (calls : List Call) (hread : ∀ limits document, Call.load limits document ∉ calls) :
    let s := (create sessionId name listeners).after calls
    (s.graph.edges.map Edge.ends).Nodup ∧ s.graph.edgeIds.Nodup ∧
      ∀ source ∈ s.graph.nodeIds, ∀ target ∈ s.graph.nodeIds,
        let t := (connect source target s).state
        ∃ edge, (connect source target s).result = .ok edge ∧
          (∀ other, other ∈ t.graph.edges ∧ other.ends = (source, target) ↔ other = edge) ∧
          (removeEdge edge.id t).Leaves
            { s with graph := { s.graph with edges := t.graph.edges.filter (· ≠ edge) } }
            [.edgeRemoved edge.id] (.ok ()) ∧
          (s.graph.edgeBetween? source target = none →
            t.graph.edges.filter (· ≠ edge) = s.graph.edges) := by
  intro s
  have h : s.graph.OwnIds := ownIds_after ownIds_initialGraph hread
  have hs : s.graph.Sound := (consistent_after sessionId name listeners calls).sound
  refine ⟨h.nodup_ends, h.nodup_edgeIds hs, ?_⟩
  intro source hsource target htarget t
  obtain ⟨edge, g, hstate, hresult, hg, hsound, hmem, hnodes, hends, hback⟩ :=
    exists_connected h hs hsource htarget
  have ht : t = { s with graph := g } := hstate
  rw [ht]
  refine ⟨edge, hresult, ?_, ?_, hback⟩
  · intro other
    constructor
    · rintro ⟨hother, hsame⟩
      exact List.inj_on_of_nodup_map hg.nodup_ends hother hmem (hsame.trans hends.symm)
    · rintro rfl
      exact ⟨hmem, hends⟩
  · have hleaves := leaves_removeEdge (s := { s with graph := g }) hg hsound hmem
    simpa only [hnodes] using hleaves

/-- A second start is joined to the first one, and a wait is joined to it and parted again. -/
theorem edgeIds_identify_wait :
    let calls := [Call.add (.text "wait") .null .null, .add (.text "start") .null .null,
      .connect (.text "start-node") (.text "start-2")]
    let s := (create "s" "flow" []).after calls
    (∀ limits document, Call.load limits document ∉ calls) ∧ s.graph.edgeIds.length = 1 ∧
      ∃ edge, (connect "start-node" "wait-1" s).result = .ok edge ∧
        (removeEdge edge.id (connect "start-node" "wait-1" s).state).Leaves s
          [.edgeRemoved edge.id] (.ok ()) := by
  intro calls s
  have hread : ∀ limits document, Call.load limits document ∉ calls := by simp [calls]
  obtain ⟨-, -, hall⟩ := edgeIds_identify "s" "flow" [] calls hread
  have hnew : s.graph.edgeBetween? "start-node" "wait-1" = none := by decide
  obtain ⟨edge, hresult, -, hleaves, hback⟩ :=
    hall "start-node" (by decide) "wait-1" (by decide)
  rw [hback hnew] at hleaves
  exact ⟨hread, by decide, edge, hresult, hleaves⟩

end Session

end Editor

end BrowserFlow
