import BrowserFlow.Proofs.Editor.Effect
import BrowserFlow.Proofs.Flow.Entered

/-!
# What changes of a step leave behind

A change of parameters and a move look their step up, check what they are given and put
something else in the place of the step. What each leaves behind is settled by the step that is
found and by the check (`leaves_updateParams`, `leaves_moveNode`). The check of parameters
either keeps all those that the kind has, and each is given a value that it admits, or it fails
for one that is not (`Document.result_checkParams_cases`). Those that the kind does not have play
no part (`leaves_updateParams_filter`).

Where no two steps share an id, a change of the steps of an id puts one step in the place of
another (`Graph.updateNode_of_node?`).
-/

namespace BrowserFlow

open BrowserFlow.Action

namespace Graph

theorem updateNode_of_node? {g : Graph} (h : g.nodeIds.Nodup) {id : String} {node : Node}
    (hnode : g.node? id = some node) (f : Node → Node) :
    g.updateNode id f = g.updateNode id fun _ => f node := by
  rw [updateNode, updateNode, Graph.mk.injEq]
  refine ⟨List.map_congr_left fun other hother => ?_, rfl⟩
  split
  · rename_i hid
    have hfound := node?_id h hother
    rw [hid, hnode] at hfound
    rw [Option.some.inj hfound]
  · rfl

theorem updateNode_self {g : Graph} (h : g.nodeIds.Nodup) {id : String} {node : Node}
    (hnode : g.node? id = some node) : (g.updateNode id fun _ => node) = g := by
  rw [← updateNode_of_node? h hnode fun other => other, updateNode]
  simp

theorem updateNode_updateNode (g : Graph) {first : Node} (second : Node) :
    (g.updateNode first.id fun _ => first).updateNode first.id (fun _ => second) =
      g.updateNode first.id fun _ => second := by
  simp only [updateNode, List.map_map, Graph.mk.injEq, and_true]
  refine List.map_congr_left fun other _ => ?_
  by_cases hid : other.id = first.id <;> simp [hid]

@[simp] theorem nodeIds_updateNode_id (g : Graph) (node : Node) :
    (g.updateNode node.id fun _ => node).nodeIds = g.nodeIds := by
  rw [updateNode, nodeIds, nodeIds, List.map_map]
  refine List.map_congr_left fun other _ => ?_
  by_cases hid : other.id = node.id <;> simp [hid]

theorem node?_updateNode {g : Graph} {node : Node} (h : node.id ∈ g.nodeIds) :
    (g.updateNode node.id fun _ => node).node? node.id = some node := by
  obtain ⟨old, hold⟩ := mem_nodeIds_iff.mp h
  have hids :
      (fun other : Node => decide ((if other.id = node.id then node else other).id = node.id)) =
      fun other => decide (other.id = node.id) := by
    funext other
    split <;> simp [*]
  have hfind : g.nodes.find? (fun other => other.id = node.id) = some old := hold
  rw [node?, updateNode, List.find?_map, Function.comp_def, hids, hfind, Option.map_some,
    if_pos (id_of_node? hold)]

end Graph

namespace Document

variable {place : String} {kind : Kind} {changes : Table Json}

theorem result_checkParams_cons_of_none {key : String} (h : kind.shape.field? key = none)
    (v : Json) :
    (checkParams place kind ((key, v) :: changes)).result =
      (checkParams place kind changes).result := by
  rw [checkParams, h]
  exact Journaled.result_bind _ _

theorem result_checkParams_cons_of_some {key : String} {field : Field}
    (h : kind.shape.field? key = some field) (v : Json) :
    (checkParams place kind ((key, v) :: changes)).result =
      if field.accepts v then (checkParams place kind changes).result.map ((key, v) :: ·)
      else .error (.param place field) := by
  rw [checkParams, h]
  simp only [Journaled.result_bind, Journaled.require]
  split
  · cases (checkParams place kind changes).result <;> rfl
  · rfl

/-- The value of a parameter is not one that it admits, and the parameter is one of the kind. -/
theorem result_checkParams_cases (place : String) (kind : Kind) (changes : Table Json) :
    (∀ entry ∈ changes, ∀ field, kind.shape.field? entry.1 = some field → field.Admits entry.2) ∧
        (checkParams place kind changes).result =
          .ok (changes.filter fun entry => (kind.shape.field? entry.1).isSome) ∨
      ∃ field ∈ kind.shape.fields, ∃ v, (field.name, v) ∈ changes ∧ ¬ field.Admits v ∧
        (checkParams place kind changes).result = .error (.param place field) := by
  induction changes with
  | nil => exact Or.inl ⟨fun entry hentry => absurd hentry List.not_mem_nil, rfl⟩
  | cons entry changes ih =>
      obtain ⟨key, v⟩ := entry
      cases hfield : kind.shape.field? key with
      | none =>
          rw [result_checkParams_cons_of_none hfield]
          rcases ih with ⟨hall, hkept⟩ | ⟨field, hmem, w, hw, hrefused⟩
          · left
            refine ⟨List.forall_mem_cons.mpr ⟨?_, hall⟩, ?_⟩
            · intro field hsome
              rw [hfield] at hsome
              cases hsome
            · rw [hkept, List.filter_cons_of_neg (by simp [hfield])]
          · exact Or.inr ⟨field, hmem, w, List.mem_cons_of_mem _ hw, hrefused⟩
      | some field =>
          rw [result_checkParams_cons_of_some hfield]
          obtain ⟨hmem, rfl⟩ := Shape.field?_eq_some_iff.mp hfield
          by_cases haccepts : field.accepts v = true
          · rw [if_pos haccepts]
            rcases ih with ⟨hall, hkept⟩ | ⟨other, hother, w, hw, hrefuses, hrefused⟩
            · left
              refine ⟨List.forall_mem_cons.mpr ⟨?_, hall⟩, ?_⟩
              · intro other hsome
                rw [hfield] at hsome
                rw [← Option.some.inj hsome]
                exact Field.accepts_iff_admits.mp haccepts
              · rw [hkept, List.filter_cons_of_pos (by simp [hfield])]
                rfl
            · right
              refine ⟨other, hother, w, List.mem_cons_of_mem _ hw, hrefuses, ?_⟩
              rw [hrefused]
              rfl
          · right
            rw [if_neg haccepts]
            exact ⟨field, hmem, v, List.mem_cons_self,
              mt Field.accepts_iff_admits.mpr haccepts, rfl⟩

/-- Parameters that the kind does not have are neither kept nor refused. -/
theorem result_checkParams_filter (place : String) (kind : Kind) (changes : Table Json) :
    (checkParams place kind
        (changes.filter fun entry => (kind.shape.field? entry.1).isSome)).result =
      (checkParams place kind changes).result := by
  induction changes with
  | nil => rfl
  | cons entry changes ih =>
      obtain ⟨key, v⟩ := entry
      cases hfield : kind.shape.field? key with
      | none =>
          rw [List.filter_cons_of_neg (by simp [hfield]), ih,
            result_checkParams_cons_of_none hfield]
      | some field =>
          rw [List.filter_cons_of_pos (by simp [hfield]),
            result_checkParams_cons_of_some hfield, result_checkParams_cons_of_some hfield, ih]

/-- Changes that each pass by themselves pass together. -/
theorem result_checkParams_merge {a b : Table Json}
    (ha : (checkParams place kind a).result =
      .ok (a.filter fun entry => (kind.shape.field? entry.1).isSome))
    (hb : (checkParams place kind b).result =
      .ok (b.filter fun entry => (kind.shape.field? entry.1).isSome)) :
    (checkParams place kind (Table.merge a b)).result =
      .ok ((Table.merge a b).filter fun entry => (kind.shape.field? entry.1).isSome) := by
  obtain ⟨hafit, -⟩ := result_checkParams_eq_ok_iff.mp ha
  obtain ⟨hbfit, -⟩ := result_checkParams_eq_ok_iff.mp hb
  refine result_checkParams_eq_ok_iff.mpr ⟨fun entry hentry => ?_, rfl⟩
  rcases Table.mem_merge hentry with hentry | hentry
  · exact hafit entry hentry
  · exact hbfit entry hentry

end Document

namespace Editor.Session

variable {s : Session} {id : String} {node : Node}

theorem leaves_findNode (h : s.graph.node? id = some node) :
    (findNode id s).Leaves s [] (.ok node) := by
  have hleaves := (looks_findNode id).leaves s
  rwa [result_findNode_eq_ok_iff.mpr h] at hleaves

theorem leaves_findNode_of_none (h : s.graph.node? id = none) :
    (findNode id s).Leaves s [] (.error (.unknownNode id)) := by
  have hleaves := (looks_findNode id).leaves s
  rwa [result_findNode, h] at hleaves

theorem leaves_updateParams (hnode : s.graph.node? id = some node) {changes kept : Table Json}
    (hkept : (Document.checkParams "params" node.kind changes).result = .ok kept) :
    (updateParams id changes s).Leaves
      { s with graph := s.graph.updateNode id fun other =>
        { other with params := node.params.merged kept } }
      [.nodeUpdated id (node.params.merged kept).pairs]
      (.ok { node with params := node.params.merged kept }) := by
  refine (looks_findNode id).leaves_bind (result_findNode_eq_ok_iff.mpr hnode) ?_
  have hchecked : (requireParams node.kind changes s).result = .ok kept :=
    Journaled.mapError_eq_ok_iff.mpr hkept
  exact (looks_requireParams node.kind changes).leaves_bind hchecked ⟨rfl, rfl, rfl⟩

theorem leaves_updateParams_of_refused (hnode : s.graph.node? id = some node)
    {changes : Table Json} {fault : ValueFault}
    (hfault : (Document.checkParams "params" node.kind changes).result = .error fault) :
    (updateParams id changes s).Leaves s [] (.error (.invalidValue fault)) := by
  refine (looks_findNode id).leaves_bind (result_findNode_eq_ok_iff.mpr hnode) ?_
  have hrefused : (requireParams node.kind changes s).result = .error (.invalidValue fault) := by
    change ((Document.checkParams "params" node.kind changes).result).mapError _ = _
    rw [hfault]
    rfl
  have hleaves := (looks_requireParams node.kind changes).leaves s
  rw [hrefused] at hleaves
  exact hleaves.bind_error

/-- Changes that pass give the parameters of the step what they give under their names. -/
theorem leaves_updateParams_entered (h : s.graph.nodeIds.Nodup)
    (hnode : s.graph.node? id = some node) (hshape : node.params.shape = node.kind.shape)
    {changes : Table Json}
    (hkept : (Document.checkParams "params" node.kind changes).result =
      .ok (changes.filter fun entry => (node.kind.shape.field? entry.1).isSome)) :
    (updateParams id changes s).Leaves
      { s with graph := s.graph.updateNode id fun _ =>
        { node with params := node.params.entered changes } }
      [.nodeUpdated id (node.params.entered changes).pairs]
      (.ok { node with params := node.params.entered changes }) := by
  have hupdated := leaves_updateParams hnode hkept
  rwa [Graph.updateNode_of_node? h hnode, ← hshape, Params.merged_filter] at hupdated

theorem exists_of_result_updateParams {changes : Table Json} {changed : Node}
    (h : (updateParams id changes s).result = .ok changed) :
    ∃ node, s.graph.node? id = some node ∧
      (Document.checkParams "params" node.kind changes).result =
        .ok (changes.filter fun entry => (node.kind.shape.field? entry.1).isSome) := by
  cases hnode : s.graph.node? id with
  | none =>
      have hleaves : (updateParams id changes s).Leaves s [] (.error (.unknownNode id)) :=
        (leaves_findNode_of_none hnode).bind_error
      rw [hleaves.result_eq] at h
      cases h
  | some node =>
      refine ⟨node, rfl, ?_⟩
      rcases Document.result_checkParams_cases "params" node.kind changes with
        ⟨-, hkept⟩ | ⟨field, -, v, -, -, hrefused⟩
      · exact hkept
      · rw [(leaves_updateParams_of_refused hnode hrefused).result_eq] at h
        cases h

/-- A change without the parameters that the kind of the step does not have is the same change. -/
theorem leaves_updateParams_filter (hnode : s.graph.node? id = some node)
    (changes : Table Json) :
    (updateParams id (changes.filter fun entry => (node.kind.shape.field? entry.1).isSome) s).Leaves
      (updateParams id changes s).state (updateParams id changes s).events
      (updateParams id changes s).result := by
  have hfilter := Document.result_checkParams_filter "params" node.kind changes
  cases hresult : (Document.checkParams "params" node.kind changes).result with
  | ok kept =>
      have hleaves := leaves_updateParams hnode hresult
      rw [hleaves.state_eq, hleaves.events_eq, hleaves.result_eq]
      exact leaves_updateParams hnode (hfilter.trans hresult)
  | error fault =>
      have hleaves := leaves_updateParams_of_refused hnode hresult
      rw [hleaves.state_eq, hleaves.events_eq, hleaves.result_eq]
      exact leaves_updateParams_of_refused hnode (hfilter.trans hresult)

theorem leaves_moveNode (hnode : s.graph.node? id = some node) {x y : Json}
    (hnumeric : Position.isNumeric ⟨x, y⟩ = true) :
    (moveNode id x y s).Leaves
      { s with graph := s.graph.updateNode id fun other => { other with position := ⟨x, y⟩ } } []
      (.ok { node with position := ⟨x, y⟩ }) := by
  refine (looks_findNode id).leaves_bind (result_findNode_eq_ok_iff.mpr hnode) ?_
  have hchecked : (requirePosition x y s).result = .ok ⟨x, y⟩ :=
    Journaled.mapError_eq_ok_iff.mpr (Document.checkPosition_eq_ok_iff.mpr ⟨hnumeric, rfl⟩)
  exact (looks_requirePosition x y).leaves_bind hchecked ⟨rfl, rfl, rfl⟩

end Editor.Session

end BrowserFlow
