import BrowserFlow.Proofs.Document.Grammar
import BrowserFlow.Proofs.Document.RoundTrip
import BrowserFlow.Proofs.Flow.EdgeId

/-!
# Documents whose edges have no ids

A document may leave out the ids of its edges, which then get the default ids of their ends.
`OmitsIds document pairs` says that a document is as it should be but for that, with edges that
join `pairs` in this order. Such a document describes the flow with these edges, unless two of
the default ids are the same, and then it is refused for nothing else. Edges with distinct ends
have distinct default ids just if no two pairs of ends overlap
(`result_importWithin_of_omitsIds`), which depends on the hyphens in the ids of the steps.
-/

namespace BrowserFlow.Document

open Journaled

/-- `Joins nodeIds entry (source, target)` says that an entry is an edge without an id between
these steps of the document, in the present form or in that of the earlier editor. -/
inductive Joins (nodeIds : List String) : Json → String × String → Prop where
  | present {fields : Table Json} {source target : String}
      (source_eq : Table.get? fields "sourceNodeId" = some (.text source))
      (target_eq : Table.get? fields "targetNodeId" = some (.text target))
      (source_mem : source ∈ nodeIds) (target_mem : target ∈ nodeIds)
      (no_id : Table.get? fields "id" = none) : Joins nodeIds (.object fields) (source, target)
  | legacy {fields : Table Json} {source target : String}
      (no_source : Table.get? fields "sourceNodeId" = none)
      (source_eq : Table.get? fields "source" = some (.text source))
      (target_eq : Table.get? fields "target" = some (.text target))
      (source_mem : source ∈ nodeIds) (target_mem : target ∈ nodeIds)
      (no_id : Table.get? fields "id" = none) : Joins nodeIds (.object fields) (source, target)

/-- A document with steps under distinct ids, and edges without ids that join them. -/
inductive OmitsIds : Json → List (String × String) → Prop where
  | document {fields : Table Json} {nodeItems edgeItems : List Json} {nodes : Read}
      {pairs : List (String × String)}
      (nodes_eq : Table.get? fields "nodes" = some (.list nodeItems))
      (edges_eq : Table.get? fields "edges" = some (.list edgeItems))
      (nodes_read : List.Forall₂ ReadsNode nodeItems nodes)
      (nodes_nodup : (Table.keys nodes).Nodup)
      (edges_joined : List.Forall₂ (Joins (Table.keys nodes)) edgeItems pairs) :
      OmitsIds (.object fields) pairs

def defaultIds (pairs : List (String × String)) : List String :=
  pairs.map fun ends => Edge.defaultId ends.1 ends.2

def defaultEdges (pairs : List (String × String)) : List Edge :=
  pairs.map fun ends => .between ends.1 ends.2

theorem map_id_defaultEdges (pairs : List (String × String)) :
    (defaultEdges pairs).map Edge.id = defaultIds pairs :=
  List.map_map

/-- What the check of an edge without an id comes to depends on the ids before it only. -/
theorem result_checkEdge_of_noId {nodeIds seen : List String} {index : Nat} {fields : Table Json}
    {source target : String} (hsource : Table.get? fields "sourceNodeId" = some (.text source))
    (htarget : Table.get? fields "targetNodeId" = some (.text target))
    (hsourceMem : source ∈ nodeIds) (htargetMem : target ∈ nodeIds)
    (hid : Table.get? fields "id" = none) :
    (checkEdge nodeIds seen index (.object fields)).result =
      if Edge.defaultId source target ∈ seen then
        .error (.repeatedId .edges index (Edge.defaultId source target))
      else
        .ok ⟨.between source target,
          Table.set fields "id" (.text (Edge.defaultId source target))⟩ := by
  have hs : (edgeEnd nodeIds index "sourceNodeId" (.text source)).result = .ok source :=
    result_edgeEnd_eq_ok_iff.mpr ⟨hsourceMem, rfl⟩
  have ht : (edgeEnd nodeIds index "targetNodeId" (.text target)).result = .ok target :=
    result_edgeEnd_eq_ok_iff.mpr ⟨htargetMem, rfl⟩
  simp only [checkEdge, required, hsource, htarget, hid, asText, Option.getD_none, result_bind,
    result_pure, Except.bind, hs, ht, require]
  by_cases hmem : Edge.defaultId source target ∈ seen
  · rw [if_pos hmem, if_neg (not_not.mpr hmem)]
    rfl
  · rw [if_neg hmem, if_pos hmem]
    rfl

theorem exists_checkEdge_of_joins {nodeIds : List String} {entry : Json}
    {ends : String × String} (h : Joins nodeIds entry ends) :
    ∃ fields, ∀ seen index,
      (checkEdge nodeIds seen index (Legacy.modernEdge entry)).result =
        if Edge.defaultId ends.1 ends.2 ∈ seen then
          .error (.repeatedId .edges index (Edge.defaultId ends.1 ends.2))
        else .ok ⟨.between ends.1 ends.2, fields⟩ := by
  cases h with
  | @present fields source target hsource htarget hsourceMem htargetMem hid =>
      have hmodern : Legacy.modernEdge (.object fields) = .object fields := by
        simp [Legacy.modernEdge, hsource]
      rw [hmodern]
      exact ⟨_, fun _ _ => result_checkEdge_of_noId hsource htarget hsourceMem htargetMem hid⟩
  | @legacy fields source target hnone hsource htarget hsourceMem htargetMem hid =>
      obtain ⟨hsource', htarget', hid', -⟩ :=
        get?_modernEdge fields (.text source) (.text target)
      simp only [Legacy.modernEdge, hnone, hsource, Legacy.fieldOrNull, htarget, Option.getD_some]
      exact ⟨_, fun _ _ =>
        result_checkEdge_of_noId hsource' htarget' hsourceMem htargetMem (hid'.trans hid)⟩

/-- Edges without ids are read with their default ids, or one of these is there already. -/
theorem result_checkEdges_of_joins {nodeIds : List String} {entries : List Json}
    {pairs : List (String × String)} (h : List.Forall₂ (Joins nodeIds) entries pairs)
    (seen : List String) (index : Nat) :
    (∃ read, (checkEdges nodeIds seen index (entries.map Legacy.modernEdge)).result = .ok read ∧
        read.map EdgeEntry.edge = defaultEdges pairs) ∨
      ¬ (seen ++ defaultIds pairs).Nodup ∧
        ∃ place id, (checkEdges nodeIds seen index (entries.map Legacy.modernEdge)).result =
          .error (.repeatedId .edges place id) := by
  induction h generalizing seen index with
  | nil => exact Or.inl ⟨[], rfl, rfl⟩
  | @cons entry ends entries pairs hentry _ ih =>
      let id := Edge.defaultId ends.1 ends.2
      obtain ⟨fields, hcheck⟩ := exists_checkEdge_of_joins hentry
      have hcons : (checkEdges nodeIds seen index
            ((entry :: entries).map Legacy.modernEdge)).result =
          if id ∈ seen then .error (.repeatedId .edges index id)
          else (checkEdges nodeIds (seen ++ [id]) (index + 1)
            (entries.map Legacy.modernEdge)).result.map
              (⟨.between ends.1 ends.2, fields⟩ :: ·) := by
        simp only [List.map_cons, checkEdges, result_bind, hcheck]
        split
        · rfl
        · change (checkEdges nodeIds (seen ++ [id]) (index + 1)
              (entries.map Legacy.modernEdge)).result.bind (fun rest =>
                .ok (⟨.between ends.1 ends.2, fields⟩ :: rest)) = _
          cases (checkEdges nodeIds (seen ++ [id]) (index + 1)
            (entries.map Legacy.modernEdge)).result <;> rfl
      rw [hcons]
      by_cases hid : id ∈ seen
      · rw [if_pos hid]
        refine Or.inr ⟨fun hnodup => ?_, index, id, rfl⟩
        exact (List.nodup_append.mp hnodup).2.2 id hid id List.mem_cons_self rfl
      · rw [if_neg hid]
        rcases ih (seen ++ [id]) (index + 1) with
          ⟨read, hread, hedges⟩ | ⟨hrepeated, place, other, hrefused⟩
        · refine Or.inl ⟨⟨.between ends.1 ends.2, fields⟩ :: read, by rw [hread]; rfl, ?_⟩
          rw [List.map_cons, hedges]
          rfl
        · refine Or.inr ⟨?_, place, other, by rw [hrefused]; rfl⟩
          rwa [List.append_assoc] at hrepeated

/-- A document without ids of edges describes a flow of its edges, or repeats a default id. -/
theorem result_importGraph_of_omitsIds {document : Json} {pairs : List (String × String)}
    (h : OmitsIds document pairs) :
    (∃ g, (importGraph document).result = .ok g ∧ g.edges = defaultEdges pairs) ∨
      ¬ (defaultIds pairs).Nodup ∧
        ∃ place id, (importGraph document).result = .error (.repeatedId .edges place id) := by
  obtain @⟨fields, nodeItems, edgeItems, all, pairs, hnodes, hedges, hread, hnodup, hjoined⟩ := h
  obtain ⟨nodes, hnodesRead, rfl⟩ :=
    map_eq_ok_iff.mp (result_checkNodes_eq_ok_iff.mpr ⟨hread, hnodup⟩)
  have hids : Table.keys (nodes.map NodeEntry.read) = nodes.map fun entry => entry.node.id := by
    simp [Table.keys, NodeEntry.read, Function.comp_def]
  rw [hids] at hjoined
  -- once the steps have passed, all hangs on the edges
  have hcheck : (importGraph (.object fields)).result =
      (checkEdges (nodes.map fun entry => entry.node.id) [] 0
        (edgeItems.map Legacy.modernEdge)).result.map fun edges =>
          Checked.graph ⟨nodes, edges⟩ := by
    rw [result_importGraph]
    simp only [check, required, hnodes, hedges, entries, result_bind, result_pure, Except.bind,
      hnodesRead]
    cases (checkEdges (nodes.map fun entry => entry.node.id) [] 0
      (edgeItems.map Legacy.modernEdge)).result <;> rfl
  rw [hcheck]
  rcases result_checkEdges_of_joins hjoined [] 0 with
    ⟨edges, hedgesRead, heq⟩ | ⟨hrepeated, place, id, hrefused⟩
  · rw [hedgesRead]
    exact Or.inl ⟨_, rfl, heq⟩
  · rw [hrefused]
    exact Or.inr ⟨hrepeated, place, id, rfl⟩

/-- A document whose edges have no ids and distinct ends is taken just if no two pairs of ends
overlap. Then its edges have distinct ids, those that they get by default, in the order of the
document; else it is refused for a repeated id of an edge. -/
theorem result_importWithin_of_omitsIds {limits : Json.Limits} {document : Json}
    {pairs : List (String × String)} (hfits : fits limits document = true)
    (h : OmitsIds document pairs) (hpairs : pairs.Nodup) :
    ((∃ g, (importWithin limits document).result = .ok g) ↔
        ∀ first ∈ pairs, ∀ second ∈ pairs, ¬ Edge.Overlap first second) ∧
      (∀ g, (importWithin limits document).result = .ok g →
        g.edges = defaultEdges pairs ∧ g.edgeIds.Nodup) ∧
      ∀ refusal, (importWithin limits document).result = .error refusal →
        ∃ place id, refusal = .faulty (.repeatedId .edges place id) := by
  rw [importWithin_of_fits hfits, result_mapError, ← Edge.nodup_map_defaultId_iff hpairs]
  rcases result_importGraph_of_omitsIds h with ⟨g, hg, hedges⟩ | ⟨hnodup, place, id, hrefused⟩
  · have hids : g.edgeIds.Nodup := (sound_of_importGraph hg).2
    have hdefault : (defaultIds pairs).Nodup := by
      rwa [← map_id_defaultEdges, ← hedges]
    rw [hg, mapError_ok]
    refine ⟨⟨fun _ => hdefault, fun _ => ⟨g, rfl⟩⟩, ?_, nofun⟩
    rintro _ ⟨rfl⟩
    exact ⟨hedges, hids⟩
  · rw [hrefused, mapError_error]
    refine ⟨⟨nofun, fun hids => absurd hids hnodup⟩, nofun, ?_⟩
    rintro _ ⟨rfl⟩
    exact ⟨place, id, rfl⟩

def bareStep (id : String) (kind : Kind) : Json :=
  .object [("id", .text id), ("kind", .text kind.name)]

theorem readsNode_bareStep (id : String) (kind : Kind) :
    ReadsNode (bareStep id kind)
      (id, [("id", .text id), ("kind", .text kind.name), ("params", .object [])]) :=
  @ReadsNode.present _ _ _ kind rfl rfl (isPosition_of_none rfl) rfl (suits_nil _ _)

/-- Ids with hyphens whose pairs do not overlap, and an edge of the earlier editor. -/
theorem result_importWithin_of_omitsIds_hyphens :
    let document := Json.object
      [("nodes", .list [bareStep "a" .start, bareStep "a-b" .wait, bareStep "c" .wait]),
        ("edges", .list
          [.object [("sourceNodeId", .text "a"), ("targetNodeId", .text "a-b")],
            .object [("source", .text "a-b"), ("target", .text "c")]])]
    let pairs := [("a", "a-b"), ("a-b", "c")]
    fits .standard document = true ∧ OmitsIds document pairs ∧ pairs.Nodup ∧
      ∀ g, (importWithin .standard document).result = .ok g → g.edges = defaultEdges pairs := by
  intro document pairs
  have hdocument : OmitsIds document pairs :=
    .document rfl rfl (.cons (readsNode_bareStep _ _) (.cons (readsNode_bareStep _ _)
      (.cons (readsNode_bareStep _ _) .nil))) (by decide)
      (.cons (.present rfl rfl (by decide) (by decide) rfl)
        (.cons (.legacy rfl rfl rfl (by decide) (by decide) rfl) .nil))
  have hfits : fits .standard document = true := by decide
  have hpairs : pairs.Nodup := by decide
  exact ⟨hfits, hdocument, hpairs, fun g hg =>
    ((result_importWithin_of_omitsIds hfits hdocument hpairs).2.1 g hg).1⟩

/-- An edge from `a` to `b-c` and one from `a-b` to `c` would get one id. -/
theorem not_imported_overlapping :
    let document := Json.object
      [("nodes", .list [bareStep "a" .start, bareStep "a-b" .wait, bareStep "b-c" .wait,
          bareStep "c" .wait]),
        ("edges", .list
          [.object [("sourceNodeId", .text "a"), ("targetNodeId", .text "b-c")],
            .object [("sourceNodeId", .text "a-b"), ("targetNodeId", .text "c")]])]
    let pairs := [("a", "b-c"), ("a-b", "c")]
    OmitsIds document pairs ∧ pairs.Nodup ∧
      (importWithin .standard document).result =
        .error (.faulty (.repeatedId .edges 1 "edge-a-b-c")) := by
  intro document pairs
  have hdocument : OmitsIds document pairs :=
    .document rfl rfl (.cons (readsNode_bareStep _ _) (.cons (readsNode_bareStep _ _)
      (.cons (readsNode_bareStep _ _) (.cons (readsNode_bareStep _ _) .nil)))) (by decide)
      (.cons (.present rfl rfl (by decide) (by decide) rfl)
        (.cons (.present rfl rfl (by decide) (by decide) rfl) .nil))
  exact ⟨hdocument, by decide, by rfl⟩

end BrowserFlow.Document
