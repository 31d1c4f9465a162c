import BrowserFlow.Document.Export
import BrowserFlow.Proofs.Document.Reading

/-!
# Reading back what was written

The document of a flow is taken just when the flow is sound and its edges have
distinct ids, and then it describes that flow (`result_importGraph_toJson_iff`). So
writing and reading are inverse on the well-formed flows, and on no others. Each
level of the document has an equivalence of this kind: what an entry is read as, the
two lists with the ids seen so far carried along, and the whole. A flow that is
sound but repeats the id of an edge is refused for just this
(`exists_repeatedId_of_not_nodup`).
-/

namespace BrowserFlow

def Node.fields (node : Node) : Table Json :=
  [("id", .text node.id), ("kind", .text node.kind.name), ("position", node.position.toJson),
    ("params", .object node.params.pairs)]

def Edge.fields (edge : Edge) : Table Json :=
  [("id", .text edge.id), ("sourceNodeId", .text edge.source), ("targetNodeId", .text edge.target)]

theorem Node.toJson_eq (node : Node) : node.toJson = .object node.fields := rfl

theorem Edge.toJson_eq (edge : Edge) : edge.toJson = .object edge.fields := rfl

/-- What a flow has to satisfy for its document to be taken, spelled out. -/
def Graph.Restorable (g : Graph) : Prop :=
  g.nodeIds.Nodup ∧ g.edgeIds.Nodup ∧
    (∀ edge ∈ g.edges, edge.source ∈ g.nodeIds ∧ edge.target ∈ g.nodeIds) ∧
    ∀ node ∈ g.nodes, ∀ field : Field, field.Admits (node.params.get field)

/-- A restorable flow of steps that can be made is a sound one whose edges have
distinct ids. -/
theorem Graph.restorable_iff {g : Graph}
    (hg : ∀ node ∈ g.nodes, node.params.shape = node.kind.shape ∧
      node.position.isNumeric = true) :
    g.Restorable ↔ g.Sound ∧ g.edgeIds.Nodup := by
  simp only [Restorable, ← Field.accepts_iff_admits]
  constructor
  · rintro ⟨hnodeIds, hedgeIds, hends, haccepts⟩
    refine ⟨⟨hnodeIds, ?_, ?_, ?_⟩, hedgeIds⟩
    · exact fun edge hedge => (hends edge hedge).1
    · exact fun edge hedge => (hends edge hedge).2
    · intro node hnode
      exact ⟨(hg node hnode).1, haccepts node hnode, (hg node hnode).2⟩
  · rintro ⟨h, hedgeIds⟩
    refine ⟨h.nodup_nodeIds, hedgeIds, ?_, ?_⟩
    · exact fun edge hedge => ⟨h.source_mem edge hedge, h.target_mem edge hedge⟩
    · exact fun node hnode => (h.proper node hnode).accepts

namespace Document

open Journaled

def NodeEntry.ofNode (node : Node) : NodeEntry := ⟨node, node.fields⟩

def EdgeEntry.ofEdge (edge : Edge) : EdgeEntry := ⟨edge, edge.fields⟩

@[simp] theorem modernNode_toJson (node : Node) : Legacy.modernNode node.toJson = node.toJson :=
  rfl

@[simp] theorem modernEdge_toJson (edge : Edge) : Legacy.modernEdge edge.toJson = edge.toJson :=
  rfl

theorem result_nodePosition_fields_iff {place : String} {node : Node} {p : Position} :
    (nodePosition place node.fields).result = .ok p ↔
      node.position.isNumeric = true ∧ p = node.position := by
  change (Except.mapError _ (checkPosition _ node.position.x node.position.y)) = _ ↔ _
  rw [mapError_eq_ok_iff, checkPosition_eq_ok_iff]
  constructor
  · rintro ⟨hnum, rfl⟩
    exact ⟨hnum, rfl⟩
  · rintro ⟨hnum, rfl⟩
    exact ⟨hnum, rfl⟩

theorem isSome_field?_of_mem_pairs {p : Params} {entry : String × Json} (h : entry ∈ p.pairs) :
    (p.shape.field? entry.1).isSome := by
  obtain ⟨field, hmem, -, rfl⟩ := Params.mem_pairs_iff.mp h
  rw [Shape.field?_eq_some_iff.mpr ⟨hmem, rfl⟩]
  rfl

theorem result_nodeParams_fields_iff {place : String} {node : Node} {kept : Table Json}
    (hs : node.params.shape = node.kind.shape) :
    (nodeParams place node.kind node.fields).result = .ok kept ↔
      (∀ field : Field, field.accepts (node.params.get field) = true) ∧
        kept = node.params.pairs := by
  change (Except.mapError _ (checkParams _ node.kind node.params.pairs).result) = _ ↔ _
  have hknown : ∀ entry ∈ node.params.pairs, (node.kind.shape.field? entry.1).isSome := by
    rw [← hs]
    exact fun entry hentry => isSome_field?_of_mem_pairs hentry
  rw [mapError_eq_ok_iff, result_checkParams_of_known hknown, ← hs, Params.takes_pairs_iff]

/-- The entry of a step is taken just when the step is proper and its id new, and it
is read as that step. -/
theorem result_checkNode_toJson_iff {seen : List String} {index : Nat} {node : Node}
    {read : NodeEntry} (hs : node.params.shape = node.kind.shape) :
    (checkNode seen index node.toJson).result = .ok read ↔
      (node.id ∉ seen ∧ node.Proper) ∧ read = .ofNode node := by
  have hid : Table.get? node.fields "id" = some (.text node.id) := rfl
  have hkind : Table.get? node.fields "kind" = some (.text node.kind.name) := rfl
  rw [Node.toJson_eq]
  simp only [checkNode, required, hid, hkind, asText, result_bind_eq_ok_iff,
    result_require_eq_ok_iff, result_pure_eq_ok_iff, exists_eq_left', Kind.ofName?_name,
    result_nodePosition_fields_iff, result_nodeParams_fields_iff hs]
  constructor
  · rintro ⟨-, hnew, position, ⟨hnum, rfl⟩, params, ⟨haccepts, rfl⟩, rfl⟩
    refine ⟨⟨hnew, hs, haccepts, hnum⟩, ?_⟩
    rw [← hs, Params.ofPairs_pairs]
    rfl
  · rintro ⟨⟨hnew, hproper⟩, rfl⟩
    refine ⟨(), hnew, _, ⟨hproper.isNumeric, rfl⟩, _, ⟨hproper.accepts, rfl⟩, ?_⟩
    rw [← hs, Params.ofPairs_pairs]
    rfl

/-- The entries of steps are taken just when the steps are proper and their ids new
and distinct, and they are read as those steps. -/
theorem result_checkNodes_toJson_iff {seen : List String} {index : Nat} {nodes : List Node}
    {read : List NodeEntry} (hseen : seen.Nodup)
    (hs : ∀ node ∈ nodes, node.params.shape = node.kind.shape) :
    (checkNodes seen index (nodes.map Node.toJson)).result = .ok read ↔
      ((seen ++ nodes.map Node.id).Nodup ∧ ∀ node ∈ nodes, node.Proper) ∧
        read = nodes.map .ofNode := by
  induction nodes generalizing seen index read with
  | nil => simp [checkNodes, hseen, eq_comm]
  | cons node nodes ih =>
      rw [List.forall_mem_cons] at hs
      simp only [List.map_cons, checkNodes, result_bind_eq_ok_iff, result_pure_eq_ok_iff,
        result_checkNode_toJson_iff hs.1, List.forall_mem_cons]
      constructor
      · rintro ⟨first, ⟨⟨hnew, hproper⟩, rfl⟩, others, hothers, rfl⟩
        have hnodup : (seen ++ [node.id]).Nodup := nodup_append_singleton_iff.mpr ⟨hnew, hseen⟩
        obtain ⟨⟨hids, hall⟩, rfl⟩ := (ih hnodup hs.2).mp hothers
        exact ⟨⟨by simpa [NodeEntry.ofNode] using hids, hproper, hall⟩, rfl⟩
      · rintro ⟨⟨hids, hproper, hall⟩, rfl⟩
        rw [List.append_cons] at hids
        have hnodup : (seen ++ [node.id]).Nodup := hids.of_append_left
        have hnew : node.id ∉ seen := (nodup_append_singleton_iff.mp hnodup).1
        exact ⟨_, ⟨⟨hnew, hproper⟩, rfl⟩, _, (ih hnodup hs.2).mpr ⟨⟨hids, hall⟩, rfl⟩, rfl⟩

theorem result_edgeEnd_eq_ok_iff {nodeIds : List String} {index : Nat} {key id found : String} :
    (edgeEnd nodeIds index key (.text id)).result = .ok found ↔ id ∈ nodeIds ∧ found = id := by
  simp only [edgeEnd, asText, result_bind_eq_ok_iff, result_require_eq_ok_iff,
    result_pure_eq_ok_iff, exists_eq_left']
  constructor
  · rintro ⟨-, hid, rfl⟩
    exact ⟨hid, rfl⟩
  · rintro ⟨hid, rfl⟩
    exact ⟨(), hid, rfl⟩

/-- The entry of an edge is taken just when its id is new and it joins known steps, and
it is read as that edge. -/
theorem result_checkEdge_toJson_iff {nodeIds seen : List String} {index : Nat} {edge : Edge}
    {read : EdgeEntry} :
    (checkEdge nodeIds seen index edge.toJson).result = .ok read ↔
      (edge.id ∉ seen ∧ edge.source ∈ nodeIds ∧ edge.target ∈ nodeIds) ∧ read = .ofEdge edge := by
  have hid : Table.get? edge.fields "id" = some (.text edge.id) := rfl
  have hsource : Table.get? edge.fields "sourceNodeId" = some (.text edge.source) := rfl
  have htarget : Table.get? edge.fields "targetNodeId" = some (.text edge.target) := rfl
  rw [Edge.toJson_eq]
  simp only [checkEdge, required, hid, hsource, htarget, asText, Option.getD_some,
    result_bind_eq_ok_iff, result_require_eq_ok_iff, result_pure_eq_ok_iff, exists_eq_left',
    result_edgeEnd_eq_ok_iff]
  constructor
  · rintro ⟨source, ⟨hs, rfl⟩, target, ⟨ht, rfl⟩, -, hnew, rfl⟩
    exact ⟨⟨hnew, hs, ht⟩, rfl⟩
  · rintro ⟨⟨hnew, hs, ht⟩, rfl⟩
    exact ⟨_, ⟨hs, rfl⟩, _, ⟨ht, rfl⟩, (), hnew, rfl⟩

/-- The entries of edges are taken just when their ids are new and distinct and they
join known steps, and they are read as those edges. -/
theorem result_checkEdges_toJson_iff {nodeIds seen : List String} {index : Nat}
    {edges : List Edge} {read : List EdgeEntry} (hseen : seen.Nodup) :
    (checkEdges nodeIds seen index (edges.map Edge.toJson)).result = .ok read ↔
      ((seen ++ edges.map Edge.id).Nodup ∧
        ∀ edge ∈ edges, edge.source ∈ nodeIds ∧ edge.target ∈ nodeIds) ∧
        read = edges.map .ofEdge := by
  induction edges generalizing seen index read with
  | nil => simp [checkEdges, hseen, eq_comm]
  | cons edge edges ih =>
      simp only [List.map_cons, checkEdges, result_bind_eq_ok_iff, result_pure_eq_ok_iff,
        result_checkEdge_toJson_iff, List.forall_mem_cons]
      constructor
      · rintro ⟨first, ⟨⟨hnew, hends⟩, rfl⟩, others, hothers, rfl⟩
        have hnodup : (seen ++ [edge.id]).Nodup := nodup_append_singleton_iff.mpr ⟨hnew, hseen⟩
        obtain ⟨⟨hids, hall⟩, rfl⟩ := (ih hnodup).mp hothers
        exact ⟨⟨by simpa [EdgeEntry.ofEdge] using hids, hends, hall⟩, rfl⟩
      · rintro ⟨⟨hids, hends, hall⟩, rfl⟩
        rw [List.append_cons] at hids
        have hnodup : (seen ++ [edge.id]).Nodup := hids.of_append_left
        have hnew : edge.id ∉ seen := (nodup_append_singleton_iff.mp hnodup).1
        exact ⟨_, ⟨⟨hnew, hends⟩, rfl⟩, _, (ih hnodup).mpr ⟨⟨hids, hall⟩, rfl⟩, rfl⟩

def Checked.ofGraph (g : Graph) : Checked := ⟨g.nodes.map .ofNode, g.edges.map .ofEdge⟩

@[simp] theorem graph_ofGraph (g : Graph) : (Checked.ofGraph g).graph = g := by
  simp [Checked.ofGraph, Checked.graph, NodeEntry.ofNode, EdgeEntry.ofEdge, Function.comp_def]

/-- What is written is checked list by list, the steps first. -/
theorem result_check_toJson (g : Graph) :
    (check g.toJson).result =
      (checkNodes [] 0 (g.nodes.map Node.toJson)).result.bind fun nodes =>
        (checkEdges (nodes.map fun entry => entry.node.id) [] 0
          (g.edges.map Edge.toJson)).result.bind fun edges => .ok ⟨nodes, edges⟩ := by
  have hnodes : Table.get? g.documentFields "nodes" = some (.list (g.nodes.map Node.toJson)) := rfl
  have hedges : Table.get? g.documentFields "edges" = some (.list (g.edges.map Edge.toJson)) := rfl
  rw [Graph.toJson]
  simp only [check, required, hnodes, hedges, entries, result_bind, result_pure, List.map_map,
    Function.comp_def, modernNode_toJson, modernEdge_toJson, Except.bind]

theorem ids_ofNode (nodes : List Node) :
    (nodes.map NodeEntry.ofNode).map (fun entry => entry.node.id) = nodes.map Node.id := by
  simp [NodeEntry.ofNode, Function.comp_def]

/-- The document of a flow passes just when the flow is sound and its edges have
distinct ids. -/
theorem result_check_toJson_iff {g : Graph} {doc : Checked}
    (hs : ∀ node ∈ g.nodes, node.params.shape = node.kind.shape) :
    (check g.toJson).result = .ok doc ↔ (g.Sound ∧ g.edgeIds.Nodup) ∧ doc = .ofGraph g := by
  simp only [result_check_toJson, bind_eq_ok_iff, Except.ok.injEq,
    result_checkNodes_toJson_iff List.nodup_nil hs, result_checkEdges_toJson_iff List.nodup_nil]
  constructor
  · rintro ⟨nodes, ⟨⟨hnodeIds, hproper⟩, rfl⟩, edges, ⟨⟨hedgeIds, hends⟩, rfl⟩, rfl⟩
    rw [ids_ofNode] at hends
    refine ⟨⟨⟨hnodeIds, ?_, ?_, hproper⟩, hedgeIds⟩, rfl⟩
    · exact fun edge hedge => (hends edge hedge).1
    · exact fun edge hedge => (hends edge hedge).2
  · rintro ⟨⟨hg, hedgeIds⟩, rfl⟩
    refine ⟨_, ⟨⟨hg.nodup_nodeIds, hg.proper⟩, rfl⟩, _, ⟨⟨hedgeIds, ?_⟩, rfl⟩, rfl⟩
    rw [ids_ofNode]
    exact fun edge hedge => ⟨hg.source_mem edge hedge, hg.target_mem edge hedge⟩

theorem result_importGraph (document : Json) :
    (importGraph document).result = (check document).result.map Checked.graph := by
  simp only [importGraph, result_bind, result_note, result_pure]
  cases (check document).result <;> rfl

/-- The document of a flow is taken just when the flow is sound and its edges have
distinct ids, and then it describes that flow. -/
theorem result_importGraph_toJson_iff {g read : Graph}
    (hs : ∀ node ∈ g.nodes, node.params.shape = node.kind.shape) :
    (importGraph g.toJson).result = .ok read ↔ (g.Sound ∧ g.edgeIds.Nodup) ∧ read = g := by
  rw [result_importGraph]
  constructor
  · intro h
    cases hcheck : (check g.toJson).result with
    | error fault => simp [hcheck, Except.map] at h
    | ok doc =>
        obtain ⟨hg, rfl⟩ := (result_check_toJson_iff hs).mp hcheck
        simp only [hcheck, Except.map, graph_ofGraph, Except.ok.injEq] at h
        exact ⟨hg, h.symm⟩
  · rintro ⟨hg, rfl⟩
    rw [(result_check_toJson_iff hs).mpr ⟨hg, rfl⟩, Except.map, graph_ofGraph]

/-- Writing and reading are inverse on the restorable flows, and on no others: a flow of
steps that can be made is read back just when it is restorable, as what it is, and
whatever is read from a document is restorable, so that writing and reading it again
changes nothing. -/
theorem importGraph_toJson_inverse :
    (∀ g : Graph,
      (∀ node ∈ g.nodes, node.params.shape = node.kind.shape ∧ node.position.isNumeric = true) →
      ((∃ read, (importGraph g.toJson).result = .ok read) ↔ g.Restorable) ∧
        ∀ read, (importGraph g.toJson).result = .ok read → read = g) ∧
    ∀ (document : Json) (g : Graph), (importGraph document).result = .ok g →
      g.Restorable ∧
        (∀ node ∈ g.nodes, node.params.shape = node.kind.shape ∧ node.position.isNumeric = true) ∧
        (importGraph g.toJson).result = .ok g := by
  constructor
  · intro g hg
    have hs : ∀ node ∈ g.nodes, node.params.shape = node.kind.shape :=
      fun node hnode => (hg node hnode).1
    rw [Graph.restorable_iff hg]
    refine ⟨⟨?_, ?_⟩, ?_⟩
    · rintro ⟨read, h⟩
      exact ((result_importGraph_toJson_iff hs).mp h).1
    · intro h
      exact ⟨g, (result_importGraph_toJson_iff hs).mpr ⟨h, rfl⟩⟩
    · intro read h
      exact ((result_importGraph_toJson_iff hs).mp h).2
  · intro document g h
    have hsound := sound_of_importGraph h
    have hg : ∀ node ∈ g.nodes, node.params.shape = node.kind.shape ∧
        node.position.isNumeric = true := by
      intro node hnode
      have hproper := hsound.1.proper node hnode
      exact ⟨hproper.shape_eq, hproper.isNumeric⟩
    refine ⟨(Graph.restorable_iff hg).mpr hsound, hg, ?_⟩
    exact (result_importGraph_toJson_iff fun node hnode => (hg node hnode).1).mpr ⟨hsound, rfl⟩

/-- A wait of five milliseconds after the start goes through a document unchanged. -/
theorem importGraph_toJson_inverse_wait :
    let g : Graph :=
      { nodes := [{ id := "s", kind := .start },
          { id := "w", kind := .wait, position := ⟨.int 3, .int 4⟩,
            params := .wait (.text "time") .null (.nat 5) .null }]
        edges := [⟨"e", "s", "w"⟩] }
    (∃ read, (importGraph g.toJson).result = .ok read) ∧ g.Restorable ∧
      (importGraph g.toJson).result = .ok g := by
  intro g
  have hg : ∀ node ∈ g.nodes, node.params.shape = node.kind.shape ∧
      node.position.isNumeric = true := by decide
  have hread : (importGraph g.toJson).result = .ok g := rfl
  obtain ⟨hrestorable, -, hagain⟩ := importGraph_toJson_inverse.2 g.toJson g hread
  exact ⟨(importGraph_toJson_inverse.1 g hg).1.mpr hrestorable, hrestorable, hagain⟩

/-! ## Repeated ids of edges -/

theorem result_checkEdge_of_mem_seen {nodeIds seen : List String} {index : Nat} {edge : Edge}
    (hid : edge.id ∈ seen) (hs : edge.source ∈ nodeIds) (ht : edge.target ∈ nodeIds) :
    (checkEdge nodeIds seen index edge.toJson).result =
      .error (.repeatedId .edges index edge.id) := by
  have hidField : Table.get? edge.fields "id" = some (.text edge.id) := rfl
  have hsource : Table.get? edge.fields "sourceNodeId" = some (.text edge.source) := rfl
  have htarget : Table.get? edge.fields "targetNodeId" = some (.text edge.target) := rfl
  have hs' : (edgeEnd nodeIds index "sourceNodeId" (.text edge.source)).result = .ok edge.source :=
    result_edgeEnd_eq_ok_iff.mpr ⟨hs, rfl⟩
  have ht' : (edgeEnd nodeIds index "targetNodeId" (.text edge.target)).result = .ok edge.target :=
    result_edgeEnd_eq_ok_iff.mpr ⟨ht, rfl⟩
  rw [Edge.toJson_eq]
  simp only [checkEdge, required, hidField, hsource, htarget, asText, Option.getD_some,
    result_bind, result_pure, Except.bind, hs', ht', require, hid, not_true_eq_false, if_false,
    result_fail]

/-- Edges between known steps that repeat an id are refused for that. -/
theorem exists_repeatedId_of_checkEdges {nodeIds seen : List String} {index : Nat}
    {edges : List Edge} (hends : ∀ edge ∈ edges, edge.source ∈ nodeIds ∧ edge.target ∈ nodeIds)
    (hseen : seen.Nodup) (h : ¬ (seen ++ edges.map Edge.id).Nodup) :
    ∃ place id, (checkEdges nodeIds seen index (edges.map Edge.toJson)).result =
      .error (.repeatedId .edges place id) := by
  induction edges generalizing seen index with
  | nil => exact absurd (by simpa using hseen) h
  | cons edge edges ih =>
      rw [List.forall_mem_cons] at hends
      by_cases hid : edge.id ∈ seen
      · refine ⟨index, edge.id, ?_⟩
        rw [List.map_cons, checkEdges, result_bind,
          result_checkEdge_of_mem_seen hid hends.1.1 hends.1.2]
        rfl
      · have hnodup : (seen ++ [edge.id]).Nodup := nodup_append_singleton_iff.mpr ⟨hid, hseen⟩
        rw [List.map_cons, List.append_cons] at h
        obtain ⟨place, id, hrest⟩ := @ih (seen ++ [edge.id]) (index + 1) hends.2 hnodup h
        refine ⟨place, id, ?_⟩
        have hfirst : (checkEdge nodeIds seen index edge.toJson).result = .ok _ :=
          result_checkEdge_toJson_iff.mpr ⟨⟨hid, hends.1⟩, rfl⟩
        rw [List.map_cons, checkEdges, result_bind, hfirst]
        change ((checkEdges nodeIds (seen ++ [edge.id]) (index + 1) _ >>= _).result) = _
        rw [result_bind, hrest]
        rfl

/-- A sound flow that repeats the id of an edge writes a document that is refused for
that. -/
theorem exists_repeatedId_of_not_nodup {g : Graph} (hg : g.Sound) (h : ¬ g.edgeIds.Nodup) :
    ∃ place id, (importGraph g.toJson).result = .error (.repeatedId .edges place id) := by
  have hs : ∀ node ∈ g.nodes, node.params.shape = node.kind.shape :=
    fun node hnode => (hg.proper node hnode).shape_eq
  have hnodes : (checkNodes [] 0 (g.nodes.map Node.toJson)).result = .ok (g.nodes.map .ofNode) :=
    (result_checkNodes_toJson_iff List.nodup_nil hs).mpr ⟨⟨hg.nodup_nodeIds, hg.proper⟩, rfl⟩
  have hends : ∀ edge ∈ g.edges, edge.source ∈ g.nodeIds ∧ edge.target ∈ g.nodeIds :=
    fun edge hedge => ⟨hg.source_mem edge hedge, hg.target_mem edge hedge⟩
  obtain ⟨place, id, hrepeated⟩ :=
    @exists_repeatedId_of_checkEdges g.nodeIds [] 0 g.edges hends List.nodup_nil h
  refine ⟨place, id, ?_⟩
  rw [result_importGraph, result_check_toJson, hnodes, Except.bind, ids_ofNode]
  change Except.map _ ((checkEdges g.nodeIds [] 0 _).result.bind _) = _
  rw [hrepeated]
  rfl

end Document

end BrowserFlow
