import BrowserFlow.Proofs.Document.Depth
import BrowserFlow.Proofs.Document.Grammar
import BrowserFlow.Proofs.Document.RoundTrip

/-!
# Spellings of a flow

A flow can be spelled as a document in more than one way: each step and each edge in the
present form or in that of the earlier editor, which has other keys besides the ones that
count. All spellings of a restorable flow describe it (`result_importWithin_of_spells`).
-/

namespace BrowserFlow

theorem Field.legacyName_injective {a b : Field} (h : a.legacyName = b.legacyName) : a = b := by
  revert h
  cases a <;> cases b <;> decide

namespace Document

open Journaled

/-- The spellings of a step. -/
inductive SpellsNode (node : Node) : Json → Prop where
  | present : SpellsNode node node.toJson
  | legacy {fields data : Table Json}
      (no_kind : Table.get? fields "kind" = none)
      (id_eq : Table.get? fields "id" = some (.text node.id))
      (type_eq : Table.get? fields "type" = some (.text node.kind.name))
      (position_eq : Table.get? fields "position" = some node.position.toJson)
      (data_eq : Table.get? fields "data" = some (.object data))
      (data_nodup : (Table.keys data).Nodup)
      (params_eq : ∀ field : Field,
        Legacy.fieldOrNull data field.legacyName = node.params.get field) :
      SpellsNode node (.object fields)

/-- The spellings of an edge. -/
inductive SpellsEdge (edge : Edge) : Json → Prop where
  | present : SpellsEdge edge edge.toJson
  | legacy {fields : Table Json}
      (no_source : Table.get? fields "sourceNodeId" = none)
      (id_eq : Table.get? fields "id" = some (.text edge.id))
      (source_eq : Table.get? fields "source" = some (.text edge.source))
      (target_eq : Table.get? fields "target" = some (.text edge.target)) :
      SpellsEdge edge (.object fields)

/-- The spellings of a flow: those of its steps and its edges, in their order. -/
inductive Spells (g : Graph) : Json → Prop where
  | document {fields : Table Json} {nodes edges : List Json}
      (nodes_eq : Table.get? fields "nodes" = some (.list nodes))
      (edges_eq : Table.get? fields "edges" = some (.list edges))
      (nodes_spelled : List.Forall₂ SpellsNode g.nodes nodes)
      (edges_spelled : List.Forall₂ SpellsEdge g.edges edges) : Spells g (.object fields)

/-! ## The parameters of a step of the earlier editor -/

theorem find?_legacyName {fields : List Field} {field : Field} (h : field ∈ fields) :
    (fields.find? fun other => other.legacyName = field.legacyName) = some field := by
  cases hfind : fields.find? fun other => other.legacyName = field.legacyName with
  | none =>
      have hnot := List.find?_eq_none.mp hfind field h
      simp at hnot
  | some other =>
      have hname : other.legacyName = field.legacyName := by simpa using List.find?_some hfind
      rw [Field.legacyName_injective hname]

theorem mem_known_iff {kind : Kind} {data : Table Json} {entry : String × Json} :
    entry ∈ known Field.legacyName kind data ↔
      ∃ field ∈ kind.shape.fields, (field.legacyName, entry.2) ∈ data ∧ entry.1 = field.name := by
  rw [known, List.mem_filterMap]
  constructor
  · intro h
    obtain ⟨given, hgiven, heq⟩ := h
    obtain ⟨field, hfind, rfl⟩ := Option.map_eq_some_iff.mp heq
    have hname : field.legacyName = given.1 := by simpa using List.find?_some hfind
    exact ⟨field, List.mem_of_find?_eq_some hfind, by rw [hname]; exact hgiven, rfl⟩
  · intro h
    obtain ⟨field, hmem, hgiven, hname⟩ := h
    refine ⟨_, hgiven, ?_⟩
    rw [find?_legacyName hmem, Option.map_some, ← hname]

section Params

variable {node : Node} {data : Table Json} (hnodup : (Table.keys data).Nodup)
  (hparams : ∀ field : Field, Legacy.fieldOrNull data field.legacyName = node.params.get field)
include hnodup hparams

theorem eq_get_of_mem_data {field : Field} {v : Json} (h : (field.legacyName, v) ∈ data) :
    v = node.params.get field := by
  rw [← hparams field, Legacy.fieldOrNull, (Table.get?_eq_some_iff hnodup).mpr h, Option.getD_some]

omit hnodup in
theorem mem_data_of_ne_null {field : Field} (h : node.params.get field ≠ .null) :
    (field.legacyName, node.params.get field) ∈ data := by
  have hvalue := hparams field
  rw [Legacy.fieldOrNull] at hvalue
  cases hget : Table.get? data field.legacyName with
  | none =>
      rw [hget] at hvalue
      exact absurd hvalue.symm h
  | some v =>
      rw [hget] at hvalue
      rw [← hvalue]
      exact Table.mem_of_get? hget

theorem suits_data (hadmits : ∀ field : Field, field.Admits (node.params.get field)) :
    Suits Field.legacyName node.kind data := by
  intro entry hentry field hmem hname
  rw [eq_get_of_mem_data hnodup hparams (show (field.legacyName, entry.2) ∈ data by rwa [hname])]
  exact hadmits field

theorem ofPairs_known (hs : node.params.shape = node.kind.shape) :
    Params.ofPairs node.kind.shape (known Field.legacyName node.kind data) = node.params := by
  have hvalue : ∀ field : Field,
      Params.lastNamed (known Field.legacyName node.kind data) field = node.params.get field := by
    intro field
    apply Params.lastNamed_eq_of_forall
    · intro entry hentry hnamed
      obtain ⟨other, -, hgiven, hname⟩ := mem_known_iff.mp hentry
      rw [hname, Field.isNamed_name_iff] at hnamed
      rw [hnamed]
      exact eq_get_of_mem_data hnodup hparams hgiven
    · intro hne
      have hmem : field ∈ node.kind.shape.fields := by
        rw [← hs]
        by_contra hnot
        exact hne (Params.get_of_notMem hnot)
      have hgiven := mem_data_of_ne_null hparams hne
      exact ⟨(field.name, node.params.get field), mem_known_iff.mpr ⟨field, hmem, hgiven, rfl⟩,
        Field.isNamed_name_iff.mpr rfl⟩
  rw [Params.ofPairs, funext hvalue, ← hs, Params.build_get]

end Params

/-! ## Steps and edges -/

/-- An entry of the present form is read as the step that its fields give. -/
theorem result_checkNode_of_fields {seen : List String} {index : Nat} {node : Node}
    {fields kept : Table Json} (hnew : node.id ∉ seen)
    (hid : Table.get? fields "id" = some (.text node.id))
    (hkind : Table.get? fields "kind" = some (.text node.kind.name))
    (hposition : (nodePosition (Part.nodes.place index) fields).result = .ok node.position)
    (hkept : (nodeParams (Part.nodes.place index) node.kind fields).result = .ok kept)
    (hparams : Params.ofPairs node.kind.shape kept = node.params) :
    (checkNode seen index (.object fields)).result =
      .ok ⟨node, Table.set fields "params" (.object kept)⟩ := by
  simp only [checkNode, required, hid, hkind, asText, result_bind_eq_ok_iff,
    result_require_eq_ok_iff, result_pure_eq_ok_iff, exists_eq_left', Kind.ofName?_name]
  exact ⟨(), hnew, node.position, hposition, kept, hkept, by rw [hparams]⟩

theorem result_checkEdge_of_fields {nodeIds seen : List String} {index : Nat} {edge : Edge}
    {fields : Table Json} (hnew : edge.id ∉ seen) (hsource : edge.source ∈ nodeIds)
    (htarget : edge.target ∈ nodeIds) (hid : Table.get? fields "id" = some (.text edge.id))
    (hsourceEq : Table.get? fields "sourceNodeId" = some (.text edge.source))
    (htargetEq : Table.get? fields "targetNodeId" = some (.text edge.target)) :
    (checkEdge nodeIds seen index (.object fields)).result =
      .ok ⟨edge, Table.set fields "id" (.text edge.id)⟩ := by
  simp only [checkEdge, required, hid, hsourceEq, htargetEq, asText, Option.getD_some,
    result_bind_eq_ok_iff, result_require_eq_ok_iff, result_pure_eq_ok_iff, exists_eq_left',
    result_edgeEnd_eq_ok_iff]
  exact ⟨_, ⟨hsource, rfl⟩, _, ⟨htarget, rfl⟩, (), hnew, rfl⟩

theorem modernNode_of_type {fields : Table Json} {id : String} {kind : Json}
    (hkind : Table.get? fields "kind" = none) (hid : Table.get? fields "id" = some (.text id))
    (htype : Table.get? fields "type" = some kind) :
    Legacy.modernNode (.object fields) =
      .object ([("id", .text id), ("kind", kind),
        ("params", .object (Legacy.params (Legacy.fieldOrNull fields "data")))] ++
          Legacy.optional fields "position") := by
  simp only [Legacy.modernNode, hkind, htype, fieldOrNull_eq_text_iff.mpr hid]

theorem modernEdge_of_source {fields : Table Json} {source : Json} {target : String}
    (hnone : Table.get? fields "sourceNodeId" = none)
    (hsource : Table.get? fields "source" = some source)
    (htarget : Table.get? fields "target" = some (.text target)) :
    Legacy.modernEdge (.object fields) =
      .object ([("sourceNodeId", source), ("targetNodeId", .text target)] ++
        Legacy.optional fields "id") := by
  simp only [Legacy.modernEdge, hnone, hsource, fieldOrNull_eq_text_iff.mpr htarget]

/-- Every spelling of a proper step is taken under a new id, and is read as that step. -/
theorem exists_checkNode_of_spells {seen : List String} {index : Nat} {node : Node} {entry : Json}
    (hentry : SpellsNode node entry) (hnew : node.id ∉ seen) (hnode : node.Proper) :
    ∃ read, (checkNode seen index (Legacy.modernNode entry)).result = .ok read ∧
      read.node = node := by
  cases hentry with
  | present =>
      refine ⟨.ofNode node, ?_, rfl⟩
      rw [modernNode_toJson, result_checkNode_toJson_iff hnode.shape_eq]
      exact ⟨⟨hnew, hnode⟩, rfl⟩
  | @legacy fields data hkind hid htype hposition hdata hnodup hparams =>
      obtain ⟨hid', hkind', hparams', hposition', -⟩ := get?_modernNode fields (.text node.id)
        (.text node.kind.name) (.object (Legacy.params (Legacy.fieldOrNull fields "data")))
      rw [modernNode_of_type hkind hid htype]
      -- only what is found under the keys of the present form matters from here on
      generalize [("id", Json.text node.id), ("kind", .text node.kind.name),
          ("params", .object (Legacy.params (Legacy.fieldOrNull fields "data")))] ++
            Legacy.optional fields "position" = modern at *
      have hadmits : ∀ field : Field, field.Admits (node.params.get field) :=
        fun field => Field.accepts_iff_admits.mp (hnode.accepts field)
      have hold : ((Table.get? fields "data").bind Json.fields?).getD [] = data := by
        rw [hdata]
        rfl
      have hkept : (nodeParams (Part.nodes.place index) node.kind modern).result =
          .ok (known Field.legacyName node.kind data) := by
        rw [result_nodeParams_legacy_eq_ok_iff hparams', hold]
        exact ⟨suits_data hnodup hparams hadmits, rfl⟩
      have hplace : (nodePosition (Part.nodes.place index) modern).result = .ok node.position := by
        rw [nodePosition, hposition', hposition]
        change (Except.mapError _ (checkPosition _ node.position.x node.position.y)) = _
        rw [mapError_eq_ok_iff, checkPosition_eq_ok_iff]
        exact ⟨hnode.isNumeric, rfl⟩
      exact ⟨_, result_checkNode_of_fields hnew hid' hkind' hplace hkept
        (ofPairs_known hnodup hparams hnode.shape_eq), rfl⟩

theorem exists_checkEdge_of_spells {nodeIds seen : List String} {index : Nat} {edge : Edge}
    {entry : Json} (hentry : SpellsEdge edge entry) (hnew : edge.id ∉ seen)
    (hends : edge.source ∈ nodeIds ∧ edge.target ∈ nodeIds) :
    ∃ read, (checkEdge nodeIds seen index (Legacy.modernEdge entry)).result = .ok read ∧
      read.edge = edge := by
  cases hentry with
  | present =>
      refine ⟨.ofEdge edge, ?_, rfl⟩
      rw [modernEdge_toJson, result_checkEdge_toJson_iff]
      exact ⟨⟨hnew, hends.1, hends.2⟩, rfl⟩
  | @legacy fields hnone hid hsourceEq htargetEq =>
      obtain ⟨hsource', htarget', hid', -⟩ :=
        get?_modernEdge fields (.text edge.source) (.text edge.target)
      rw [modernEdge_of_source hnone hsourceEq htargetEq]
      exact ⟨_, result_checkEdge_of_fields hnew hends.1 hends.2 (hid'.trans hid) hsource' htarget',
        rfl⟩

/-! ## Lists and documents -/

/-- Lists are checked entry by entry, so what is spelled entry by entry is read. -/
theorem exists_checkAll_of_spells {α β : Type} {item : β → α} {id : α → String}
    {form : Json → Json} {spells : α → Json → Prop} {fine : α → Prop}
    {check : List String → Nat → Json → Journaled Fault β}
    {checkAll : List String → Nat → List Json → Journaled Fault (List β)}
    (hcheck : ∀ {seen index a entry}, spells a entry → id a ∉ seen → fine a →
      ∃ read, (check seen index (form entry)).result = .ok read ∧ item read = a)
    (hnil : ∀ seen index, checkAll seen index [] = pure [])
    (hcons : ∀ seen index entry rest, checkAll seen index (entry :: rest) = do
      let first ← check seen index entry
      let others ← checkAll (seen ++ [id (item first)]) (index + 1) rest
      return first :: others)
    {seen : List String} {index : Nat} {items : List α} {entries : List Json}
    (hentries : List.Forall₂ spells items entries) (hnodup : (seen ++ items.map id).Nodup)
    (hitems : ∀ a ∈ items, fine a) :
    ∃ read, (checkAll seen index (entries.map form)).result = .ok read ∧ read.map item = items := by
  -- the ids that an entry meets are those of the items before it
  induction hentries generalizing seen index with
  | nil =>
      refine ⟨[], ?_, rfl⟩
      rw [List.map_nil, hnil, result_pure]
  | @cons a entry items entries hentry _ ih =>
      rw [List.forall_mem_cons] at hitems
      rw [List.map_cons, List.append_cons] at hnodup
      have hnew := nodup_append_singleton_iff.mp hnodup.of_append_left
      obtain ⟨first, hfirst, rfl⟩ := @hcheck seen index _ _ hentry hnew.1 hitems.1
      obtain ⟨others, hothers, rfl⟩ := @ih _ (index + 1) hnodup hitems.2
      refine ⟨first :: others, ?_, rfl⟩
      rw [List.map_cons, hcons]
      simp only [result_bind_eq_ok_iff, result_pure_eq_ok_iff]
      exact ⟨first, hfirst, others, hothers, rfl⟩

theorem result_importGraph_of_spells {g : Graph} {document : Json} (hdocument : Spells g document)
    (hg : g.Sound) (hedgeIds : g.edgeIds.Nodup) : (importGraph document).result = .ok g := by
  obtain @⟨fields, nodeItems, edgeItems, hnodes, hedges, hnodesSpelled, hedgesSpelled⟩ := hdocument
  have hnodesRead : ∃ nodes, (checkNodes [] 0 (nodeItems.map Legacy.modernNode)).result =
      .ok nodes ∧ nodes.map NodeEntry.node = g.nodes :=
    @exists_checkAll_of_spells _ _ _ _ _ _ _ checkNode checkNodes exists_checkNode_of_spells
      (fun _ _ => rfl) (fun _ _ _ _ => rfl) [] 0 _ _ hnodesSpelled hg.nodup_nodeIds hg.proper
  have hedgesRead : ∃ edges, (checkEdges g.nodeIds [] 0
      (edgeItems.map Legacy.modernEdge)).result = .ok edges ∧
        edges.map EdgeEntry.edge = g.edges :=
    @exists_checkAll_of_spells _ _ _ _ _ _ _ (checkEdge g.nodeIds) (checkEdges g.nodeIds)
      exists_checkEdge_of_spells (fun _ _ => rfl) (fun _ _ _ _ => rfl) [] 0 _ _ hedgesSpelled
      hedgeIds fun edge hedge => ⟨hg.source_mem edge hedge, hg.target_mem edge hedge⟩
  obtain ⟨nodes, hnodesRead, hnodesEq⟩ := hnodesRead
  obtain ⟨edges, hedgesRead, hedgesEq⟩ := hedgesRead
  have hids : (nodes.map fun entry => entry.node.id) = g.nodeIds := by
    rw [Graph.nodeIds, ← hnodesEq, List.map_map]
    rfl
  rw [result_importGraph, map_eq_ok_iff]
  refine ⟨⟨nodes, edges⟩, ?_, by rw [Checked.graph, hnodesEq, hedgesEq]⟩
  simp only [check, required, hnodes, hedges, entries, result_bind_eq_ok_iff,
    result_pure_eq_ok_iff, exists_eq_left']
  exact ⟨nodes, hnodesRead, edges, by rw [hids]; exact hedgesRead, rfl⟩

/-! ## Depth -/

section Extent

variable {leaf least step : Nat} (hleast : least ≤ leaf)
include hleast

theorem extent_legacyParams_le {node : Node} {data : Table Json}
    (hnodup : (Table.keys data).Nodup)
    (hparams : ∀ field : Field, Legacy.fieldOrNull data field.legacyName = node.params.get field)
    (hadmits : ∀ field : Field, field.Admits (node.params.get field)) :
    (Json.object (Legacy.params (.object data))).extent leaf least step ≤ step + leaf := by
  apply extent_object_le hleast
  intro entry hentry
  obtain ⟨given, hgiven, heq⟩ := List.mem_filterMap.mp hentry
  obtain ⟨name, hname, rfl⟩ := Option.map_eq_some_iff.mp heq
  obtain ⟨field, hfield, -⟩ := get?_paramNames_eq_some_iff.mp hname
  have hmem : (field.legacyName, given.2) ∈ data := by
    rw [hfield]
    exact hgiven
  rw [eq_get_of_mem_data hnodup hparams hmem]
  rcases (hadmits field).cases with hv | ⟨s, hv⟩ | ⟨n, hv⟩ <;> rw [hv] <;> rfl

theorem extent_modernNode_le {node : Node} {entry : Json} (hentry : SpellsNode node entry)
    (hp : node.position.isNumeric = true)
    (hadmits : ∀ field : Field, field.Admits (node.params.get field)) :
    (Legacy.modernNode entry).extent leaf least step ≤ 2 * step + leaf := by
  cases hentry with
  | present => exact extent_node_le hleast hp hadmits
  | @legacy fields data hkind hid htype hposition hdata hnodup hparams =>
      have htext : ∀ s, (Json.text s).extent leaf least step ≤ step + leaf :=
        fun _ => Nat.le_add_left leaf step
      rw [modernNode_of_type hkind hid htype, Legacy.optional, hposition, Legacy.fieldOrNull, hdata]
      apply extent_entry_le hleast
      simp only [List.cons_append, List.nil_append, List.forall_mem_cons]
      exact ⟨htext _, htext _, extent_legacyParams_le hleast hnodup hparams hadmits,
        extent_position_le hleast hp, by simp⟩

theorem extent_modernEdge_le {edge : Edge} {entry : Json} (hentry : SpellsEdge edge entry) :
    (Legacy.modernEdge entry).extent leaf least step ≤ 2 * step + leaf := by
  cases hentry with
  | present => exact Nat.le_trans (extent_edge_le hleast edge) (by omega)
  | @legacy fields hnone hid hsource htarget =>
      rw [modernEdge_of_source hnone hsource htarget, Legacy.optional, hid]
      refine Nat.le_trans (extent_object_le hleast ?_) (by omega : step + leaf ≤ 2 * step + leaf)
      simp [Json.extent]

end Extent

/-- Whatever a list is spelled as spells one of its items. -/
theorem exists_mem_of_forall₂ {α β : Type} {R : α → β → Prop} {items : List α} {spelled : List β}
    (h : List.Forall₂ R items spelled) {b : β} (hb : b ∈ spelled) : ∃ a ∈ items, R a b := by
  induction h with
  | nil => exact absurd hb List.not_mem_nil
  | @cons a first items spelled hfirst _ ih =>
      rcases List.mem_cons.mp hb with rfl | hb
      · exact ⟨a, List.mem_cons_self, hfirst⟩
      · obtain ⟨other, hmem, hother⟩ := ih hb
        exact ⟨other, List.mem_cons_of_mem a hmem, hother⟩

theorem copyDepth_le_of_spells {g : Graph} {document : Json} (hdocument : Spells g document)
    (hg : g.Restorable) (hnum : ∀ node ∈ g.nodes, node.position.isNumeric = true) :
    copyDepth document ≤ 10 := by
  obtain ⟨hnodes, hedges, hnodesSpelled, hedgesSpelled⟩ := hdocument
  rw [copyDepth]
  simp only [Json.field?, hnodes, hedges]
  refine extent_modernise_le (by decide : 1 ≤ 2) ?_ ?_
  · intro entry hentry
    obtain ⟨node, hnode, hspells⟩ := exists_mem_of_forall₂ hnodesSpelled hentry
    exact extent_modernNode_le (by decide) hspells (hnum node hnode) (hg.2.2.2 node hnode)
  · intro entry hentry
    obtain ⟨edge, -, hspells⟩ := exists_mem_of_forall₂ hedgesSpelled hentry
    exact extent_modernEdge_le (by decide) hspells

/-- Every spelling of a restorable flow describes it. -/
theorem result_importWithin_of_spells {limits : Json.Limits}
    (hcopied : Json.Limits.allows limits.copied 10 = true) {g : Graph} (hg : g.Restorable)
    (hs : ∀ node ∈ g.nodes, node.params.shape = node.kind.shape ∧ node.position.isNumeric = true)
    {document : Json} (hdocument : Spells g document) :
    (importWithin limits document).result = .ok g := by
  obtain ⟨hsound, hedgeIds⟩ := (Graph.restorable_iff hs).mp hg
  have hdepth := copyDepth_le_of_spells hdocument hg fun node hnode => (hs node hnode).2
  have hfits : fits limits document = true := Json.Limits.allows_of_le hdepth hcopied
  rw [importWithin_of_fits hfits, result_mapError, mapError_eq_ok_iff]
  exact result_importGraph_of_spells hdocument hsound hedgeIds

/-- A start and a click of the present form around a wait of the earlier editor, which has a
label and a style, and an edge of each form. -/
theorem result_importWithin_of_spells_mixed :
    let start : Node := ⟨"s", .start, {}, .empty⟩
    let wait : Node := ⟨"w", .wait, ⟨.int 3, .int 4⟩, .wait (.text "time") .null (.nat 5) .null⟩
    let click : Node := ⟨"c", .click, {}, .click (.text "#go")⟩
    let g : Graph := ⟨[start, wait, click], [⟨"e", "s", "w"⟩, ⟨"f", "w", "c"⟩]⟩
    let data : Table Json :=
      [("label", .text "Pause"), ("elementType", .text "time"), ("wait", .nat 5)]
    let old : Table Json := [("id", .text "w"), ("type", .text "wait"),
      ("style", .object [("color", .null)]), ("position", wait.position.toJson),
      ("data", .object data)]
    let document : Json := .object
      [("nodes", .list [start.toJson, .object old, click.toJson]),
        ("edges", .list [.object [("id", .text "e"), ("source", .text "s"), ("target", .text "w"),
          ("animated", .bool true)], Edge.toJson ⟨"f", "w", "c"⟩])]
    g.Restorable ∧ Spells g document ∧ (importWithin .standard document).result = .ok g := by
  intro start wait click g data old document
  have hs : ∀ node ∈ g.nodes, node.params.shape = node.kind.shape ∧
      node.position.isNumeric = true := by decide
  have himport : (importGraph g.toJson).result = .ok g := rfl
  have hg : g.Restorable := (Graph.restorable_iff hs).mpr (sound_of_importGraph himport)
  have hparams : ∀ field : Field,
      Legacy.fieldOrNull data field.legacyName = wait.params.get field := by
    intro field
    cases field <;> rfl
  have hwait : SpellsNode wait (.object old) :=
    .legacy rfl rfl rfl rfl rfl (by decide) hparams
  have hdocument : Spells g document :=
    .document rfl rfl (.cons .present (.cons hwait (.cons .present .nil)))
      (.cons (.legacy rfl rfl rfl rfl) (.cons .present .nil))
  exact ⟨hg, hdocument, result_importWithin_of_spells (by decide) hg hs hdocument⟩

end Document

end BrowserFlow
