import BrowserFlow.Proofs.Document.Stored
import BrowserFlow.Proofs.Json.WholeNumbers

/-!
# Writing flows that were loaded

A flow that was loaded from a file is written as a text of ASCII characters, at every indentation,
and within the limits under which the file was read: a whole number of the flow is one of the file
or the zero of a step without a position (`wholesIn_of_loadFile`). The text is one of the standard
grammar just if the coordinates of the steps are finite (`exists_dumpWithin_of_loadFile`), for
coordinates are the only numbers of a flow that need not be whole, and a coordinate may be any
number that the reader has a name or a digit for.
-/

namespace BrowserFlow

def Graph.IsFinite (g : Graph) : Prop :=
  ∀ node ∈ g.nodes, ∀ x : Binary64,
    .number (.float x) ∈ [node.position.x, node.position.y] → x.isFinite = true

namespace Json

theorem areStandard_iff {items : List Json} :
    areStandard items = true ↔ ∀ v ∈ items, v.isStandard = true := by
  induction items with
  | nil => simp [areStandard]
  | cons v items ih => rw [areStandard, Bool.and_eq_true, ih, List.forall_mem_cons]

theorem haveStandardValues_iff {fields : Table Json} :
    haveStandardValues fields = true ↔ ∀ entry ∈ fields, entry.2.isStandard = true := by
  induction fields with
  | nil => simp [haveStandardValues]
  | cons entry fields ih => rw [haveStandardValues, Bool.and_eq_true, ih, List.forall_mem_cons]

theorem isStandard_of_isNumber_iff {v : Json} (h : v.isNumber = true) :
    v.isStandard = true ↔ ∀ x : Binary64, .number (.float x) = v → x.isFinite = true := by
  cases v with
  | number x => cases x <;> simp [isStandard]
  | null | bool | text | list | object => cases h

end Json

namespace Document

open Json Journaled

/-! ## Which numbers a document has -/

theorem isStandard_params {p : Params} (hadmits : ∀ field : Field, field.Admits (p.get field)) :
    (Json.object p.pairs).isStandard = true := by
  rw [isStandard, haveStandardValues_iff]
  intro entry hentry
  obtain ⟨field, -, -, rfl⟩ := Params.mem_pairs_iff.mp hentry
  rcases (hadmits field).cases with hv | ⟨s, hv⟩ | ⟨n, hv⟩ <;> rw [hv] <;> rfl

/-- The coordinates of a flow are its only numbers that need not be finite. -/
theorem isStandard_toJson_iff {g : Graph} (hg : g.Sound) :
    g.toJson.isStandard = true ↔ g.IsFinite := by
  have hnode : ∀ node ∈ g.nodes, (node.toJson.isStandard = true ↔ ∀ x : Binary64,
      .number (.float x) ∈ [node.position.x, node.position.y] → x.isFinite = true) := by
    intro node hmem
    have hnumeric := hg.isNumeric node hmem
    rw [Position.isNumeric, Bool.and_eq_true] at hnumeric
    have hfields : node.toJson.isStandard =
        ((node.position.x.isStandard && (node.position.y.isStandard && true)) &&
          ((Json.object node.params.pairs).isStandard && true)) := rfl
    rw [hfields, isStandard_params (hg.admits node hmem)]
    simp only [Bool.and_true, Bool.and_eq_true, isStandard_of_isNumber_iff hnumeric.1,
      isStandard_of_isNumber_iff hnumeric.2, List.mem_cons, List.not_mem_nil, or_false,
      forall_and, or_imp]
  have hlists : g.toJson.isStandard =
      (areStandard (g.nodes.map Node.toJson) && (areStandard (g.edges.map Edge.toJson) && true)) :=
    rfl
  rw [hlists, Bool.and_true, Bool.and_eq_true, areStandard_iff, areStandard_iff,
    List.forall_mem_map, List.forall_mem_map]
  constructor
  · rintro ⟨hnodes, -⟩ node hmem
    exact (hnode node hmem).mp (hnodes node hmem)
  · intro hfinite
    exact ⟨fun node hmem => (hnode node hmem).mpr (hfinite node hmem), fun _ _ => rfl⟩

section Wholes

variable {P : Int → Prop}

theorem wholesIn_edge (edge : Edge) : WholesIn P edge.toJson :=
  List.forall_mem_nil _

theorem wholesIn_node {node : Node} (hposition : WholesIn P node.position.toJson)
    (hparams : WholesIn P (.object node.params.pairs)) : WholesIn P node.toJson := by
  rw [Node.toJson, wholesIn_object_iff]
  simp only [List.forall_mem_cons]
  exact ⟨wholesIn_text _, wholesIn_text _, hposition, hparams, List.forall_mem_nil _⟩

/-- A record has no whole numbers but those of the entries that it was built from. -/
theorem wholesIn_pairs_ofPairs (shape : Shape) {entries : Table Json}
    (h : WholesIn P (.object entries)) :
    WholesIn P (.object (Params.ofPairs shape entries).pairs) := by
  rw [wholesIn_object_iff]
  intro entry hentry
  obtain ⟨field, -, -, rfl⟩ := Params.mem_pairs_iff.mp hentry
  dsimp only
  rw [Params.ofPairs, Params.get_build]
  split
  · rcases Params.lastNamed_eq_null_or entries field with hnull | ⟨entry, hmem, -, hvalue⟩
    · rw [hnull]
      exact wholesIn_null
    · rw [hvalue]
      exact wholesIn_object_iff.mp h entry hmem
  · exact wholesIn_null

/-! ## Checking makes no whole numbers but zero -/

theorem wholesIn_fieldOrNull {fields : Table Json} (h : WholesIn P (.object fields))
    (key : String) : WholesIn P (Legacy.fieldOrNull fields key) := by
  rw [Legacy.fieldOrNull]
  cases hv : Table.get? fields key with
  | none => exact wholesIn_null
  | some v => exact h.get? hv

theorem wholesIn_optional {fields : Table Json} (h : WholesIn P (.object fields)) (key : String) :
    ∀ entry ∈ Legacy.optional fields key, WholesIn P entry.2 := by
  rw [Legacy.optional]
  split
  · rename_i v hv
    exact List.forall_mem_singleton.mpr (h.get? hv)
  · exact List.forall_mem_nil _

theorem wholesIn_legacyParams {data : Json} (h : WholesIn P data) :
    WholesIn P (.object (Legacy.params data)) := by
  rw [wholesIn_object_iff, Legacy.params.eq_def]
  split
  · intro entry hentry
    obtain ⟨old, hold, hnew⟩ := List.mem_filterMap.mp hentry
    obtain ⟨name, -, rfl⟩ := Option.map_eq_some_iff.mp hnew
    exact wholesIn_object_iff.mp h old hold
  · exact List.forall_mem_nil _

theorem wholesIn_modernNode {entry : Json} (h : WholesIn P entry) :
    WholesIn P (Legacy.modernNode entry) := by
  unfold Legacy.modernNode
  split
  · split
    · rename_i hkind
      have hdata := wholesIn_legacyParams (wholesIn_fieldOrNull h "data")
      rw [wholesIn_object_iff, List.forall_mem_append]
      refine ⟨?_, wholesIn_optional h "position"⟩
      simp only [List.forall_mem_cons]
      exact ⟨wholesIn_fieldOrNull h "id", h.get? hkind, hdata, List.forall_mem_nil _⟩
    · exact h
  · exact h

theorem wholesIn_modernEdge {entry : Json} (h : WholesIn P entry) :
    WholesIn P (Legacy.modernEdge entry) := by
  unfold Legacy.modernEdge
  split
  · split
    · rename_i hsource
      rw [wholesIn_object_iff, List.forall_mem_append]
      refine ⟨?_, wholesIn_optional h "id"⟩
      simp only [List.forall_mem_cons]
      exact ⟨h.get? hsource, wholesIn_fieldOrNull h "target", List.forall_mem_nil _⟩
    · exact h
  · exact h

theorem get?_of_required {place key : String} {fields : Table Json} {v : Json}
    (h : (required place key fields).result = .ok v) : Table.get? fields key = some v := by
  unfold required at h
  split at h
  · rename_i hv
    rw [hv, result_pure_eq_ok_iff.mp h]
  · exact absurd h result_fail_ne_ok

theorem wholesIn_of_nodePosition (hzero : P 0) {place : String} {fields : Table Json}
    {p : Position} (hfields : WholesIn P (.object fields))
    (h : (nodePosition place fields).result = .ok p) : WholesIn P p.toJson := by
  unfold nodePosition at h
  split at h
  · rw [← result_pure_eq_ok_iff.mp h, Position.toJson, wholesIn_object_iff]
    simpa [Json.int, wholesIn_int_iff] using hzero
  · rename_i coordinates hposition
    have hcoordinates := hfields.get? hposition
    simp only [result_bind_eq_ok_iff, result_mapError, mapError_eq_ok_iff, result_lift,
      checkPosition_eq_ok_iff] at h
    obtain ⟨x, hx, y, hy, -, rfl⟩ := h
    rw [Position.toJson, wholesIn_object_iff]
    simp only [List.forall_mem_cons]
    exact ⟨hcoordinates.get? (get?_of_required hx), hcoordinates.get? (get?_of_required hy),
      List.forall_mem_nil _⟩
  · exact absurd h result_fail_ne_ok

theorem wholesIn_of_nodeParams {place : String} {kind : Kind} {fields kept : Table Json}
    (hfields : WholesIn P (.object fields))
    (h : (nodeParams place kind fields).result = .ok kept) : WholesIn P (.object kept) := by
  unfold nodeParams at h
  split at h
  · rw [← result_pure_eq_ok_iff.mp h]
    exact List.forall_mem_nil _
  · rename_i params hparams
    rw [result_mapError, mapError_eq_ok_iff] at h
    rw [(result_checkParams_eq_ok_iff.mp h).2]
    exact (hfields.get? hparams).subset (List.filter_subset_self _)
  · exact absurd h result_fail_ne_ok

theorem wholesIn_of_checkNode (hzero : P 0) {seen : List String} {index : Nat} {entry : Json}
    {read : NodeEntry} (hentry : WholesIn P entry)
    (h : (checkNode seen index entry).result = .ok read) :
    WholesIn P (.object read.fields) ∧ WholesIn P read.node.toJson := by
  unfold checkNode at h
  split at h
  · simp only [result_bind_eq_ok_iff] at h
    obtain ⟨_, -, _, -, id, -, kindName, -, -, -, h⟩ := h
    split at h
    · exact absurd h result_fail_ne_ok
    · simp only [result_bind_eq_ok_iff, result_pure_eq_ok_iff] at h
      obtain ⟨position, hposition, params, hparams, rfl⟩ := h
      have hkept := wholesIn_of_nodeParams hentry hparams
      exact ⟨hentry.set "params" hkept, wholesIn_node
        (wholesIn_of_nodePosition hzero hentry hposition) (wholesIn_pairs_ofPairs _ hkept)⟩
  · exact absurd h result_fail_ne_ok

theorem wholesIn_of_checkNodes (hzero : P 0) {seen : List String} {index : Nat}
    {entries : List Json} {read : List NodeEntry} (hentries : ∀ entry ∈ entries, WholesIn P entry)
    (h : (checkNodes seen index entries).result = .ok read) :
    ∀ entry ∈ read, WholesIn P (.object entry.fields) ∧ WholesIn P entry.node.toJson := by
  induction entries generalizing seen index read with
  | nil =>
      obtain rfl := result_pure_eq_ok_iff.mp h
      exact List.forall_mem_nil _
  | cons entry entries ih =>
      rw [List.forall_mem_cons] at hentries
      simp only [checkNodes, result_bind_eq_ok_iff, result_pure_eq_ok_iff] at h
      obtain ⟨first, hfirst, others, hothers, rfl⟩ := h
      exact List.forall_mem_cons.mpr
        ⟨wholesIn_of_checkNode hzero hentries.1 hfirst, ih hentries.2 hothers⟩

theorem wholesIn_of_checkEdge {nodeIds seen : List String} {index : Nat} {entry : Json}
    {read : EdgeEntry} (hentry : WholesIn P entry)
    (h : (checkEdge nodeIds seen index entry).result = .ok read) :
    WholesIn P (.object read.fields) := by
  unfold checkEdge at h
  split at h
  · rename_i fields
    simp only [result_bind_eq_ok_iff, result_pure_eq_ok_iff] at h
    obtain ⟨_, -, _, -, source, -, target, -, id, hid, -, -, rfl⟩ := h
    refine hentry.set "id" ?_
    cases hv : Table.get? fields "id" with
    | none => exact wholesIn_text _
    | some v => exact hentry.get? hv
  · exact absurd h result_fail_ne_ok

theorem wholesIn_of_checkEdges {nodeIds seen : List String} {index : Nat} {entries : List Json}
    {read : List EdgeEntry} (hentries : ∀ entry ∈ entries, WholesIn P entry)
    (h : (checkEdges nodeIds seen index entries).result = .ok read) :
    ∀ entry ∈ read, WholesIn P (.object entry.fields) := by
  induction entries generalizing seen index read with
  | nil =>
      obtain rfl := result_pure_eq_ok_iff.mp h
      exact List.forall_mem_nil _
  | cons entry entries ih =>
      rw [List.forall_mem_cons] at hentries
      simp only [checkEdges, result_bind_eq_ok_iff, result_pure_eq_ok_iff] at h
      obtain ⟨first, hfirst, others, hothers, rfl⟩ := h
      exact List.forall_mem_cons.mpr
        ⟨wholesIn_of_checkEdge hentries.1 hfirst, ih hentries.2 hothers⟩

theorem wholesIn_entries {part : Part} {v : Json} {items : List Json} (hv : WholesIn P v)
    (h : (entries part v).result = .ok items) : ∀ entry ∈ items, WholesIn P entry := by
  unfold entries at h
  split at h
  · obtain rfl := result_pure_eq_ok_iff.mp h
    exact wholesIn_list_iff.mp hv
  · exact absurd h result_fail_ne_ok

/-- A checked document and the flow that it describes have the whole numbers of the document, and
zero. -/
theorem wholesIn_of_check (hzero : P 0) {document : Json} {doc : Checked}
    (hdocument : WholesIn P document) (h : (check document).result = .ok doc) :
    WholesIn P doc.toJson ∧ WholesIn P doc.graph.toJson := by
  unfold check at h
  split at h
  · simp only [result_bind_eq_ok_iff, result_pure_eq_ok_iff] at h
    obtain ⟨nodesValue, hnodesValue, edgesValue, hedgesValue, nodeItems, hnodeItems, edgeItems,
      hedgeItems, nodes, hnodes, edges, hedges, rfl⟩ := h
    have hnodeEntries :=
      wholesIn_entries (hdocument.get? (get?_of_required hnodesValue)) hnodeItems
    have hedgeEntries :=
      wholesIn_entries (hdocument.get? (get?_of_required hedgesValue)) hedgeItems
    have hnodesRead := wholesIn_of_checkNodes hzero (List.forall_mem_map.mpr fun entry hentry =>
      wholesIn_modernNode (hnodeEntries entry hentry)) hnodes
    have hedgesRead := wholesIn_of_checkEdges (List.forall_mem_map.mpr fun entry hentry =>
      wholesIn_modernEdge (hedgeEntries entry hentry)) hedges
    constructor
    · rw [Checked.toJson, wholesIn_object_iff]
      simp only [List.forall_mem_cons, wholesIn_list_iff, List.forall_mem_map]
      exact ⟨fun entry hentry => (hnodesRead entry hentry).1, hedgesRead,
        List.forall_mem_nil _⟩
    · rw [Graph.toJson, Graph.documentFields, wholesIn_object_iff]
      simp only [Checked.graph, List.forall_mem_cons, wholesIn_list_iff, List.forall_mem_map]
      exact ⟨fun entry hentry => (hnodesRead entry hentry).2,
        fun entry _ => wholesIn_edge entry.edge, List.forall_mem_nil _⟩
  · exact absurd h result_fail_ne_ok

end Wholes

theorem wholesIn_of_readFile {limits : Limits} {path : String} {bytes : List UInt8}
    {document : Json} (h : readFile limits path bytes = .ok document) :
    WholesIn limits.AllowsWhole document := by
  obtain ⟨text, -, hread⟩ := bind_eq_ok_iff.mp h
  exact wholesIn_of_read (mapError_eq_ok_iff.mp hread)

theorem check_of_checkWithin {limits : Limits} {document : Json} {doc : Checked}
    (h : (checkWithin limits document).result = .ok doc) : (check document).result = .ok doc := by
  unfold checkWithin at h
  split at h
  · rwa [result_mapError, mapError_eq_ok_iff] at h
  · exact absurd h result_fail_ne_ok

theorem importGraph_of_importWithin {limits : Limits} {document : Json} {g : Graph}
    (h : (importWithin limits document).result = .ok g) :
    (importGraph document).result = .ok g := by
  unfold importWithin at h
  split at h
  · rwa [result_mapError, mapError_eq_ok_iff] at h
  · exact absurd h result_fail_ne_ok

/-- What a file holds is checked twice, the second time in its complete form. -/
theorem exists_of_loadFile {limits : Limits} {path : String} {bytes : List UInt8} {g : Graph}
    (h : (loadFile limits path bytes).result = .ok g) :
    ∃ document doc, readFile limits path bytes = .ok document ∧
      (check document).result = .ok doc ∧ (importGraph doc.toJson).result = .ok g := by
  rw [loadFile, result_bind_eq_ok_iff] at h
  obtain ⟨doc, hdoc, hgraph⟩ := h
  rw [checkFile, result_bind_eq_ok_iff] at hdoc
  obtain ⟨document, hdocument, hcheck⟩ := hdoc
  exact ⟨document, doc, hdocument, check_of_checkWithin hcheck,
    importGraph_of_importWithin hgraph⟩

theorem wholesIn_of_loadFile {limits : Limits} (hzero : limits.AllowsWhole 0) {path : String}
    {bytes : List UInt8} {g : Graph} (h : (loadFile limits path bytes).result = .ok g) :
    WholesIn limits.AllowsWhole g.toJson := by
  obtain ⟨document, doc, hdocument, hdoc, hgraph⟩ := exists_of_loadFile h
  have hcomplete := (wholesIn_of_check hzero (wholesIn_of_readFile hdocument) hdoc).1
  rw [result_importGraph] at hgraph
  cases hcheck : (check doc.toJson).result with
  | error fault => simp [hcheck, Except.map] at hgraph
  | ok again =>
      rw [hcheck] at hgraph
      obtain rfl := Except.ok.inj hgraph
      exact (wholesIn_of_check hzero hcomplete hcheck).2

/-! ## The text of a flow -/

theorem blank_of_mem_bind_spaces {width : Option Int} :
    ∀ unit ∈ width.bind spaces, Blank unit := by
  intro unit hunit
  obtain ⟨n, -, rfl⟩ := exists_of_mem_bind_spaces hunit
  intro c hc
  rw [List.eq_of_mem_replicate hc]
  rfl

theorem printed_of_mem_bind_spaces {width : Option Int} :
    ∀ unit ∈ width.bind spaces, Text.Printed unit := by
  intro unit hunit
  obtain ⟨n, -, rfl⟩ := exists_of_mem_bind_spaces hunit
  exact Text.Printed.replicate (by decide) _

theorem dumpWithin_of_wholesIn {limits : Limits} {g : Graph}
    (h : WholesIn limits.AllowsWhole g.toJson) (indent : Indent) :
    dumpWithin limits g indent = .ok (g.dump indent) := by
  rcases checkWritten_cases limits g.toJson with
    ⟨-, hwritten, -⟩ | ⟨limit, count, hlimit, hlong, ⟨n, hn, rfl⟩, -, -⟩
  · rw [dumpWithin, hwritten]
    rfl
  · exact absurd hlong (not_lt_of_allows hlimit (h n hn))

/-- A flow that was loaded is written, at every indentation, as a text of ASCII characters, which
is one of the standard just if the coordinates of the steps are finite. -/
theorem exists_dumpWithin_of_loadFile {limits : Limits}
    (hzero : Limits.allows limits.digits 1 = true) {path : String} {bytes : List UInt8} {g : Graph}
    (hload : (loadFile limits path bytes).result = .ok g) (width : Option Int) :
    ∃ text, dumpWithin limits g (width.bind spaces) = .ok text ∧
      (∀ c ∈ text.toList, c.toNat < 0x80) ∧
      (IsStandardText text.toList ↔ g.IsFinite) := by
  have hwholes := wholesIn_of_loadFile hzero hload
  obtain ⟨_, doc, -, -, hgraph⟩ := exists_of_loadFile hload
  refine ⟨_, dumpWithin_of_wholesIn hwholes _, ?_, ?_⟩
  · exact (printed_render printed_of_mem_bind_spaces g.toJson).toNat_lt
  · rw [Graph.dump, isStandardText_render_iff blank_of_mem_bind_spaces,
      isStandard_toJson_iff (sound_of_importGraph hgraph).1]

/-- A file with one step, under an id and at a coordinate that are given as they stand there. -/
def placed (id x : String) : List UInt8 :=
  let position := "\x7b\"x\":" ++ x ++ ",\"y\":0\x7d"
  let node := "\x7b\"id\":\"" ++ id ++ "\",\"kind\":\"start\",\"position\":" ++ position ++ "\x7d"
  Text.Utf8.encode ("\x7b\"nodes\":[" ++ node ++ "],\"edges\":[]\x7d").toList

/-- A file with a character beyond the basic plane, an escaped line break and a number in
scientific notation, written with two spaces a level. -/
theorem exists_dumpWithin_of_loadFile_escaped :
    let g : Graph :=
      { nodes := [⟨"é😀\n", .start, ⟨.number (.float ⟨0xbff4000000000000⟩), .int 0⟩, .empty⟩]
        edges := [] }
    (loadFile .standard "flow.json" (placed "é😀\\n" "-12.5e-1")).result = .ok g ∧
      ∃ text, dumpWithin .standard g ((some 2).bind spaces) = .ok text ∧
        (∀ c ∈ text.toList, c.toNat < 0x80) ∧ IsStandardText text.toList := by
  intro g
  have hload : (loadFile .standard "flow.json" (placed "é😀\\n" "-12.5e-1")).result = .ok g := by
    decide +kernel
  have hfinite : g.IsFinite := by
    have hx : (⟨0xbff4000000000000⟩ : Binary64).isFinite = true := by decide
    simp [g, Graph.IsFinite, Json.int, hx]
  obtain ⟨text, hwritten, hascii, hstandard⟩ :=
    @exists_dumpWithin_of_loadFile .standard rfl "flow.json" _ g hload (some 2)
  exact ⟨hload, text, hwritten, hascii, hstandard.mpr hfinite⟩

/-- The undefined number is taken as a coordinate, and its name is written, which is no number of
the standard. -/
theorem not_isStandardText_nan :
    ∃ g : Graph, (loadFile .standard "flow.json" (placed "s" "NaN")).result = .ok g ∧
      ∃ text, dumpWithin .standard g ((some 2).bind spaces) = .ok text ∧
        ¬ IsStandardText text.toList := by
  let g : Graph :=
    { nodes := [⟨"s", .start, ⟨.number (.float .nan), .int 0⟩, .empty⟩]
      edges := [] }
  refine ⟨g, by decide +kernel, g.dump ((some 2).bind spaces), rfl, ?_⟩
  rw [Graph.dump, isStandardText_render_iff blank_of_mem_bind_spaces]
  decide

end Document

end BrowserFlow
