import BrowserFlow.Failure
import BrowserFlow.Proofs.Document.Reading

/-!
# The documents that are accepted

`Reads document complete` says what a document is, and what it is completed to, with a
production for each form that an entry can have: steps and edges of the present form and
those of the earlier editor. A document within the limits is accepted just if there is a
complete form that it reads to, and that form is the answer; every other one is refused
as an invalid document (`result_checkWithin_iff_reads`). Beyond the limits a document is
refused whatever it reads to.
-/

namespace BrowserFlow

/-- The key of a parameter among the data of a step of the earlier editor. -/
def Field.legacyName : Field → String
  | .waitMode => "elementType"
  | .waitMillis => "wait"
  | .timeoutMillis => "timeout"
  | field => field.name

theorem Json.isNumber_iff {v : Json} : v.isNumber = true ↔ ∃ x, v = .number x := by
  cases v <;> simp [isNumber]

namespace Document

def IsPosition (v : Json) : Prop :=
  ∃ coordinates x y, v = .object coordinates ∧ Table.get? coordinates "x" = some (.number x) ∧
    Table.get? coordinates "y" = some (.number y)

/-- The entries that are parameters of a kind have values that these admit. -/
def Suits (called : Field → String) (kind : Kind) (entries : Table Json) : Prop :=
  ∀ entry ∈ entries, ∀ field ∈ kind.shape.fields, called field = entry.1 → field.Admits entry.2

/-- The entries that are parameters of a kind, under the names of these. -/
def known (called : Field → String) (kind : Kind) (entries : Table Json) : Table Json :=
  entries.filterMap fun entry =>
    (kind.shape.fields.find? fun field => called field = entry.1).map
      fun field => (field.name, entry.2)

/-- `ReadsNode entry (id, fields)` says that an entry is a step under `id`, completed to
`fields`. -/
inductive ReadsNode : Json → String × Table Json → Prop where
  | present {fields params : Table Json} {id : String} {kind : Kind}
      (id_eq : Table.get? fields "id" = some (.text id))
      (kind_eq : Table.get? fields "kind" = some (.text kind.name))
      (position : ∀ v, Table.get? fields "position" = some v → IsPosition v)
      (params_eq : (Table.get? fields "params").getD (.object []) = .object params)
      (suits : Suits Field.name kind params) :
      ReadsNode (.object fields)
        (id, Table.set fields "params" (.object (known Field.name kind params)))
  | legacy {fields data : Table Json} {id : String} {kind : Kind}
      (no_kind : Table.get? fields "kind" = none)
      (id_eq : Table.get? fields "id" = some (.text id))
      (type_eq : Table.get? fields "type" = some (.text kind.name))
      (position : ∀ v, Table.get? fields "position" = some v → IsPosition v)
      (data_eq : ((Table.get? fields "data").bind Json.fields?).getD [] = data)
      (suits : Suits Field.legacyName kind data) :
      ReadsNode (.object fields)
        (id, [("id", .text id), ("kind", .text kind.name),
          ("params", .object (known Field.legacyName kind data))] ++
            Legacy.optional fields "position")

/-- `ReadsEdge nodeIds entry (id, fields)` says that an entry is an edge under `id`
between steps of the document, completed to `fields`. -/
inductive ReadsEdge (nodeIds : List String) : Json → String × Table Json → Prop where
  | present {fields : Table Json} {source target id : String}
      (source_eq : Table.get? fields "sourceNodeId" = some (.text source))
      (target_eq : Table.get? fields "targetNodeId" = some (.text target))
      (source_mem : source ∈ nodeIds) (target_mem : target ∈ nodeIds)
      (id_eq : (Table.get? fields "id").getD (.text (Edge.defaultId source target)) = .text id) :
      ReadsEdge nodeIds (.object fields) (id, Table.set fields "id" (.text id))
  | legacy {fields : Table Json} {source target id : String}
      (no_source : Table.get? fields "sourceNodeId" = none)
      (source_eq : Table.get? fields "source" = some (.text source))
      (target_eq : Table.get? fields "target" = some (.text target))
      (source_mem : source ∈ nodeIds) (target_mem : target ∈ nodeIds)
      (id_eq : (Table.get? fields "id").getD (.text (Edge.defaultId source target)) = .text id) :
      ReadsEdge nodeIds (.object fields)
        (id, [("sourceNodeId", .text source), ("targetNodeId", .text target), ("id", .text id)])

/-- The completed entries of a list, each with its id. -/
abbrev Read := List (String × Table Json)

def Read.toJson (read : Read) : Json := .list (read.map fun entry => .object entry.2)

/-- A document holds steps under distinct ids and edges between these under distinct ids.
Its complete form holds, in their order, the forms that they are completed to. -/
inductive Reads : Json → Json → Prop where
  | document {fields : Table Json} {nodeItems edgeItems : List Json} {nodes edges : Read}
      (nodes_eq : Table.get? fields "nodes" = some (.list nodeItems))
      (edges_eq : Table.get? fields "edges" = some (.list edgeItems))
      (nodes_read : List.Forall₂ ReadsNode nodeItems nodes)
      (nodes_nodup : (Table.keys nodes).Nodup)
      (edges_read : List.Forall₂ (ReadsEdge (Table.keys nodes)) edgeItems edges)
      (edges_nodup : (Table.keys edges).Nodup) :
      Reads (.object fields) (.object [("nodes", nodes.toJson), ("edges", edges.toJson)])

/-- A step that was read, as its id and what it is completed to. -/
def NodeEntry.read (entry : NodeEntry) : String × Table Json := (entry.node.id, entry.fields)

def EdgeEntry.read (entry : EdgeEntry) : String × Table Json := (entry.edge.id, entry.fields)

theorem map_eq_ok_iff {ε α β : Type} {f : α → β} {x : Except ε α} {b : β} :
    x.map f = .ok b ↔ ∃ a, x = .ok a ∧ f a = b := by
  cases x <;> simp [Except.map]

open Journaled

section Params

variable {called : Field → String} {rename : String → Option String} {kind : Kind}

/-- What a key names, by looking up its new name or by looking for the parameter that
is called so. -/
theorem find?_called_eq
    (h : ∀ key field, (rename key).bind kind.shape.field? = some field ↔
      field ∈ kind.shape.fields ∧ called field = key) (key : String) :
    (kind.shape.fields.find? fun field => called field = key) =
      (rename key).bind kind.shape.field? := by
  cases hfind : kind.shape.fields.find? fun field => called field = key with
  | some field =>
      have hcalled : called field = key := by simpa using List.find?_some hfind
      exact ((h key field).mpr ⟨List.mem_of_find?_eq_some hfind, hcalled⟩).symm
  | none =>
      symm
      rw [Option.eq_none_iff_forall_ne_some]
      intro field hfield
      obtain ⟨hmem, hcalled⟩ := (h key field).mp hfield
      have hnot := List.find?_eq_none.mp hfind field hmem
      exact hnot (decide_eq_true hcalled)

/-- Parameters under other names pass just if they suit, and what is kept are those that
the kind has. -/
theorem result_checkParams_rename_eq_ok_iff (place : String) (called : Field → String)
    (rename : String → Option String)
    (h : ∀ key field, (rename key).bind kind.shape.field? = some field ↔
      field ∈ kind.shape.fields ∧ called field = key)
    {entries kept : Table Json} :
    (checkParams place kind (entries.filterMap fun entry =>
        (rename entry.1).map fun name => (name, entry.2))).result = .ok kept ↔
      Suits called kind entries ∧ kept = known called kind entries := by
  rw [result_checkParams_eq_ok_iff]
  have hsuits : (∀ entry ∈ entries.filterMap fun entry =>
        (rename entry.1).map fun name => (name, entry.2),
      ∀ field, kind.shape.field? entry.1 = some field → field.accepts entry.2 = true) ↔
      Suits called kind entries := by
    constructor
    · intro hall entry hentry field hmem hcalled
      obtain ⟨name, hname, hfield⟩ := Option.bind_eq_some_iff.mp ((h _ _).mpr ⟨hmem, hcalled⟩)
      have hrenamed : (name, entry.2) ∈ entries.filterMap fun entry =>
          (rename entry.1).map fun name => (name, entry.2) :=
        List.mem_filterMap.mpr ⟨entry, hentry, by rw [hname, Option.map_some]⟩
      exact Field.accepts_iff_admits.mp (hall _ hrenamed field hfield)
    · intro hall renamed hrenamed field hfield
      obtain ⟨entry, hentry, heq⟩ := List.mem_filterMap.mp hrenamed
      obtain ⟨name, hname, rfl⟩ := Option.map_eq_some_iff.mp heq
      have hbind : (rename entry.1).bind kind.shape.field? = some field := by
        rw [hname, Option.bind_some, hfield]
      obtain ⟨hmem, hcalled⟩ := (h _ _).mp hbind
      exact Field.accepts_iff_admits.mpr (hall entry hentry field hmem hcalled)
  have hknown : ((entries.filterMap fun entry =>
        (rename entry.1).map fun name => (name, entry.2)).filter fun entry =>
      (kind.shape.field? entry.1).isSome) = known called kind entries := by
    rw [List.filter_filterMap, known]
    congr 1
    funext entry
    rw [find?_called_eq h]
    cases rename entry.1 with
    | none => rfl
    | some name =>
        cases hfield : kind.shape.field? name with
        | none => simp [hfield]
        | some field => simp [hfield, (Shape.field?_eq_some_iff.mp hfield).2]
  rw [hsuits, hknown]

theorem result_checkParams_present_eq_ok_iff {place : String} {entries kept : Table Json} :
    (checkParams place kind entries).result = .ok kept ↔
      Suits Field.name kind entries ∧ kept = known Field.name kind entries := by
  rw [← result_checkParams_rename_eq_ok_iff place Field.name some
    fun _ _ => Shape.field?_eq_some_iff]
  simp

/-- The old names are those under which the data of a step hold its parameters. -/
theorem get?_paramNames_eq_some_iff {key name : String} :
    Table.get? Legacy.paramNames key = some name ↔
      ∃ field : Field, field.legacyName = key ∧ field.name = name := by
  constructor
  · intro h
    have hnames : Legacy.paramNames =
        [Field.url, .selector, .value, .code, .waitMode, .waitMillis, .timeoutMillis].map
          fun field => (field.legacyName, field.name) := rfl
    have hmem := Table.mem_of_get? h
    rw [hnames] at hmem
    obtain ⟨field, -, heq⟩ := List.mem_map.mp hmem
    exact ⟨field, congrArg Prod.fst heq, congrArg Prod.snd heq⟩
  · rintro ⟨field, rfl, rfl⟩
    cases field <;> rfl

theorem result_checkParams_legacy_eq_ok_iff {place : String} {data : Json}
    {kept : Table Json} :
    (checkParams place kind (Legacy.params data)).result = .ok kept ↔
      Suits Field.legacyName kind (data.fields?.getD []) ∧
        kept = known Field.legacyName kind (data.fields?.getD []) := by
  have hrename : ∀ key field,
      (Table.get? Legacy.paramNames key).bind kind.shape.field? = some field ↔
        field ∈ kind.shape.fields ∧ field.legacyName = key := by
    intro key field
    simp only [Option.bind_eq_some_iff, get?_paramNames_eq_some_iff, Shape.field?_eq_some_iff]
    constructor
    · rintro ⟨name, ⟨other, rfl, rfl⟩, hmem, hname⟩
      exact ⟨hmem, by rw [Field.name_injective hname]⟩
    · rintro ⟨hmem, rfl⟩
      exact ⟨field.name, ⟨field, rfl, rfl⟩, hmem, rfl⟩
  rw [← result_checkParams_rename_eq_ok_iff place Field.legacyName _ hrename]
  cases data <;> rfl

end Params

theorem result_required_eq_ok_iff {place key : String} {fields : Table Json} {v : Json} :
    (required place key fields).result = .ok v ↔ Table.get? fields key = some v := by
  unfold required
  cases Table.get? fields key <;> simp

theorem result_asText_eq_ok_iff {place key : String} {v : Json} {s : String} :
    (asText place key v).result = .ok s ↔ v = .text s := by
  cases v <;> simp [asText]

/-- A position passes if there is none, or if it is an object with two numbers. -/
theorem exists_result_nodePosition_iff {place : String} {fields : Table Json} :
    (∃ p, (nodePosition place fields).result = .ok p) ↔
      ∀ v, Table.get? fields "position" = some v → IsPosition v := by
  cases hget : Table.get? fields "position" with
  | none => simp [nodePosition, hget]
  | some v =>
      have hforall : (∀ w, some v = some w → IsPosition w) ↔ IsPosition v := by simp
      rw [hforall]
      cases v with
      | object coordinates =>
          simp only [nodePosition, hget, result_bind_eq_ok_iff, result_mapError, result_lift,
            mapError_eq_ok_iff, checkPosition_eq_ok_iff, result_required_eq_ok_iff]
          constructor
          · rintro ⟨_, x, hx, y, hy, hnumeric, rfl⟩
            obtain ⟨hx', hy'⟩ := Bool.and_eq_true_iff.mp hnumeric
            obtain ⟨x, rfl⟩ := Json.isNumber_iff.mp hx'
            obtain ⟨y, rfl⟩ := Json.isNumber_iff.mp hy'
            exact ⟨coordinates, x, y, rfl, hx, hy⟩
          · rintro ⟨_, x, y, heq, hx, hy⟩
            obtain rfl := Json.object.inj heq
            exact ⟨_, _, hx, _, hy, rfl, rfl⟩
      | _ => simp [nodePosition, hget, IsPosition]

theorem result_nodeParams_present_eq_ok_iff {place : String} {kind : Kind}
    {fields kept : Table Json} :
    (nodeParams place kind fields).result = .ok kept ↔
      ∃ params, (Table.get? fields "params").getD (.object []) = .object params ∧
        Suits Field.name kind params ∧ kept = known Field.name kind params := by
  unfold nodeParams
  cases hget : Table.get? fields "params" with
  | none => simp [Suits, known, eq_comm]
  | some v =>
      cases v with
      | object params => simp [result_checkParams_present_eq_ok_iff]
      | _ => simp

/-- What the check of a step asks for, whatever the form it was read from. -/
theorem result_checkNode_object_eq_ok_iff {seen : List String} {index : Nat}
    {fields read : Table Json} {id : String} :
    (checkNode seen index (.object fields)).result.map NodeEntry.read = .ok (id, read) ↔
      id ∉ seen ∧ Table.get? fields "id" = some (.text id) ∧
        (∀ v, Table.get? fields "position" = some v → IsPosition v) ∧
        ∃ kind params, Table.get? fields "kind" = some (.text (Kind.name kind)) ∧
          (nodeParams (Part.nodes.place index) kind fields).result = .ok params ∧
          read = Table.set fields "params" (.object params) := by
  simp only [map_eq_ok_iff, checkNode, result_bind_eq_ok_iff, result_require_eq_ok_iff,
    result_required_eq_ok_iff, result_asText_eq_ok_iff]
  constructor
  · rintro ⟨entry, ⟨_, hid, _, hkind, id, rfl, name, rfl, -, hnew, hrest⟩, hread⟩
    split at hrest
    · exact absurd hrest result_fail_ne_ok
    · rename_i kind hname
      simp only [result_bind_eq_ok_iff, result_pure_eq_ok_iff] at hrest
      obtain ⟨p, hposition, params, hparams, rfl⟩ := hrest
      obtain ⟨rfl, rfl⟩ := Prod.mk.inj hread
      refine ⟨hnew, hid, exists_result_nodePosition_iff.mp ⟨p, hposition⟩, kind, params, ?_,
        hparams, rfl⟩
      rw [Kind.name_of_ofName? hname]
      exact hkind
  · rintro ⟨hnew, hid, hposition, kind, params, hkind, hparams, rfl⟩
    obtain ⟨p, hp⟩ := exists_result_nodePosition_iff.mpr hposition
    refine ⟨⟨⟨id, kind, p, Params.ofPairs kind.shape params⟩, _⟩,
      ⟨_, hid, _, hkind, id, rfl, _, rfl, (), hnew, ?_⟩, rfl⟩
    rw [Kind.ofName?_name]
    simp only [result_bind_eq_ok_iff, result_pure_eq_ok_iff]
    exact ⟨p, hp, params, hparams, rfl⟩

theorem get?_modernNode (fields : Table Json) (id kind params : Json) :
    let modern : Table Json :=
      [("id", id), ("kind", kind), ("params", params)] ++ Legacy.optional fields "position"
    Table.get? modern "id" = some id ∧ Table.get? modern "kind" = some kind ∧
      Table.get? modern "params" = some params ∧
      Table.get? modern "position" = Table.get? fields "position" ∧
      ∀ v, Table.set modern "params" v =
        [("id", id), ("kind", kind), ("params", v)] ++ Legacy.optional fields "position" := by
  refine ⟨rfl, rfl, rfl, ?_, fun v => rfl⟩
  unfold Legacy.optional
  cases Table.get? fields "position" <;> rfl

theorem result_nodeParams_legacy_eq_ok_iff {place : String} {kind : Kind}
    {fields modern kept : Table Json}
    (h : Table.get? modern "params" =
      some (.object (Legacy.params (Legacy.fieldOrNull fields "data")))) :
    (nodeParams place kind modern).result = .ok kept ↔
      Suits Field.legacyName kind (((Table.get? fields "data").bind Json.fields?).getD []) ∧
        kept = known Field.legacyName kind
          (((Table.get? fields "data").bind Json.fields?).getD []) := by
  have hdata : (Legacy.fieldOrNull fields "data").fields?.getD [] =
      ((Table.get? fields "data").bind Json.fields?).getD [] := by
    unfold Legacy.fieldOrNull
    cases Table.get? fields "data" <;> rfl
  rw [← hdata, nodeParams, h]
  simp only [result_mapError, mapError_eq_ok_iff]
  exact result_checkParams_legacy_eq_ok_iff

theorem fieldOrNull_eq_text_iff {fields : Table Json} {key s : String} :
    Legacy.fieldOrNull fields key = .text s ↔ Table.get? fields key = some (.text s) := by
  unfold Legacy.fieldOrNull
  cases Table.get? fields key <;> simp

theorem ReadsNode.exists_fields {entry : Json} {read : String × Table Json}
    (h : ReadsNode entry read) : ∃ fields, entry = .object fields := by
  cases h with
  | present => exact ⟨_, rfl⟩
  | legacy => exact ⟨_, rfl⟩

/-- A step that has a kind, or no type either, passes just if the grammar has it in the
present form. -/
theorem result_checkNode_present_eq_ok_iff {seen : List String} {index : Nat}
    {fields read : Table Json} {id : String}
    (hpresent : Table.get? fields "kind" = none → Table.get? fields "type" = none) :
    (checkNode seen index (.object fields)).result.map NodeEntry.read = .ok (id, read) ↔
      id ∉ seen ∧ ReadsNode (.object fields) (id, read) := by
  rw [result_checkNode_object_eq_ok_iff]
  apply and_congr_right
  intro _
  constructor
  · rintro ⟨hid, hposition, kind, params, hname, hparams, rfl⟩
    obtain ⟨given, hgiven, hsuits, rfl⟩ := result_nodeParams_present_eq_ok_iff.mp hparams
    exact .present hid hname hposition hgiven hsuits
  · rintro (⟨hid, hname, hposition, hgiven, hsuits⟩ | ⟨hnone, -, htype, -⟩)
    · exact ⟨hid, hposition, _, _, hname,
        result_nodeParams_present_eq_ok_iff.mpr ⟨_, hgiven, hsuits, rfl⟩, rfl⟩
    · simp [hpresent hnone] at htype

/-- A step that has a type and no kind passes, brought into the present form, just if
the grammar has it in the form of the earlier editor. -/
theorem result_checkNode_legacy_eq_ok_iff {seen : List String} {index : Nat}
    {fields read : Table Json} {id : String} {v : Json} (hkind : Table.get? fields "kind" = none)
    (htype : Table.get? fields "type" = some v) :
    (checkNode seen index (Legacy.modernNode (.object fields))).result.map NodeEntry.read =
        .ok (id, read) ↔
      id ∉ seen ∧ ReadsNode (.object fields) (id, read) := by
  simp only [Legacy.modernNode, hkind, htype]
  rw [result_checkNode_object_eq_ok_iff]
  obtain ⟨hid', hkind', hparams', hposition', hset⟩ := get?_modernNode fields
    (Legacy.fieldOrNull fields "id") v
    (.object (Legacy.params (Legacy.fieldOrNull fields "data")))
  rw [hid', hkind', hposition', Option.some_inj, fieldOrNull_eq_text_iff]
  apply and_congr_right
  intro _
  constructor
  · rintro ⟨hid, hposition, kind, params, hname, hparams, rfl⟩
    obtain rfl := Option.some.inj hname
    obtain ⟨hsuits, rfl⟩ := (result_nodeParams_legacy_eq_ok_iff hparams').mp hparams
    rw [hset, fieldOrNull_eq_text_iff.mpr hid]
    exact .legacy hkind hid htype hposition rfl hsuits
  · rintro (⟨-, hname, -⟩ | ⟨-, hid, htype', hposition, rfl, hsuits⟩)
    · simp [hkind] at hname
    · obtain rfl := Option.some.inj (htype.symm.trans htype')
      refine ⟨hid, hposition, _, _, rfl,
        (result_nodeParams_legacy_eq_ok_iff hparams').mpr ⟨hsuits, rfl⟩, ?_⟩
      rw [hset, fieldOrNull_eq_text_iff.mpr hid]

/-- A step passes, under an id that is new, just if the grammar has it. -/
theorem result_checkNode_eq_ok_iff {seen : List String} {index : Nat} {entry : Json}
    {read : Table Json} {id : String} :
    (checkNode seen index (Legacy.modernNode entry)).result.map NodeEntry.read = .ok (id, read) ↔
      id ∉ seen ∧ ReadsNode entry (id, read) := by
  cases entry with
  | object fields =>
      cases hkind : Table.get? fields "kind" with
      | some v =>
          have hmodern : Legacy.modernNode (.object fields) = .object fields := by
            simp [Legacy.modernNode, hkind]
          rw [hmodern]
          exact result_checkNode_present_eq_ok_iff (by simp [hkind])
      | none =>
          cases htype : Table.get? fields "type" with
          | some v => exact result_checkNode_legacy_eq_ok_iff hkind htype
          | none =>
              have hmodern : Legacy.modernNode (.object fields) = .object fields := by
                simp [Legacy.modernNode, hkind, htype]
              rw [hmodern]
              exact result_checkNode_present_eq_ok_iff fun _ => htype
  | _ =>
      constructor
      · intro h
        simp [Legacy.modernNode, checkNode, Except.map] at h
      · rintro ⟨-, hread⟩
        obtain ⟨fields, hfields⟩ := hread.exists_fields
        simp at hfields

theorem result_checkEdge_object_eq_ok_iff {nodeIds seen : List String} {index : Nat}
    {fields read : Table Json} {id : String} :
    (checkEdge nodeIds seen index (.object fields)).result.map EdgeEntry.read = .ok (id, read) ↔
      id ∉ seen ∧ ∃ source target, Table.get? fields "sourceNodeId" = some (.text source) ∧
        Table.get? fields "targetNodeId" = some (.text target) ∧
        source ∈ nodeIds ∧ target ∈ nodeIds ∧
        (Table.get? fields "id").getD (.text (Edge.defaultId source target)) = .text id ∧
        read = Table.set fields "id" (.text id) := by
  simp only [map_eq_ok_iff, checkEdge, edgeEnd, result_bind_eq_ok_iff, result_require_eq_ok_iff,
    result_required_eq_ok_iff, result_asText_eq_ok_iff, result_pure_eq_ok_iff]
  constructor
  · rintro ⟨entry, ⟨_, hsource, _, htarget, source, ⟨_, rfl, -, hsource', rfl⟩,
      target, ⟨_, rfl, -, htarget', rfl⟩, id, hid, -, hnew, rfl⟩, hread⟩
    obtain ⟨rfl, rfl⟩ := Prod.mk.inj hread
    exact ⟨hnew, _, _, hsource, htarget, hsource', htarget', hid, by rw [hid]⟩
  · rintro ⟨hnew, source, target, hsource, htarget, hsource', htarget', hid, rfl⟩
    refine ⟨⟨⟨id, source, target⟩, _⟩, ⟨_, hsource, _, htarget, source, ⟨_, rfl, (), hsource', rfl⟩,
      target, ⟨_, rfl, (), htarget', rfl⟩, id, hid, (), hnew, rfl⟩, ?_⟩
    rw [hid, EdgeEntry.read]

theorem ReadsEdge.exists_fields {nodeIds : List String} {entry : Json}
    {read : String × Table Json} (h : ReadsEdge nodeIds entry read) :
    ∃ fields, entry = .object fields := by
  cases h with
  | present => exact ⟨_, rfl⟩
  | legacy => exact ⟨_, rfl⟩

theorem get?_modernEdge (fields : Table Json) (source target : Json) :
    let modern : Table Json :=
      [("sourceNodeId", source), ("targetNodeId", target)] ++ Legacy.optional fields "id"
    Table.get? modern "sourceNodeId" = some source ∧
      Table.get? modern "targetNodeId" = some target ∧
      Table.get? modern "id" = Table.get? fields "id" ∧
      ∀ v, Table.set modern "id" v =
        [("sourceNodeId", source), ("targetNodeId", target), ("id", v)] := by
  refine ⟨rfl, rfl, ?_, ?_⟩
  · unfold Legacy.optional
    cases Table.get? fields "id" <;> rfl
  · intro v
    unfold Legacy.optional
    cases Table.get? fields "id" <;> rfl

/-- An edge that has its source, or none under the old name either, passes just if the
grammar has it in the present form. -/
theorem result_checkEdge_present_eq_ok_iff {nodeIds seen : List String} {index : Nat}
    {fields read : Table Json} {id : String}
    (hpresent : Table.get? fields "sourceNodeId" = none → Table.get? fields "source" = none) :
    (checkEdge nodeIds seen index (.object fields)).result.map EdgeEntry.read = .ok (id, read) ↔
      id ∉ seen ∧ ReadsEdge nodeIds (.object fields) (id, read) := by
  rw [result_checkEdge_object_eq_ok_iff]
  apply and_congr_right
  intro _
  constructor
  · rintro ⟨source, target, hsource, htarget, hsourceMem, htargetMem, hid, rfl⟩
    exact .present hsource htarget hsourceMem htargetMem hid
  · rintro (⟨hsource, htarget, hsourceMem, htargetMem, hid⟩ | ⟨hnone, hold, -⟩)
    · exact ⟨_, _, hsource, htarget, hsourceMem, htargetMem, hid, rfl⟩
    · simp [hpresent hnone] at hold

/-- An edge that has a source under the old name only passes, brought into the present
form, just if the grammar has it in the form of the earlier editor. -/
theorem result_checkEdge_legacy_eq_ok_iff {nodeIds seen : List String} {index : Nat}
    {fields read : Table Json} {id : String} {v : Json}
    (hnone : Table.get? fields "sourceNodeId" = none)
    (hold : Table.get? fields "source" = some v) :
    (checkEdge nodeIds seen index (Legacy.modernEdge (.object fields))).result.map
        EdgeEntry.read = .ok (id, read) ↔
      id ∉ seen ∧ ReadsEdge nodeIds (.object fields) (id, read) := by
  simp only [Legacy.modernEdge, hnone, hold]
  rw [result_checkEdge_object_eq_ok_iff]
  obtain ⟨hsource', htarget', hid', hset⟩ :=
    get?_modernEdge fields v (Legacy.fieldOrNull fields "target")
  simp only [hsource', htarget', hid', hset, Option.some_inj, fieldOrNull_eq_text_iff]
  apply and_congr_right
  intro _
  constructor
  · rintro ⟨source, target, rfl, htarget, hsourceMem, htargetMem, hid, rfl⟩
    rw [fieldOrNull_eq_text_iff.mpr htarget]
    exact .legacy hnone hold htarget hsourceMem htargetMem hid
  · rintro (⟨hsource, -⟩ | ⟨-, hsource, htarget, hsourceMem, htargetMem, hid⟩)
    · simp [hnone] at hsource
    · obtain rfl := Option.some.inj (hold.symm.trans hsource)
      refine ⟨_, _, rfl, htarget, hsourceMem, htargetMem, hid, ?_⟩
      rw [fieldOrNull_eq_text_iff.mpr htarget]

/-- An edge passes, under an id that is new, just if the grammar has it. -/
theorem result_checkEdge_eq_ok_iff {nodeIds seen : List String} {index : Nat} {entry : Json}
    {read : Table Json} {id : String} :
    (checkEdge nodeIds seen index (Legacy.modernEdge entry)).result.map EdgeEntry.read =
        .ok (id, read) ↔
      id ∉ seen ∧ ReadsEdge nodeIds entry (id, read) := by
  cases entry with
  | object fields =>
      cases hnew : Table.get? fields "sourceNodeId" with
      | some v =>
          have hmodern : Legacy.modernEdge (.object fields) = .object fields := by
            simp [Legacy.modernEdge, hnew]
          rw [hmodern]
          exact result_checkEdge_present_eq_ok_iff (by simp [hnew])
      | none =>
          cases hold : Table.get? fields "source" with
          | some v => exact result_checkEdge_legacy_eq_ok_iff hnew hold
          | none =>
              have hmodern : Legacy.modernEdge (.object fields) = .object fields := by
                simp [Legacy.modernEdge, hnew, hold]
              rw [hmodern]
              exact result_checkEdge_present_eq_ok_iff fun _ => hold
  | _ =>
      constructor
      · intro h
        simp [Legacy.modernEdge, checkEdge, Except.map] at h
      · rintro ⟨-, hread⟩
        obtain ⟨fields, hfields⟩ := hread.exists_fields
        simp at hfields

/-- A list is checked entry by entry, each against the ids before it, so it passes just if
all entries do and their ids are distinct. -/
theorem result_checkAll_eq_ok_iff {α : Type} {read : α → String × Table Json}
    {form : Json → Json} {reads : Json → String × Table Json → Prop}
    {check : List String → Nat → Json → Journaled Fault α}
    {checkAll : List String → Nat → List Json → Journaled Fault (List α)}
    (hcheck : ∀ {seen index entry fields id},
      (check seen index (form entry)).result.map read = .ok (id, fields) ↔
        id ∉ seen ∧ reads entry (id, fields))
    (hnil : ∀ seen index, checkAll seen index [] = pure [])
    (hcons : ∀ seen index entry rest, checkAll seen index (entry :: rest) = do
      let first ← check seen index entry
      let others ← checkAll (seen ++ [(read first).1]) (index + 1) rest
      return first :: others)
    {seen : List String} {index : Nat} {entries : List Json} {all : Read} (hseen : seen.Nodup) :
    (checkAll seen index (entries.map form)).result.map (List.map read) = .ok all ↔
      List.Forall₂ reads entries all ∧
        (seen ++ Table.keys all).Nodup := by
  -- the ids that an entry is checked against are those of the entries before it
  induction entries generalizing seen index all with
  | nil =>
      rw [List.map_nil, hnil, map_eq_ok_iff, List.forall₂_nil_left_iff]
      constructor
      · rintro ⟨_, hpure, rfl⟩
        obtain rfl := result_pure_eq_ok_iff.mp hpure
        exact ⟨rfl, by simpa [Table.keys] using hseen⟩
      · rintro ⟨rfl, -⟩
        exact ⟨[], rfl, rfl⟩
  | cons entry entries ih =>
      rw [List.map_cons, hcons]
      simp only [map_eq_ok_iff, result_bind_eq_ok_iff, result_pure_eq_ok_iff]
      constructor
      · rintro ⟨_, ⟨first, hfirst, others, hothers, rfl⟩, rfl⟩
        obtain ⟨hid, hreads⟩ := hcheck.mp (map_eq_ok_iff.mpr ⟨first, hfirst, rfl⟩)
        have hnew : (seen ++ [(read first).1]).Nodup :=
          nodup_append_singleton_iff.mpr ⟨hid, hseen⟩
        obtain ⟨hall, hnodup⟩ := (ih hnew).mp (map_eq_ok_iff.mpr ⟨others, hothers, rfl⟩)
        exact ⟨.cons hreads hall, by simpa [Table.keys] using hnodup⟩
      · rintro ⟨hall, hnodup⟩
        cases hall with
        | @cons _ result _ results hreads hall =>
            have hkeys : (seen ++ [result.1] ++ Table.keys results).Nodup := by
              simpa [Table.keys] using hnodup
            have hnew := hkeys.of_append_left
            obtain ⟨hid, -⟩ := nodup_append_singleton_iff.mp hnew
            obtain ⟨first, hfirst, hread⟩ := map_eq_ok_iff.mp (hcheck.mpr ⟨hid, hreads⟩)
            obtain ⟨others, hothers, rfl⟩ := map_eq_ok_iff.mp ((ih hnew).mpr ⟨hall, hkeys⟩)
            refine ⟨_, ⟨first, hfirst, others, ?_, rfl⟩, by rw [List.map_cons, hread]⟩
            rw [hread]
            exact hothers

theorem result_checkNodes_eq_ok_iff {entries : List Json} {all : Read} :
    (checkNodes [] 0 (entries.map Legacy.modernNode)).result.map (List.map NodeEntry.read) =
        .ok all ↔
      List.Forall₂ ReadsNode entries all ∧
        (Table.keys all).Nodup :=
  result_checkAll_eq_ok_iff result_checkNode_eq_ok_iff (fun _ _ => rfl) (fun _ _ _ _ => rfl)
    List.nodup_nil

theorem result_checkEdges_eq_ok_iff {nodeIds : List String} {entries : List Json} {all : Read} :
    (checkEdges nodeIds [] 0 (entries.map Legacy.modernEdge)).result.map
        (List.map EdgeEntry.read) = .ok all ↔
      List.Forall₂ (ReadsEdge nodeIds) entries all ∧
        (Table.keys all).Nodup :=
  result_checkAll_eq_ok_iff result_checkEdge_eq_ok_iff (fun _ _ => rfl) (fun _ _ _ _ => rfl)
    List.nodup_nil

theorem result_entries_eq_ok_iff {part : Part} {v : Json} {items : List Json} :
    (entries part v).result = .ok items ↔ v = .list items := by
  cases v <;> simp [entries]

theorem Checked.toJson_eq (doc : Checked) :
    doc.toJson = .object [("nodes", Read.toJson (doc.nodes.map NodeEntry.read)),
      ("edges", Read.toJson (doc.edges.map EdgeEntry.read))] := by
  simp [Checked.toJson, Read.toJson, NodeEntry.read, EdgeEntry.read, Function.comp_def]

/-- The check accepts what the grammar has and answers with its complete form. -/
theorem result_check_eq_ok_iff {document complete : Json} :
    (check document).result.map Checked.toJson = .ok complete ↔ Reads document complete := by
  have hids : ∀ nodes : List NodeEntry,
      (nodes.map fun entry => entry.node.id) = Table.keys (nodes.map NodeEntry.read) := by
    simp [Table.keys, NodeEntry.read, Function.comp_def]
  cases document with
  | object fields =>
      simp only [map_eq_ok_iff, check, result_bind_eq_ok_iff, result_pure_eq_ok_iff,
        result_required_eq_ok_iff, result_entries_eq_ok_iff]
      constructor
      · rintro ⟨_, ⟨_, hnodeItems, _, hedgeItems, nodeItems, rfl, edgeItems, rfl, nodes, hnodes,
          edges, hedges, rfl⟩, rfl⟩
        rw [hids] at hedges
        obtain ⟨hnodesRead, hnodesNodup⟩ :=
          result_checkNodes_eq_ok_iff.mp (map_eq_ok_iff.mpr ⟨nodes, hnodes, rfl⟩)
        obtain ⟨hedgesRead, hedgesNodup⟩ :=
          result_checkEdges_eq_ok_iff.mp (map_eq_ok_iff.mpr ⟨edges, hedges, rfl⟩)
        rw [Checked.toJson_eq]
        exact .document hnodeItems hedgeItems hnodesRead hnodesNodup hedgesRead hedgesNodup
      · rintro ⟨hnodeItems, hedgeItems, hnodesRead, hnodesNodup, hedgesRead, hedgesNodup⟩
        obtain ⟨nodes, hnodes, rfl⟩ :=
          map_eq_ok_iff.mp (result_checkNodes_eq_ok_iff.mpr ⟨hnodesRead, hnodesNodup⟩)
        rw [← hids] at hedgesRead
        obtain ⟨edges, hedges, rfl⟩ :=
          map_eq_ok_iff.mp (result_checkEdges_eq_ok_iff.mpr ⟨hedgesRead, hedgesNodup⟩)
        exact ⟨_, ⟨_, hnodeItems, _, hedgeItems, _, rfl, _, rfl, nodes, hnodes, edges, hedges, rfl⟩,
          Checked.toJson_eq _⟩
  | _ =>
      constructor
      · intro h
        simp [check, Except.map] at h
      · intro h
        cases h

/-- A document within the limits is accepted just if it reads to a complete form, which is
the answer, and is else refused as an invalid document. Beyond the limits it is refused
for its depth. -/
theorem result_checkWithin_iff_reads (limits : Json.Limits) (document : Json) :
    (∀ complete, (checkWithin limits document).result.map Checked.toJson = .ok complete ↔
      fits limits document = true ∧ Reads document complete) ∧
    ∀ refusal, (checkWithin limits document).result = .error refusal →
      if fits limits document then (Failure.ofRefusal refusal).kind = .invalidDocument
      else refusal = .beyond .copyDepth := by
  by_cases hfits : fits limits document = true
  · rw [checkWithin_of_fits hfits, result_mapError]
    constructor
    · intro complete
      rw [← result_check_eq_ok_iff]
      cases (check document).result with
      | ok doc => simp [hfits, mapError_ok, Except.map]
      | error fault => simp [mapError_error, Except.map]
    · intro refusal hrefusal
      rw [if_pos hfits]
      cases hresult : (check document).result with
      | ok doc => simp [hresult, mapError_ok] at hrefusal
      | error fault =>
          rw [hresult, mapError_error] at hrefusal
          rw [← Except.error.inj hrefusal]
          rfl
  · have hresult : (checkWithin limits document).result = .error (.beyond .copyDepth) := by
      rw [checkWithin, if_neg hfits, result_fail]
    rw [hresult]
    constructor
    · intro complete
      simp [Except.map, hfits]
    · intro refusal hrefusal
      rw [if_neg hfits, Except.error.inj hrefusal]

theorem isPosition_of_none {fields : Table Json} (h : Table.get? fields "position" = none)
    (v : Json) (hv : Table.get? fields "position" = some v) : IsPosition v := by
  simp [h] at hv

theorem suits_nil (called : Field → String) (kind : Kind) : Suits called kind [] :=
  fun _ hentry => absurd hentry List.not_mem_nil

/-- A step of the earlier editor with a label and a wait, a step of the present form, an
edge without an id between them, and a document whose step stands at a truth value. -/
theorem result_checkWithin_iff_reads_label :
    let data : Json := .object [("label", .text "Pause"), ("elementType", .text "time")]
    let document : Json := .object
      [("nodes", .list [.object [("id", .text "w"), ("type", .text "wait"), ("data", data)],
          .object [("kind", .text "start"), ("id", .text "s")]]),
        ("edges", .list [.object [("source", .text "s"), ("target", .text "w")]])]
    let complete : Json := .object
      [("nodes", .list [.object [("id", .text "w"), ("kind", .text "wait"),
            ("params", .object [("waitMode", .text "time")])],
          .object [("kind", .text "start"), ("id", .text "s"), ("params", .object [])]]),
        ("edges", .list [.object [("sourceNodeId", .text "s"), ("targetNodeId", .text "w"),
          ("id", .text "edge-s-w")]])]
    let faulty : Json := .object
      [("nodes", .list [.object [("id", .text "s"), ("kind", .text "start"),
          ("position", .object [("x", .bool true), ("y", .int 0)])]]),
        ("edges", .list [])]
    (checkWithin .standard document).result.map Checked.toJson = .ok complete ∧
      ∃ refusal, (checkWithin .standard faulty).result = .error refusal ∧
        (Failure.ofRefusal refusal).kind = .invalidDocument := by
  intro data document complete faulty
  have hwait : ReadsNode (.object [("id", .text "w"), ("type", .text "wait"), ("data", data)])
      ("w", [("id", .text "w"), ("kind", .text "wait"),
        ("params", .object [("waitMode", .text "time")])]) := by
    have hsuits : Suits Field.legacyName .wait
        [("label", .text "Pause"), ("elementType", .text "time")] := by
      simp [Suits, Kind.shape, Shape.fields, Field.legacyName, Field.name, Field.Admits]
    exact @ReadsNode.legacy _ _ _ .wait rfl rfl rfl (isPosition_of_none rfl) rfl hsuits
  have hstart : ReadsNode (.object [("kind", .text "start"), ("id", .text "s")])
      ("s", [("kind", .text "start"), ("id", .text "s"), ("params", .object [])]) :=
    @ReadsNode.present _ _ _ .start rfl rfl (isPosition_of_none rfl) rfl (suits_nil _ _)
  have hedge : ReadsEdge ["w", "s"] (.object [("source", .text "s"), ("target", .text "w")])
      ("edge-s-w", [("sourceNodeId", .text "s"), ("targetNodeId", .text "w"),
        ("id", .text "edge-s-w")]) :=
    .legacy rfl rfl rfl (by decide) (by decide) rfl
  have hreads : Reads document complete :=
    .document rfl rfl (.cons hwait (.cons hstart .nil)) (by decide) (.cons hedge .nil) (by decide)
  have hrefusal : (checkWithin .standard faulty).result =
      .error (.faulty (.value (.position "nodes[0].position"))) := by
    rfl
  have hfits : fits .standard faulty = true := by decide
  have hkind := (result_checkWithin_iff_reads .standard faulty).2 _ hrefusal
  rw [if_pos hfits] at hkind
  exact ⟨((result_checkWithin_iff_reads _ _).1 _).mpr ⟨by decide, hreads⟩, _, hrefusal, hkind⟩

/-- A value inside of `n` lists. -/
def nested : Nat → Json
  | 0 => .null
  | n + 1 => .list [nested n]

theorem copyDepth_nested (n : Nat) : (nested n).copyDepth = 2 * n + 2 := by
  induction n with
  | zero => rfl
  | succ n ih =>
      rw [Json.copyDepth] at ih
      simp only [nested, Json.copyDepth, Json.extent, Json.itemsExtent, ih]
      omega

/-- A document of one step, which has a value of some depth under a key that means
nothing. -/
def remarked (n : Nat) : Json :=
  .object [("nodes", .list [.object [("id", .text "s"), ("kind", .text "start"),
    ("remark", nested n)]]), ("edges", .list [])]

theorem copyDepth_remarked (n : Nat) : copyDepth (remarked n) = 2 * n + 8 := by
  have h := copyDepth_nested n
  rw [Json.copyDepth] at h
  have hmodern : copyDepth (remarked n) = Json.copyDepth (remarked n) := rfl
  rw [hmodern]
  simp only [remarked, Json.copyDepth, Json.extent, Json.itemsExtent, Json.fieldsExtent, h]
  omega

/-- The grammar has the document, however deep the value is. -/
theorem reads_remarked (n : Nat) : ∃ complete, Reads (remarked n) complete := by
  have hnode : ReadsNode
      (.object [("id", .text "s"), ("kind", .text "start"), ("remark", nested n)])
      ("s", [("id", .text "s"), ("kind", .text "start"), ("remark", nested n),
        ("params", .object [])]) :=
    @ReadsNode.present _ _ _ .start rfl rfl (isPosition_of_none rfl) rfl (suits_nil _ _)
  exact ⟨_, .document rfl rfl (.cons hnode .nil) (List.nodup_singleton _) .nil List.nodup_nil⟩

/-- A document that the grammar has is refused, and not as an invalid document, since a
value that is of no account is nested too deep. -/
theorem result_checkWithin_remarked :
    (∃ complete, Reads (remarked 500) complete) ∧
      (checkWithin .standard (remarked 500)).result = .error (.beyond .copyDepth) ∧
      (Failure.ofRefusal (.beyond .copyDepth)).kind ≠ .invalidDocument := by
  have hfits : fits .standard (remarked 500) = false := by
    rw [fits, copyDepth_remarked]
    decide
  refine ⟨reads_remarked 500, ?_, by decide⟩
  rw [checkWithin, hfits]
  rfl

end Document

end BrowserFlow
