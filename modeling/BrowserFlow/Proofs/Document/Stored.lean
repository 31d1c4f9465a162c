import BrowserFlow.Document.File
import BrowserFlow.Proofs.Document.Depth
import BrowserFlow.Proofs.Document.RoundTrip
import BrowserFlow.Proofs.Json.Printed
import BrowserFlow.Proofs.Json.ReadBack

/-!
# Reading back stored flows

A restorable flow that is written to a file is read back from it, at every indentation
(`result_loadFile_dump`). What is assumed of its texts is that no two halves of a pair meet
in them, and of the floating-point numbers among its positions that their decimal forms
denote them. The digits of the whole numbers are what can go wrong: a number that is too
long is neither written nor read within the limits.
-/

namespace BrowserFlow

/-- The texts of a flow: ids, and parameters that are texts. -/
def Graph.texts (g : Graph) : List String :=
  g.nodes.flatMap (fun node => node.id :: node.params.pairs.filterMap fun entry => entry.2.text?) ++
    g.edges.flatMap fun edge => [edge.id, edge.source, edge.target]

namespace Document

open Json

/-! ## The document of a flow is legible -/

section Spelled

variable {R : Binary64 → Prop} {P : String → Prop}

theorem spelled_of_isNumber {v : Json} (h : v.isNumber = true)
    (hfloat : ∀ x, v = .number (.float x) → R x) : v.Spelled R P := by
  cases v with
  | number x =>
      cases x with
      | int n => exact .int n
      | float x => exact .float (hfloat x rfl)
  | null | bool | text | list | object => cases h

theorem spelled_object {fields : Table Json} (keys : List String) (heq : Table.keys fields = keys)
    (hnodup : keys.Nodup) (hwhole : ∀ key ∈ keys, Text.isWhole key.toList = true)
    (h : ∀ entry ∈ fields, entry.2.Spelled R P) : (Json.object fields).Spelled R P := by
  subst heq
  exact .object hnodup (fun key hkey => Text.unpaired_of_isWhole (hwhole key hkey)) h

theorem spelled_position {p : Position} (hp : p.isNumeric = true)
    (hfloats : ∀ x : Binary64, .number (.float x) ∈ [p.x, p.y] → R x) :
    p.toJson.Spelled R P := by
  rw [Position.isNumeric, Bool.and_eq_true] at hp
  have hx : p.x.Spelled R P := spelled_of_isNumber hp.1 fun x hx => hfloats x (by simp [hx])
  have hy : p.y.Spelled R P := spelled_of_isNumber hp.2 fun y hy => hfloats y (by simp [hy])
  refine spelled_object ["x", "y"] rfl (by decide) (by decide) ?_
  simp [hx, hy]

theorem unpaired_name (field : Field) : Text.Unpaired field.name.toList := by
  apply Text.unpaired_of_isWhole
  cases field <;> decide

theorem spelled_params {p : Params} (hadmits : ∀ field : Field, field.Admits (p.get field))
    (htexts : ∀ s ∈ p.pairs.filterMap fun entry => entry.2.text?, P s) :
    (Json.object p.pairs).Spelled R P := by
  refine .object p.nodup_keys_pairs ?_ ?_
  · intro key hkey
    obtain ⟨entry, hentry, rfl⟩ := List.mem_map.mp hkey
    obtain ⟨field, -, -, rfl⟩ := Params.mem_pairs_iff.mp hentry
    exact unpaired_name field
  · intro entry hentry
    obtain ⟨field, -, -, rfl⟩ := Params.mem_pairs_iff.mp hentry
    rcases Field.Admits.cases (hadmits field) with hv | ⟨s, hv⟩ | ⟨n, hv⟩
    · rw [hv]
      exact .null
    · have hs := htexts s (List.mem_filterMap.mpr ⟨_, hentry, by rw [hv]; rfl⟩)
      rw [hv]
      exact .text hs
    · rw [hv]
      exact .int n

theorem spelled_node {node : Node} (hkind : P node.kind.name)
    (hp : node.position.isNumeric = true)
    (hadmits : ∀ field : Field, field.Admits (node.params.get field))
    (htexts : ∀ s ∈ node.id :: node.params.pairs.filterMap fun entry => entry.2.text?, P s)
    (hfloats : ∀ x : Binary64, .number (.float x) ∈ [node.position.x, node.position.y] →
      R x) : node.toJson.Spelled R P := by
  rw [List.forall_mem_cons] at htexts
  refine spelled_object ["id", "kind", "position", "params"] rfl (by decide) (by decide) ?_
  simp [Spelled.text htexts.1, Spelled.text hkind, spelled_position hp hfloats,
    spelled_params hadmits htexts.2]

theorem spelled_edge {edge : Edge} (htexts : ∀ s ∈ [edge.id, edge.source, edge.target], P s) :
    edge.toJson.Spelled R P := by
  simp only [List.forall_mem_cons] at htexts
  obtain ⟨hid, hsource, htarget, -⟩ := htexts
  refine spelled_object ["id", "sourceNodeId", "targetNodeId"] rfl (by decide) (by decide) ?_
  simp [Spelled.text hid, Spelled.text hsource, Spelled.text htarget]

theorem spelled_documentFields {g : Graph} (hkinds : ∀ kind : Kind, P kind.name)
    (hadmits : ∀ node ∈ g.nodes, ∀ field : Field, field.Admits (node.params.get field))
    (hnum : ∀ node ∈ g.nodes, node.position.isNumeric = true) (htexts : ∀ s ∈ g.texts, P s)
    (hfloats : ∀ node ∈ g.nodes, ∀ x : Binary64,
      .number (.float x) ∈ [node.position.x, node.position.y] → R x) :
    ∀ entry ∈ g.documentFields, entry.2.Spelled R P := by
  have hnodes : (Json.list (g.nodes.map Node.toJson)).Spelled R P := by
    refine .list ?_
    rw [List.forall_mem_map]
    intro node hnode
    refine spelled_node (hkinds node.kind) (hnum node hnode) (hadmits node hnode) ?_
      (hfloats node hnode)
    intro s hs
    exact htexts s (List.mem_append_left _ (List.mem_flatMap.mpr ⟨node, hnode, hs⟩))
  have hedges : (Json.list (g.edges.map Edge.toJson)).Spelled R P := by
    refine .list ?_
    rw [List.forall_mem_map]
    intro edge hedge
    refine spelled_edge ?_
    intro s hs
    exact htexts s (List.mem_append_right _ (List.mem_flatMap.mpr ⟨edge, hedge, hs⟩))
  simp [Graph.documentFields, hnodes, hedges]

end Spelled

theorem legible_toJson {g : Graph} (hg : g.Restorable)
    (hnum : ∀ node ∈ g.nodes, node.position.isNumeric = true)
    (htexts : ∀ s ∈ g.texts, Text.Unpaired s.toList)
    (hfloats : ∀ node ∈ g.nodes, ∀ x : Binary64,
      .number (.float x) ∈ [node.position.x, node.position.y] → ReadsBack x) :
    g.toJson.Legible := by
  have hkinds : ∀ kind : Kind, Text.Unpaired kind.name.toList := by
    intro kind
    apply Text.unpaired_of_isWhole
    cases kind <;> decide
  exact spelled_object ["nodes", "edges"] rfl (by decide) (by decide)
    (spelled_documentFields hkinds hg.2.2.2 hnum htexts hfloats)

/-! ## Files -/

theorem readFile_render {limits : Limits} {indent : Indent} (path : String)
    (hblank : ∀ unit ∈ indent, Blank unit) (hprinted : ∀ unit ∈ indent, Text.Printed unit)
    {v : Json} (hv : v.Legible) (hdepth : Limits.allows limits.depth v.depth = true) :
    readFile limits path (Text.Utf8.encode (v.render indent).toList) =
      ((checkNumbers limits v.wholeNumbers).mapError .beyond).map fun _ => v := by
  have hwritten := printed_render hprinted v
  have hread := read_render hblank limits hv hdepth
  rw [readFile, Text.Utf8.decode_encode_of_ascii hwritten.toNat_lt]
  change (Json.read limits (Text.foldLineEnds (v.render indent).toList)).mapError _ = _
  rw [Text.foldLineEnds_of_printed hwritten, hread]
  cases checkNumbers limits v.wholeNumbers <;> rfl

theorem result_loadFile {limits : Limits} {path : String} {bytes : List UInt8} {g : Graph}
    (h : readFile limits path bytes = .ok g.toJson) (hg : g.Restorable)
    (hs : ∀ node ∈ g.nodes, node.params.shape = node.kind.shape ∧ node.position.isNumeric = true)
    (hcopied : Limits.allows limits.copied 10 = true) :
    (loadFile limits path bytes).result = .ok g := by
  have hshape : ∀ node ∈ g.nodes, node.params.shape = node.kind.shape :=
    fun node hnode => (hs node hnode).1
  have hfits : fits limits g.toJson = true :=
    Limits.allows_of_le (copyDepth_toJson_le hg.2.2.2 fun node hnode => (hs node hnode).2) hcopied
  have hsound := (Graph.restorable_iff hs).mp hg
  have hcheck : (checkWithin limits g.toJson).result = .ok (.ofGraph g) := by
    rw [checkWithin_of_fits hfits, Journaled.result_mapError, Journaled.mapError_eq_ok_iff,
      result_check_toJson_iff hshape]
    exact ⟨hsound, rfl⟩
  have himport : (importWithin limits g.toJson).result = .ok g := by
    rw [importWithin_of_fits hfits, Journaled.result_mapError, Journaled.mapError_eq_ok_iff,
      result_importGraph_toJson_iff hshape]
    exact ⟨hsound, rfl⟩
  have hcomplete : (Checked.ofGraph g).toJson = g.toJson := by
    simp [Checked.ofGraph, Checked.toJson, Graph.toJson, Graph.documentFields, Node.toJson_eq,
      Edge.toJson_eq, NodeEntry.ofNode, EdgeEntry.ofEdge, Function.comp_def]
  rw [loadFile, checkFile, Journaled.result_bind, Journaled.result_bind, Journaled.result_lift, h]
  simp only [Except.bind, hcheck, hcomplete, himport]

theorem exists_of_mem_bind_spaces {width : Option Int} {unit : List Char}
    (h : unit ∈ width.bind spaces) : ∃ n ∈ width, List.replicate n.toNat ' ' = unit := by
  obtain ⟨n, hn, hunit⟩ := Option.bind_eq_some_iff.mp h
  exact ⟨n, hn, Option.some.inj hunit⟩

/-- A value whose numbers are short may be written and its text read, and one with a number
that is too long neither. -/
theorem checkWritten_cases (limits : Limits) (v : Json) :
    ((∀ n ∈ v.wholeNumbers, Limits.allows limits.digits (Binary64.digitCount n.natAbs) = true) ∧
      checkWritten limits v = .ok () ∧ checkNumbers limits v.wholeNumbers = .ok ()) ∨
    ∃ limit count, limits.digits = some limit ∧ limit < count ∧
      (∃ n ∈ v.wholeNumbers, Binary64.digitCount n.natAbs = count) ∧
      checkWritten limits v = .error (.written limit) ∧
      checkNumbers limits v.wholeNumbers = .error (.digits limit count) := by
  unfold checkWritten
  rcases checkNumbers_cases limits v.wholeNumbers with
    ⟨hread, hshort⟩ | ⟨limit, count, hlimit, hlong, hread, n, hn, rfl⟩
  · refine Or.inl ⟨hshort, ?_, hread⟩
    split
    · rfl
    · rename_i limit hlimit
      rw [hlimit] at hshort
      exact if_pos (List.all_eq_true.mpr hshort)
  · refine Or.inr ⟨limit, _, hlimit, hlong, ⟨n, hn, rfl⟩, ?_, hread⟩
    rw [hlimit]
    refine if_neg fun hall => ?_
    have hshort := List.all_eq_true.mp hall n hn
    exact Nat.not_le.mpr hlong (of_decide_eq_true hshort)

theorem not_lt_of_allows {limits : Limits} {limit count : Nat} (hlimit : limits.digits = some limit)
    (h : Limits.allows limits.digits count = true) : ¬ limit < count := by
  rw [hlimit, Limits.allows_some, decide_eq_true_iff] at h
  exact Nat.not_lt.mpr h

/-- A restorable flow is read back from the file that it is written to, unless one of its
whole numbers is too long: then neither is it written nor would its text be read. -/
theorem result_loadFile_dump {limits : Limits} (hdepth : Limits.allows limits.depth 4 = true)
    (hcopied : Limits.allows limits.copied 10 = true) (path : String) (width : Option Int)
    {g : Graph} (hg : g.Restorable)
    (hs : ∀ node ∈ g.nodes, node.params.shape = node.kind.shape ∧ node.position.isNumeric = true)
    (htexts : ∀ s ∈ g.texts, Text.Unpaired s.toList)
    (hfloats : ∀ node ∈ g.nodes, ∀ x : Binary64,
      .number (.float x) ∈ [node.position.x, node.position.y] → ReadsBack x) :
    ((∀ n ∈ g.toJson.wholeNumbers,
        Limits.allows limits.digits (Binary64.digitCount n.natAbs) = true) →
      ∃ text, dumpWithin limits g (width.bind spaces) = .ok text ∧
        (loadFile limits path (Text.Utf8.encode text.toList)).result = .ok g) ∧
    ∀ n ∈ g.toJson.wholeNumbers, ∀ limit, limits.digits = some limit →
      limit < Binary64.digitCount n.natAbs →
      dumpWithin limits g (width.bind spaces) = .error (.written limit) ∧
        ∃ count, limit < count ∧
          (loadFile limits path (Text.Utf8.encode (g.dump (width.bind spaces)).toList)).result =
            .error (.beyond (.digits limit count)) := by
  have hnum : ∀ node ∈ g.nodes, node.position.isNumeric = true :=
    fun node hnode => (hs node hnode).2
  have hblank : ∀ unit ∈ width.bind spaces, Blank unit := by
    intro unit hunit
    obtain ⟨n, -, rfl⟩ := exists_of_mem_bind_spaces hunit
    intro c hc
    rw [List.eq_of_mem_replicate hc]
    rfl
  have hprinted : ∀ unit ∈ width.bind spaces, Text.Printed unit := by
    intro unit hunit
    obtain ⟨n, -, rfl⟩ := exists_of_mem_bind_spaces hunit
    exact Text.Printed.replicate (by decide) _
  have hread := readFile_render path hblank hprinted (legible_toJson hg hnum htexts hfloats)
    (Limits.allows_of_le (depth_toJson_le hg hnum) hdepth)
  -- writing and reading both get through the numbers, or both end at one of them
  rcases checkWritten_cases limits g.toJson with
    ⟨hshort, hwritten, hnumbers⟩ | ⟨limit, count, hlimit, hlong, ⟨n, hn, rfl⟩, hwritten, hnumbers⟩
  · rw [hnumbers] at hread
    constructor
    · intro _
      refine ⟨g.dump (width.bind spaces), ?_, result_loadFile hread hg hs hcopied⟩
      rw [dumpWithin, hwritten]
      rfl
    · intro n hn limit hlimit hlong
      exact absurd hlong (not_lt_of_allows hlimit (hshort n hn))
  · rw [hnumbers] at hread
    constructor
    · intro hshort
      exact absurd hlong (not_lt_of_allows hlimit (hshort n hn))
    · intro _ _ other hother _
      obtain rfl : limit = other := Option.some.inj (hlimit.symm.trans hother)
      refine ⟨?_, _, hlong, ?_⟩
      · rw [dumpWithin, hwritten]
        rfl
      · rw [loadFile, checkFile, Journaled.result_bind, Journaled.result_bind,
          Journaled.result_lift]
        change ((readFile limits path
          (Text.Utf8.encode (g.toJson.render _).toList)).bind _).bind _ = _
        rw [hread]
        rfl

theorem readsBack_half : ReadsBack ⟨0x3fe0000000000000⟩ := by
  have htext : Number.text numberLayout (.float ⟨0x3fe0000000000000⟩) = ['0', '.', '5'] := by
    decide +kernel
  have hdecimal : Binary64.ofDecimal false 5 (-1) = ⟨0x3fe0000000000000⟩ := by
    decide +kernel
  have hnumber : readMagnitude? {} false ['0', '.', '5'] =
      some (.ok (.float (.ofDecimal false 5 (-1))), []) := rfl
  rw [ReadsBack, htext, readScalar_of_readMagnitude? hnumber, hdecimal]
  rfl

/-- A flow with half a pixel, a quote, a backslash, a control character and a character
beyond the basic plane is read back, within the standard limits and without indentation. -/
theorem result_loadFile_dump_half :
    let g : Graph :=
      { nodes := [⟨"s", .start, ⟨.number (.float ⟨0x3fe0000000000000⟩), .int (-3)⟩, .empty⟩,
          { id := "ü\"", kind := .code, params := .code (.text "😀\n\x7f\\") }]
        edges := [⟨"e", "s", "ü\""⟩] }
    g.Restorable ∧ ∃ text, dumpWithin .standard g none = .ok text ∧
      (loadFile .standard "flow.json" (Text.Utf8.encode text.toList)).result = .ok g := by
  intro g
  have hs : ∀ node ∈ g.nodes, node.params.shape = node.kind.shape ∧
      node.position.isNumeric = true := by decide
  have himport : (importGraph g.toJson).result = .ok g := rfl
  have hg : g.Restorable := (Graph.restorable_iff hs).mpr (sound_of_importGraph himport)
  have htexts : ∀ s ∈ g.texts, Text.isWhole s.toList = true := by decide
  have hfloats : ∀ node ∈ g.nodes, ∀ x : Binary64,
      .number (.float x) ∈ [node.position.x, node.position.y] → ReadsBack x := by
    simp [g, Json.int, readsBack_half]
  have hshort : ∀ n ∈ g.toJson.wholeNumbers,
      Limits.allows Limits.standard.digits (Binary64.digitCount n.natAbs) = true := by
    decide
  exact ⟨hg, (@result_loadFile_dump .standard rfl rfl "flow.json" none g hg hs
    (fun s hs => Text.unpaired_of_isWhole (htexts s hs)) hfloats).1 hshort⟩

/-! ## Numbers that are too long -/

/-- A flow of one step that stands far out on the canvas. -/
def remote (zeros : Nat) : Graph :=
  { nodes := [⟨"s", .start, ⟨.nat (10 ^ zeros), .nat 0⟩, .empty⟩]
    edges := [] }

theorem proper_remote (zeros : Nat) : ∀ node ∈ (remote zeros).nodes,
    node.params.shape = node.kind.shape ∧ node.position.isNumeric = true := by
  intro node hnode
  obtain rfl := List.mem_singleton.mp hnode
  exact ⟨rfl, rfl⟩

theorem restorable_remote (zeros : Nat) : (remote zeros).Restorable := by
  have himport : (importGraph (remote zeros).toJson).result = .ok (remote zeros) := rfl
  exact (Graph.restorable_iff (proper_remote zeros)).mpr (sound_of_importGraph himport)

theorem checkDigits_remote {limits : Limits} {zeros : Nat} (h : limits.digits = some zeros) :
    limits.checkDigits (Binary64.digitCount (10 ^ zeros)) = .error (.digits zeros (zeros + 1)) := by
  rw [Limits.checkDigits, h, digitCount_pow]
  exact if_neg (Nat.not_succ_le_self zeros)

theorem checkNumbers_remote {limits : Limits} {zeros : Nat} (h : limits.digits = some zeros) :
    checkNumbers limits (remote zeros).toJson.wholeNumbers =
      .error (.digits zeros (zeros + 1)) := by
  change (limits.checkDigits (Binary64.digitCount (10 ^ zeros))).bind _ = _
  rw [checkDigits_remote h]
  rfl

theorem checkWritten_remote {limits : Limits} {zeros : Nat} (h : limits.digits = some zeros) :
    checkWritten limits (remote zeros).toJson = .error (.written zeros) :=
  checkWritten_of_pow_mem h List.mem_cons_self

theorem legible_remote (zeros : Nat) : (remote zeros).toJson.Legible := by
  refine legible_toJson (restorable_remote zeros)
    (fun node hnode => (proper_remote zeros node hnode).2)
    ?_ ?_
  · intro s hs
    obtain rfl : s = "s" := List.mem_singleton.mp hs
    exact Text.unpaired_of_isWhole rfl
  · intro node hnode x hx
    obtain rfl := List.mem_singleton.mp hnode
    simp [Json.nat, Json.int] at hx

/-- A step that stands at ten to the power of 4300 belongs to a flow that its document
describes, and that is neither written to a file nor read from one. -/
theorem not_restored_remote :
    (remote 4300).Restorable ∧ (importGraph (remote 4300).toJson).result = .ok (remote 4300) ∧
      (∀ s ∈ (remote 4300).texts, Text.isWhole s.toList = true) ∧
      dumpWithin .standard (remote 4300) none = .error (.written 4300) ∧
      (loadFile .standard "flow.json"
        (Text.Utf8.encode ((remote 4300).dump none).toList)).result =
          .error (.beyond (.digits 4300 4301)) := by
  have hdigits : Limits.standard.digits = some 4300 := rfl
  have hread : readFile .standard "flow.json" (Text.Utf8.encode ((remote 4300).dump none).toList) =
      .error (.beyond (.digits 4300 4301)) := by
    rw [Graph.dump, readFile_render "flow.json" (by simp) (by simp) (legible_remote 4300) rfl,
      checkNumbers_remote hdigits]
    rfl
  refine ⟨restorable_remote 4300, rfl, ?_, ?_, ?_⟩
  · intro s hs
    obtain rfl : s = "s" := List.mem_singleton.mp hs
    rfl
  · rw [dumpWithin, checkWritten_remote hdigits]
    rfl
  · rw [loadFile, checkFile, Journaled.result_bind, Journaled.result_bind, Journaled.result_lift,
      hread]
    rfl

end Document

end BrowserFlow
