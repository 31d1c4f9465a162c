import BrowserFlow.Proofs.Document.Stored

/-!
# What a stored flow is read back as

A flow that is written is read back with the halves that meet in its texts joined
(`Graph.joined`, `toJson_joined`). It is the flow itself just if no two halves meet in its
texts (`joined_eq_self_iff`), and then only what is read back describes it again
(`result_importWithin_joined_iff`).
-/

namespace BrowserFlow

open Json

def Params.joined (p : Params) : Params := .build (fun field => (p.get field).joined) p.shape

def Node.joined (node : Node) : Node :=
  { node with id := joinedText node.id, params := node.params.joined }

def Edge.joined (edge : Edge) : Edge :=
  ⟨joinedText edge.id, joinedText edge.source, joinedText edge.target⟩

def Graph.joined (g : Graph) : Graph := ⟨g.nodes.map Node.joined, g.edges.map Edge.joined⟩

namespace Params

@[simp] theorem shape_joined (p : Params) : p.joined.shape = p.shape := shape_build _ _

theorem get_joined (p : Params) (field : Field) :
    p.joined.get field = if field ∈ p.shape.fields then (p.get field).joined else .null :=
  get_build _ _ _

theorem pairs_joined (p : Params) : p.joined.pairs = joinedFields p.pairs := by
  have hset : ∀ v : Json, v.joined.isSet = v.isSet := by
    intro v
    cases v <;> rfl
  rw [joinedFields_eq_map, pairs, pairs, shape_joined, List.map_filterMap]
  apply List.filterMap_congr
  intro field hfield
  rw [get_joined, if_pos hfield, hset]
  split <;> rfl

theorem joined_eq_self_iff {p : Params} (hadmits : ∀ field : Field, field.Admits (p.get field)) :
    p.joined = p ↔
      ∀ s ∈ p.pairs.filterMap fun entry => entry.2.text?, Text.Unpaired s.toList := by
  constructor
  · intro heq s hs
    obtain ⟨entry, hentry, htext⟩ := List.mem_filterMap.mp hs
    obtain ⟨field, hfield, -, rfl⟩ := mem_pairs_iff.mp hentry
    have hget := get_joined p field
    rw [heq, if_pos hfield] at hget
    cases hv : p.get field with
    | text other =>
        rw [hv] at hget htext
        obtain rfl := Option.some.inj htext
        exact joinedText_eq_self_iff.mp (Json.text.inj hget).symm
    | null | bool | number | list | object =>
        rw [hv] at htext
        cases htext
  · intro htexts
    refine ext_get (shape_joined p) fun field => ?_
    rw [get_joined]
    split
    · rename_i hfield
      rcases Field.Admits.cases (hadmits field) with hv | ⟨s, hv⟩ | ⟨n, hv⟩
      · rw [hv]
        rfl
      · have hentry : (field.name, p.get field) ∈ p.pairs :=
          mem_pairs_iff.mpr ⟨field, hfield, by rw [hv]; rfl, rfl⟩
        have hs := htexts s (List.mem_filterMap.mpr ⟨_, hentry, by rw [hv]; rfl⟩)
        rw [hv, Json.joined, joinedText_eq_self_iff.mpr hs]
      · rw [hv]
        rfl
    · exact (get_of_notMem ‹_›).symm

end Params

theorem Node.joined_eq_self_iff {node : Node}
    (hadmits : ∀ field : Field, field.Admits (node.params.get field)) :
    node.joined = node ↔
      ∀ s ∈ node.id :: node.params.pairs.filterMap fun entry => entry.2.text?,
        Text.Unpaired s.toList := by
  rw [List.forall_mem_cons, ← joinedText_eq_self_iff, ← Params.joined_eq_self_iff hadmits]
  constructor
  · intro heq
    exact ⟨congrArg Node.id heq, congrArg Node.params heq⟩
  · rintro ⟨hid, hparams⟩
    rw [Node.joined, hid, hparams]

theorem Edge.joined_eq_self_iff {edge : Edge} :
    edge.joined = edge ↔ ∀ s ∈ [edge.id, edge.source, edge.target], Text.Unpaired s.toList := by
  obtain ⟨id, source, target⟩ := edge
  simp [Edge.joined, joinedText_eq_self_iff]

namespace Graph

theorem map_eq_self_iff {α : Type} {f : α → α} {l : List α} :
    l.map f = l ↔ ∀ a ∈ l, f a = a := by
  have hid : l.map f = l.map id ↔ ∀ a ∈ l, f a = id a := List.map_inj_left
  rwa [List.map_id] at hid

/-- A flow is read back as it is just if no two halves meet in its texts. -/
theorem joined_eq_self_iff {g : Graph}
    (hadmits : ∀ node ∈ g.nodes, ∀ field : Field, field.Admits (node.params.get field)) :
    g.joined = g ↔ ∀ s ∈ g.texts, Text.Unpaired s.toList := by
  obtain ⟨nodes, edges⟩ := g
  rw [joined, Graph.mk.injEq, map_eq_self_iff, map_eq_self_iff, texts, List.forall_mem_append]
  refine and_congr ?_ ?_
  · rw [List.forall_mem_flatMap]
    exact forall₂_congr fun node hnode => Node.joined_eq_self_iff (hadmits node hnode)
  · rw [List.forall_mem_flatMap]
    exact forall₂_congr fun edge _ => Edge.joined_eq_self_iff

end Graph

namespace Document

theorem joined_of_isNumber {v : Json} (h : v.isNumber = true) : v.joined = v := by
  cases v with
  | number x => rfl
  | null | bool | text | list | object => cases h

theorem toJson_joined_position {p : Position} (hp : p.isNumeric = true) :
    p.toJson.joined = p.toJson := by
  rw [Position.isNumeric, Bool.and_eq_true] at hp
  simp [Position.toJson, Json.joined, joinedFields, joined_of_isNumber hp.1,
    joined_of_isNumber hp.2]

theorem toJson_joined_node {node : Node} (hp : node.position.isNumeric = true) :
    node.toJson.joined = node.joined.toJson := by
  have hkind : joinedText node.kind.name = node.kind.name := by
    apply joinedText_eq_self_iff.mpr
    apply Text.unpaired_of_isWhole
    cases node.kind <;> decide
  simp [Node.toJson, Json.joined, joinedFields, hkind, toJson_joined_position hp,
    Node.joined, Params.pairs_joined]

theorem toJson_joined_edge (edge : Edge) : edge.toJson.joined = edge.joined.toJson := rfl

/-- The document of a flow is read back as the document of the flow that it is read back
as. -/
theorem documentFields_joined {g : Graph}
    (hnum : ∀ node ∈ g.nodes, node.position.isNumeric = true) :
    joinedFields g.documentFields = g.joined.documentFields := by
  have hnodes : (g.nodes.map Node.toJson).map Json.joined =
      (g.nodes.map Node.joined).map Node.toJson := by
    rw [List.map_map, List.map_map]
    exact List.map_congr_left fun node hnode => toJson_joined_node (hnum node hnode)
  have hedges : (g.edges.map Edge.toJson).map Json.joined =
      (g.edges.map Edge.joined).map Edge.toJson := by
    rw [List.map_map, List.map_map]
    exact List.map_congr_left fun edge _ => toJson_joined_edge edge
  simp only [Graph.documentFields, joinedFields, Json.joined, joinedItems_eq_map, hnodes, hedges,
    Graph.joined]

theorem admits_joined {field : Field} {v : Json} (h : field.Admits v) : field.Admits v.joined := by
  cases field with
  | url | selector | value | code =>
      rcases h with rfl | ⟨s, rfl⟩
      · exact Or.inl rfl
      · exact Or.inr ⟨_, rfl⟩
  | waitMillis | timeoutMillis =>
      rcases h with rfl | ⟨n, rfl⟩
      · exact Or.inl rfl
      · exact Or.inr ⟨n, rfl⟩
  | waitMode =>
      -- both modes are texts without halves
      have hmode : ∀ s ∈ ["element", "time"], joinedText s = s := by decide
      rcases h with rfl | rfl | rfl
      · exact Or.inl rfl
      · exact Or.inr (Or.inl (congrArg Json.text (hmode _ (by decide))))
      · exact Or.inr (Or.inr (congrArg Json.text (hmode _ (by decide))))

theorem admits_get_joined {p : Params} (h : ∀ field : Field, field.Admits (p.get field))
    (field : Field) : field.Admits (p.joined.get field) := by
  rw [Params.get_joined]
  split
  · exact admits_joined (h field)
  · exact Field.accepts_iff_admits.mp (Field.accepts_null field)

/-! ## Documents with a name -/

/-- The document of a flow with a name, which has no meaning for the flow. -/
def named (v : Json) (g : Graph) : Json := .object (("name", v) :: g.documentFields)

theorem importGraph_named (v : Json) (g : Graph) :
    importGraph (named v g) = importGraph g.toJson := rfl

theorem copyDepth_named (v : Json) (g : Graph) : copyDepth (named v g) = copyDepth g.toJson := rfl

theorem joined_named (v : Json) {g : Graph}
    (hnum : ∀ node ∈ g.nodes, node.position.isNumeric = true) :
    (named v g).joined = named v.joined g.joined := by
  rw [named, Json.joined, joinedFields, documentFields_joined hnum]
  rfl

/-- The document that a flow is read back as describes the flow just if no two halves meet
in its texts. -/
theorem result_importWithin_joined_iff {limits : Limits} {g : Graph} (hg : g.Sound)
    (hids : g.edgeIds.Nodup) (hcopied : Limits.allows limits.copied 10 = true) (v : Json) :
    (importWithin limits (named v g.joined)).result = .ok g ↔
      ∀ s ∈ g.texts, Text.Unpaired s.toList := by
  have hdepth : copyDepth g.joined.toJson ≤ 10 := by
    apply copyDepth_toJson_le
    · rw [Graph.joined, List.forall_mem_map]
      exact fun node hnode => admits_get_joined (hg.admits node hnode)
    · rw [Graph.joined, List.forall_mem_map]
      exact hg.isNumeric
  have hfits : fits limits (named v g.joined) = true := by
    rw [fits, copyDepth_named]
    exact Limits.allows_of_le hdepth hcopied
  have hshape : ∀ node ∈ g.joined.nodes, node.params.shape = node.kind.shape := by
    rw [Graph.joined, List.forall_mem_map]
    exact fun node hnode => (Params.shape_joined _).trans (hg.proper node hnode).shape_eq
  rw [importWithin_of_fits hfits, Journaled.result_mapError, Journaled.mapError_eq_ok_iff,
    importGraph_named, result_importGraph_toJson_iff hshape, ← Graph.joined_eq_self_iff hg.admits]
  constructor
  · exact fun h => h.2.symm
  · intro h
    rw [h]
    exact ⟨⟨hg, hids⟩, rfl⟩

end Document

end BrowserFlow
