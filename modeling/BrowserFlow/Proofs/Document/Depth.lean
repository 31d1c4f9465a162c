import BrowserFlow.Document.Limits
import BrowserFlow.Proofs.Document.RoundTrip
import BrowserFlow.Proofs.Json.Extent

/-!
# How deep documents are

The document of a flow of proper steps is of a depth that does not depend on the flow, as
are its copies (`extent_toJson_le`): parameters and coordinates have no parts.
-/

namespace BrowserFlow

/-- A parameter holds nothing, a text or a count. -/
theorem Field.Admits.cases {field : Field} {v : Json} (h : field.Admits v) :
    v = .null ∨ (∃ s, v = .text s) ∨ ∃ n : Nat, v = .nat n := by
  cases field with
  | url | selector | value | code => exact h.imp id Or.inl
  | waitMillis | timeoutMillis => exact h.imp id Or.inr
  | waitMode =>
      rcases h with h | h | h
      · exact Or.inl h
      · exact Or.inr (Or.inl ⟨_, h⟩)
      · exact Or.inr (Or.inl ⟨_, h⟩)

namespace Document

open Json

theorem modernise_toJson (g : Graph) :
    Legacy.modernise (g.nodes.map Node.toJson) (g.edges.map Edge.toJson) = g.toJson := by
  simp [Legacy.modernise, Graph.toJson, Graph.documentFields, Function.comp_def]

section Extent

variable {leaf least step : Nat} (hleast : least ≤ leaf)
include hleast

theorem extent_object_le {fields : Table Json}
    (h : ∀ entry ∈ fields, entry.2.extent leaf least step = leaf) :
    (Json.object fields).extent leaf least step ≤ step + leaf := by
  have hfields : fieldsExtent leaf least step fields ≤ leaf :=
    fieldsExtent_le_iff.mpr ⟨hleast, fun entry hentry => Nat.le_of_eq (h entry hentry)⟩
  rw [extent]
  exact Nat.add_le_add_left hfields step

theorem extent_position_le {p : Position} (hp : p.isNumeric = true) :
    p.toJson.extent leaf least step ≤ step + leaf := by
  have hnumber : ∀ v : Json, v.isNumber = true → v.extent leaf least step = leaf := by
    intro v hv
    cases v with
    | number x => rfl
    | null | bool | text | list | object => cases hv
  rw [Position.isNumeric, Bool.and_eq_true] at hp
  apply extent_object_le hleast
  simp [hnumber _ hp.1, hnumber _ hp.2]

theorem extent_params_le {p : Params} (hadmits : ∀ field : Field, field.Admits (p.get field)) :
    (Json.object p.pairs).extent leaf least step ≤ step + leaf := by
  apply extent_object_le hleast
  intro entry hentry
  obtain ⟨field, -, -, rfl⟩ := Params.mem_pairs_iff.mp hentry
  rcases (hadmits field).cases with hv | ⟨s, hv⟩ | ⟨n, hv⟩ <;> rw [hv] <;> rfl

/-- An object of values that are objects of values without parts. -/
theorem extent_entry_le {fields : Table Json}
    (h : ∀ entry ∈ fields, entry.2.extent leaf least step ≤ step + leaf) :
    (Json.object fields).extent leaf least step ≤ 2 * step + leaf := by
  have hfields : fieldsExtent leaf least step fields ≤ step + leaf :=
    fieldsExtent_le_iff.mpr ⟨by omega, h⟩
  rw [extent]
  omega

theorem extent_node_le {node : Node} (hp : node.position.isNumeric = true)
    (hadmits : ∀ field : Field, field.Admits (node.params.get field)) :
    node.toJson.extent leaf least step ≤ 2 * step + leaf := by
  have htext : ∀ s, (Json.text s).extent leaf least step ≤ step + leaf :=
    fun _ => Nat.le_add_left leaf step
  apply extent_entry_le hleast
  simp only [List.forall_mem_cons]
  exact ⟨htext _, htext _, extent_position_le hleast hp, extent_params_le hleast hadmits,
    by simp⟩

theorem extent_edge_le (edge : Edge) :
    edge.toJson.extent leaf least step ≤ step + leaf := by
  apply extent_object_le hleast
  simp [extent]

theorem extent_modernise_le {nodes edges : List Json}
    (hnodes : ∀ entry ∈ nodes,
      (Legacy.modernNode entry).extent leaf least step ≤ 2 * step + leaf)
    (hedges : ∀ entry ∈ edges,
      (Legacy.modernEdge entry).extent leaf least step ≤ 2 * step + leaf) :
    (Legacy.modernise nodes edges).extent leaf least step ≤ 4 * step + leaf := by
  have hnodes : itemsExtent leaf least step (nodes.map Legacy.modernNode) ≤ 2 * step + leaf := by
    rw [itemsExtent_le_iff, List.forall_mem_map]
    exact ⟨by omega, hnodes⟩
  have hedges : itemsExtent leaf least step (edges.map Legacy.modernEdge) ≤ 2 * step + leaf := by
    rw [itemsExtent_le_iff, List.forall_mem_map]
    exact ⟨by omega, hedges⟩
  simp only [Legacy.modernise, extent, fieldsExtent]
  omega

theorem extent_toJson_le {g : Graph}
    (hadmits : ∀ node ∈ g.nodes, ∀ field : Field, field.Admits (node.params.get field))
    (hnum : ∀ node ∈ g.nodes, node.position.isNumeric = true) :
    g.toJson.extent leaf least step ≤ 4 * step + leaf := by
  rw [← modernise_toJson]
  apply extent_modernise_le hleast
  · rw [List.forall_mem_map]
    exact fun node hnode => extent_node_le hleast (hnum node hnode) (hadmits node hnode)
  · rw [List.forall_mem_map]
    exact fun edge _ => Nat.le_trans (extent_edge_le hleast edge) (by omega)

end Extent

theorem depth_toJson_le {g : Graph} (hg : g.Restorable)
    (hnum : ∀ node ∈ g.nodes, node.position.isNumeric = true) : g.toJson.depth ≤ 4 :=
  extent_toJson_le (Nat.le_refl 0) hg.2.2.2 hnum

/-- The document of a flow is in the present form, so its copy is as deep as it is. -/
theorem copyDepth_toJson_le {g : Graph}
    (hadmits : ∀ node ∈ g.nodes, ∀ field : Field, field.Admits (node.params.get field))
    (hnum : ∀ node ∈ g.nodes, node.position.isNumeric = true) : copyDepth g.toJson ≤ 10 := by
  change (Legacy.modernise (g.nodes.map Node.toJson) (g.edges.map Edge.toJson)).copyDepth ≤ 10
  rw [modernise_toJson]
  exact extent_toJson_le (by decide) hadmits hnum

end Document

end BrowserFlow
