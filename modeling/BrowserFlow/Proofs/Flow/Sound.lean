import BrowserFlow.Flow.Graph
import BrowserFlow.Proofs.Flow.Params
import Mathlib.Data.List.Nodup

/-!
# Sound flows

A flow is `Sound` when no two steps share an id, every edge joins steps that exist,
and every step is `Proper`: its parameters are of the record of its kind, each with
a value that it can hold, and its position is numeric. This is what editing keeps.
Distinct ids of the edges are no part of it because joining two steps can repeat one.

The edits of a flow are written as functions here, `insertNode`, `updateNode`,
`removeNode`, `insertEdge` and `eraseEdge`, and each comes with what it does to the
ids and with the condition under which it keeps a flow sound.
-/

namespace BrowserFlow

/-- A step with parameters of its kind's record, each with a value that it can hold,
at a numeric position. -/
structure Node.Proper (node : Node) : Prop where
  shape_eq : node.params.shape = node.kind.shape
  accepts : ∀ field : Field, field.accepts (node.params.get field) = true
  isNumeric : node.position.isNumeric = true

namespace Graph

/-- A flow of proper steps with distinct ids, whose edges join steps of it. -/
structure Sound (g : Graph) : Prop where
  nodup_nodeIds : g.nodeIds.Nodup
  source_mem : ∀ edge ∈ g.edges, edge.source ∈ g.nodeIds
  target_mem : ∀ edge ∈ g.edges, edge.target ∈ g.nodeIds
  proper : ∀ node ∈ g.nodes, node.Proper

theorem Sound.admits {g : Graph} (hg : g.Sound) :
    ∀ node ∈ g.nodes, ∀ field : Field, field.Admits (node.params.get field) :=
  fun node hnode field => Field.accepts_iff_admits.mp ((hg.proper node hnode).accepts field)

theorem Sound.isNumeric {g : Graph} (hg : g.Sound) :
    ∀ node ∈ g.nodes, node.position.isNumeric = true :=
  fun node hnode => (hg.proper node hnode).isNumeric

theorem mem_nodeIds_iff {g : Graph} {id : String} :
    id ∈ g.nodeIds ↔ ∃ node, g.node? id = some node := by
  rw [← Option.isSome_iff_exists, Option.isSome_iff_ne_none, ne_eq, node?_eq_none_iff, not_not]

theorem mem_nodeIds_of_node? {g : Graph} {id : String} {node : Node} (h : g.node? id = some node) :
    id ∈ g.nodeIds :=
  mem_nodeIds_iff.mpr ⟨node, h⟩

theorem node?_id {g : Graph} (h : g.nodeIds.Nodup) {node : Node} (hnode : node ∈ g.nodes) :
    g.node? node.id = some node := by
  obtain ⟨found, hfound⟩ := mem_nodeIds_iff.mp (List.mem_map_of_mem (f := Node.id) hnode)
  have heq := List.inj_on_of_nodup_map h (mem_of_node? hfound) hnode (id_of_node? hfound)
  rw [hfound, heq]

/-! ## Edits -/

def insertNode (g : Graph) (node : Node) : Graph := { g with nodes := g.nodes ++ [node] }

def updateNode (g : Graph) (id : String) (f : Node → Node) : Graph :=
  { g with nodes := g.nodes.map fun node => if node.id = id then f node else node }

def removeNode (g : Graph) (id : String) : Graph where
  nodes := g.nodes.filter fun node => node.id ≠ id
  edges := g.edges.filter fun edge => edge.source ≠ id ∧ edge.target ≠ id

def insertEdge (g : Graph) (edge : Edge) : Graph := { g with edges := g.edges ++ [edge] }

def eraseEdge (g : Graph) (edge : Edge) : Graph := { g with edges := g.edges.erase edge }

@[simp] theorem nodeIds_insertNode (g : Graph) (node : Node) :
    (g.insertNode node).nodeIds = g.nodeIds ++ [node.id] := by
  simp [insertNode, nodeIds]

@[simp] theorem edgeIds_insertNode (g : Graph) (node : Node) :
    (g.insertNode node).edgeIds = g.edgeIds := rfl

/-- A change that leaves the id of a step as it is leaves all ids as they are. -/
theorem nodeIds_updateNode {f : Node → Node} (g : Graph) (id : String)
    (hf : ∀ node, (f node).id = node.id) : (g.updateNode id f).nodeIds = g.nodeIds := by
  rw [updateNode, nodeIds, nodeIds, List.map_map]
  apply List.map_congr_left
  intro node _
  by_cases hid : node.id = id
  · simp [hid, hf]
  · simp [hid]

@[simp] theorem edgeIds_updateNode (g : Graph) (id : String) (f : Node → Node) :
    (g.updateNode id f).edgeIds = g.edgeIds := rfl

@[simp] theorem nodeIds_removeNode (g : Graph) (id : String) :
    (g.removeNode id).nodeIds = g.nodeIds.filter (· ≠ id) := by
  simp [removeNode, nodeIds, List.filter_map, Function.comp_def]

theorem edgeIds_removeNode_sublist (g : Graph) (id : String) :
    List.Sublist (g.removeNode id).edgeIds g.edgeIds :=
  List.filter_sublist.map _

@[simp] theorem nodeIds_insertEdge (g : Graph) (edge : Edge) :
    (g.insertEdge edge).nodeIds = g.nodeIds := rfl

@[simp] theorem edgeIds_insertEdge (g : Graph) (edge : Edge) :
    (g.insertEdge edge).edgeIds = g.edgeIds ++ [edge.id] := by
  simp [insertEdge, edgeIds]

@[simp] theorem nodeIds_eraseEdge (g : Graph) (edge : Edge) :
    (g.eraseEdge edge).nodeIds = g.nodeIds := rfl

theorem edgeIds_eraseEdge_sublist (g : Graph) (edge : Edge) :
    List.Sublist (g.eraseEdge edge).edgeIds g.edgeIds :=
  List.erase_sublist.map _

namespace Sound

theorem insertNode {g : Graph} (h : g.Sound) {node : Node} (hid : node.id ∉ g.nodeIds)
    (hp : node.Proper) : (g.insertNode node).Sound where
  nodup_nodeIds := by
    rw [nodeIds_insertNode]
    exact nodup_append_singleton_iff.mpr ⟨hid, h.nodup_nodeIds⟩
  source_mem := by
    intro edge hedge
    rw [nodeIds_insertNode]
    exact List.mem_append_left _ (h.source_mem edge hedge)
  target_mem := by
    intro edge hedge
    rw [nodeIds_insertNode]
    exact List.mem_append_left _ (h.target_mem edge hedge)
  proper := by
    intro other hother
    rcases List.mem_append.mp hother with hother | hother
    · exact h.proper other hother
    · rw [List.mem_singleton.mp hother]
      exact hp

theorem updateNode {g : Graph} (h : g.Sound) {id : String} {f : Node → Node}
    (hf : ∀ node, (f node).id = node.id) (hp : ∀ node, g.node? id = some node → (f node).Proper) :
    (g.updateNode id f).Sound where
  nodup_nodeIds := by
    rw [nodeIds_updateNode g id hf]
    exact h.nodup_nodeIds
  source_mem := by
    rw [nodeIds_updateNode g id hf]
    exact h.source_mem
  target_mem := by
    rw [nodeIds_updateNode g id hf]
    exact h.target_mem
  proper := by
    intro other hother
    obtain ⟨node, hnode, rfl⟩ := List.mem_map.mp hother
    split
    · rename_i hid
      exact hp node (hid ▸ node?_id h.nodup_nodeIds hnode)
    · exact h.proper node hnode

theorem removeNode {g : Graph} (h : g.Sound) (id : String) : (g.removeNode id).Sound where
  nodup_nodeIds := by
    rw [nodeIds_removeNode]
    exact h.nodup_nodeIds.filter _
  source_mem := by
    intro edge hedge
    obtain ⟨hmem, hends⟩ := List.mem_filter.mp hedge
    rw [nodeIds_removeNode]
    exact List.mem_filter.mpr ⟨h.source_mem edge hmem, by simpa using (of_decide_eq_true hends).1⟩
  target_mem := by
    intro edge hedge
    obtain ⟨hmem, hends⟩ := List.mem_filter.mp hedge
    rw [nodeIds_removeNode]
    exact List.mem_filter.mpr ⟨h.target_mem edge hmem, by simpa using (of_decide_eq_true hends).2⟩
  proper := by
    intro node hnode
    exact h.proper node (List.mem_of_mem_filter hnode)

theorem insertEdge {g : Graph} (h : g.Sound) {edge : Edge} (hs : edge.source ∈ g.nodeIds)
    (ht : edge.target ∈ g.nodeIds) : (g.insertEdge edge).Sound where
  nodup_nodeIds := h.nodup_nodeIds
  source_mem := by
    intro other hother
    rcases List.mem_append.mp hother with hother | hother
    · exact h.source_mem other hother
    · rw [List.mem_singleton.mp hother]
      exact hs
  target_mem := by
    intro other hother
    rcases List.mem_append.mp hother with hother | hother
    · exact h.target_mem other hother
    · rw [List.mem_singleton.mp hother]
      exact ht
  proper := h.proper

theorem eraseEdge {g : Graph} (h : g.Sound) (edge : Edge) : (g.eraseEdge edge).Sound where
  nodup_nodeIds := h.nodup_nodeIds
  source_mem := by
    intro other hother
    exact h.source_mem other (List.mem_of_mem_erase hother)
  target_mem := by
    intro other hother
    exact h.target_mem other (List.mem_of_mem_erase hother)
  proper := h.proper

end Sound

end Graph

end BrowserFlow
