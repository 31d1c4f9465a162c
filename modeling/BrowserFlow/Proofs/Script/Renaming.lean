import BrowserFlow.Proofs.Flow.Reach

/-!
# What a script depends on

A script is written from the kinds and parameters of the steps in their order
(`assemble_eq_of_content`). So a flow that `Copies` another, step by step of what can be
reached and under any ids, has the same script (`result_compile_eq_of_copies`). The two
loops that put the flows into order are in step all the time: what one has on its stack
and among its marks, the other has under its own ids (`Search.Copies`). Where ids are
taken to ids without mixing two of them up, a mark is missing on one side just if it is
missing on the other.
-/

namespace BrowserFlow

/-- What a step writes depends on nothing else. -/
def Node.content (node : Node) : Kind × Params := (node.kind, node.params)

namespace Script

theorem body_eq_of_content {nodes others : List Node}
    (h : nodes.map Node.content = others.map Node.content) : body nodes = body others := by
  let written (content : Kind × Params) : List String :=
    (lines (unlines (layOut 0 (statements content.1 content.2)))).map (indent bodyDepth)
  have hwritten : ∀ nodes : List Node, body nodes = (nodes.map Node.content).flatMap written := by
    intro nodes
    rw [List.flatMap_map]
    rfl
  rw [hwritten, hwritten, h]

/-- Steps of the same kinds and parameters make the same script. -/
theorem assemble_eq_of_content {nodes others : List Node}
    (h : nodes.map Node.content = others.map Node.content) (headless : Bool) :
    assemble nodes headless = assemble others headless := by
  rw [assemble, assemble, body_eq_of_content h]

theorem findSome?_fault?_eq_of_content {nodes others : List Node}
    (h : nodes.map Node.content = others.map Node.content) :
    nodes.findSome? Node.fault? = others.findSome? Node.fault? := by
  let fault (content : Kind × Params) : Option Fault :=
    Node.fault? { id := "", kind := content.1, params := content.2 }
  have hfault : ∀ nodes : List Node,
      nodes.findSome? Node.fault? = (nodes.map Node.content).findSome? fault := by
    intro nodes
    rw [List.findSome?_map]
    rfl
  rw [hfault, hfault, h]

end Script

namespace Graph

/-- No two steps share an id, and every edge joins steps that exist. -/
structure Joined (g : Graph) : Prop where
  nodup_nodeIds : g.nodeIds.Nodup
  source_mem : ∀ edge ∈ g.edges, edge.source ∈ g.nodeIds
  target_mem : ∀ edge ∈ g.edges, edge.target ∈ g.nodeIds

/-- The steps that `start` reaches in `g` are those of `h` under other ids: `r` takes no
two of their ids to one, takes each step to one of its kind and parameters, and takes the
ids that edges lead to from it, in order, to those from the other. -/
structure Copies (r : String → String) (g : Graph) (start : Node) (h : Graph) : Prop where
  injective : ∀ a b, g.Reaches start a → g.Reaches start b → r a.id = r b.id → a.id = b.id
  image : ∀ node, g.Reaches start node →
    ∃ other ∈ h.nodes, other.id = r node.id ∧ other.kind = node.kind ∧ other.params = node.params
  targets : ∀ node, g.Reaches start node → (g.targets node.id).map r = h.targets (r node.id)

theorem Joined.exists_reaches {g : Graph} (hg : g.Joined) {start node : Node}
    (hstart : start ∈ g.nodes) (hnode : g.Reaches start node) {id : String}
    (hid : id ∈ g.targets node.id) : ∃ next, g.Reaches start next ∧ next.id = id := by
  obtain ⟨edge, hedge, hsource, htarget⟩ := mem_targets_iff.mp hid
  obtain ⟨next, hnext, hnextId⟩ := List.mem_map.mp (hg.target_mem edge hedge)
  have hends : edge.target = next.id := hnextId.symm
  refine ⟨next, hnode.tail ⟨hnode.mem_nodes hstart, hnext, edge, hedge, hsource, hends⟩, ?_⟩
  rw [hnextId, htarget]

end Graph

namespace Search

/-- The two loops are at the same place under different ids. -/
structure Copies (r : String → String) (g : Graph) (start : Node) (s t : Search) : Prop where
  stack : t.stack = s.stack.map r
  visited : t.visited = s.visited.map r
  content : t.found.map Node.content = s.found.map Node.content
  reached : ∀ id, id ∈ s.stack ∨ id ∈ s.visited → ∃ node, g.Reaches start node ∧ node.id = id

variable {r : String → String} {g h : Graph} {start : Node} {s t : Search}

/-- Among ids of reached steps, those that are taken into a list are those that were in
the list before. -/
theorem mem_map_iff_of_copies (hc : g.Copies r start h) {node : Node} {ids : List String}
    (hnode : g.Reaches start node)
    (hids : ∀ id ∈ ids, ∃ other, g.Reaches start other ∧ other.id = id) :
    r node.id ∈ ids.map r ↔ node.id ∈ ids := by
  constructor
  · intro hmem
    obtain ⟨id, hid, heq⟩ := List.mem_map.mp hmem
    obtain ⟨other, hother, rfl⟩ := hids id hid
    rw [← hc.injective other node hother hnode heq]
    exact hid
  · exact List.mem_map_of_mem

theorem map_fresh (hg : g.Joined) (hstart : start ∈ g.nodes) (hc : g.Copies r start h) {node : Node}
    (hnode : g.Reaches start node) {visited : List String}
    (hvisited : ∀ id ∈ visited, ∃ other, g.Reaches start other ∧ other.id = id) :
    fresh h (visited.map r) (r node.id) = (fresh g visited node.id).map r := by
  have hmarked : ∀ id ∈ node.id :: visited, ∃ other, g.Reaches start other ∧ other.id = id := by
    rw [List.forall_mem_cons]
    exact ⟨⟨node, hnode, rfl⟩, hvisited⟩
  rw [fresh, fresh, ← hc.targets node hnode, List.filter_map]
  congr 1
  apply List.filter_congr
  intro id hid
  obtain ⟨next, hnext, rfl⟩ := hg.exists_reaches hstart hnode hid
  have hiff := mem_map_iff_of_copies hc hnext hmarked
  rw [List.map_cons] at hiff
  simp only [Function.comp_apply, hiff]

namespace Copies

/-- A round of both loops leaves them at the same place. -/
theorem step (hst : s.Copies r g start t) (hg : g.Joined) (hh : h.nodeIds.Nodup)
    (hstart : start ∈ g.nodes) (hc : g.Copies r start h) :
    (s.step g).Copies r g start (t.step h) := by
  obtain ⟨stack, visited, found⟩ := s
  obtain ⟨stack', visited', found'⟩ := t
  obtain ⟨rfl, rfl, hcontent, hreached⟩ := hst
  cases stack with
  | nil => exact ⟨rfl, rfl, hcontent, hreached⟩
  | cons id rest =>
      obtain ⟨node, hnode, rfl⟩ := hreached id (Or.inl List.mem_cons_self)
      have hvisited : ∀ id ∈ visited, ∃ other, g.Reaches start other ∧ other.id = id :=
        fun id hid => hreached id (Or.inr hid)
      have hiff := mem_map_iff_of_copies hc hnode hvisited
      by_cases hmem : node.id ∈ visited
      · have hmem' := hiff.mpr hmem
        simp only [Search.step, List.map_cons, if_pos hmem, if_pos hmem']
        refine ⟨rfl, rfl, hcontent, ?_⟩
        intro other hother
        exact hreached other (hother.imp (List.mem_cons_of_mem _) id)
      · have hmem' := mt hiff.mp hmem
        obtain ⟨image, himage, hid, hkind, hparams⟩ := hc.image node hnode
        have hfound := Graph.node?_id hg.nodup_nodeIds (hnode.mem_nodes hstart)
        have hfound' := Graph.node?_id hh himage
        rw [hid] at hfound'
        simp only [Search.step, List.map_cons, if_neg hmem, if_neg hmem', hfound, hfound']
        refine ⟨?_, rfl, ?_, ?_⟩
        · rw [map_fresh hg hstart hc hnode hvisited, List.map_append]
        · simp [hcontent, Node.content, hkind, hparams]
        · rintro other (hother | hother)
          · rcases List.mem_append.mp hother with hother | hother
            · exact hg.exists_reaches hstart hnode (List.mem_filter.mp hother).1
            · exact hreached other (Or.inl (List.mem_cons_of_mem _ hother))
          · rcases List.mem_cons.mp hother with rfl | hother
            · exact ⟨node, hnode, rfl⟩
            · exact hvisited other hother

/-- Loops that begin at the same place end there, after the same number of rounds. -/
theorem run (hst : s.Copies r g start t) (hg : g.Joined) (hh : h.nodeIds.Nodup)
    (hstart : start ∈ g.nodes) (hc : g.Copies r start h) :
    (s.run g).Copies r g start (t.run h) := by
  -- by the rounds of one loop; the other takes as many, since the stacks have one length
  induction s using Search.run.induct g generalizing t with
  | case1 s hstack =>
      have hstack' : t.stack = [] := by rw [hst.stack, hstack, List.map_nil]
      rw [Search.run, if_pos hstack, Search.run, if_pos hstack']
      exact hst
  | case2 s hstack ih =>
      have hstack' : t.stack ≠ [] := by
        rw [hst.stack]
        exact mt List.map_eq_nil_iff.mp hstack
      have hs : s.run g = (s.step g).run g := by rw [Search.run, if_neg hstack]
      have ht : t.run h = (t.step h).run h := by rw [Search.run, if_neg hstack']
      rw [hs, ht]
      exact ih (hst.step hg hh hstart hc)

end Copies

end Search

namespace Graph

theorem mem_nodes_of_start? {g : Graph} {start : Node} (h : g.start? = some start) :
    start ∈ g.nodes := by
  rw [start?_eq_find?] at h
  exact List.mem_of_find?_eq_some h

/-- The orders of a flow and of a copy of it have the same contents. -/
theorem map_content_orderFrom {r : String → String} {g h : Graph} {start : Node} (hg : g.Joined)
    (hh : h.nodeIds.Nodup) (hstart : start ∈ g.nodes) (hc : g.Copies r start h) :
    (h.orderFrom (r start.id)).map Node.content = (g.orderFrom start.id).map Node.content := by
  have hbegin : Search.Copies r g start ⟨[start.id], [], []⟩ ⟨[r start.id], [], []⟩ := by
    refine ⟨rfl, rfl, rfl, ?_⟩
    intro id hid
    simp only [List.mem_singleton, List.not_mem_nil, or_false] at hid
    exact ⟨start, Relation.ReflTransGen.refl, hid.symm⟩
  exact (hbegin.run hg hh hstart hc).content

/-- A flow and a copy of what its start reaches are compiled to the same script, or fail
in the same way. Where steps stand, what they and the edges are called, in which order
steps and the edges of different steps come and what cannot be reached plays no part. -/
theorem result_compile_eq_of_copies {r : String → String} {g h : Graph} {start other : Node}
    (hg : g.Joined) (hh : h.Joined) (hstart : g.start? = some start)
    (hother : h.start? = some other) (hroot : r start.id = other.id) (hc : g.Copies r start h)
    (headless : Toggle) : (g.compile headless).result = (h.compile headless).result := by
  have hcontent := map_content_orderFrom hg hh.nodup_nodeIds (mem_nodes_of_start? hstart) hc
  rw [hroot] at hcontent
  rw [result_compile, result_compile, order?, order?, hstart, hother]
  simp only [Option.map_some, Script.findSome?_fault?_eq_of_content hcontent,
    Script.assemble_eq_of_content hcontent]

/-- The steps stand elsewhere, in another order and under other names, the edges of the
start have others between them, and a step that nothing leads to is added. -/
theorem result_compile_eq_of_copies_redrawn :
    let start : Node := { id := "s", kind := .start }
    let other : Node := { id := "ns", kind := .start, position := ⟨.int 4, .int 2⟩ }
    let g : Graph :=
      { nodes := [start, { id := "a", kind := .wait }, { id := "b", kind := .code }]
        edges := [.between "s" "b", .between "s" "a", .between "a" "b", .between "b" "s"] }
    let h : Graph :=
      { nodes := [{ id := "nb", kind := .code, position := ⟨.int 1, .int 7⟩ },
          { id := "u", kind := .click }, { id := "na", kind := .wait }, other]
        edges := [⟨"e1", "nb", "ns"⟩, ⟨"e2", "ns", "nb"⟩, ⟨"e3", "na", "nb"⟩, ⟨"e4", "u", "nb"⟩,
          ⟨"e5", "ns", "na"⟩] }
    g.Joined ∧ h.Joined ∧ g.Copies ("n" ++ ·) start h ∧
      (g.compile true).result = (h.compile true).result := by
  intro start other g h
  have hg : g.Joined := ⟨by decide, by decide, by decide⟩
  have hh : h.Joined := ⟨by decide, by decide, by decide⟩
  have hstart : g.start? = some start := by decide
  have hother : h.start? = some other := by decide
  have hc : g.Copies ("n" ++ ·) start h := by
    constructor
    case injective =>
      intro a b _ _ heq
      simpa using heq
    case image =>
      have himage : ∀ node ∈ g.nodes, ∃ other ∈ h.nodes,
          other.id = "n" ++ node.id ∧ other.kind = node.kind ∧ other.params = node.params := by
        decide
      exact fun node hnode => himage node (hnode.mem_nodes (mem_nodes_of_start? hstart))
    case targets =>
      have htargets : ∀ node ∈ g.nodes,
          (g.targets node.id).map ("n" ++ ·) = h.targets ("n" ++ node.id) := by decide
      exact fun node hnode => htargets node (hnode.mem_nodes (mem_nodes_of_start? hstart))
  exact ⟨hg, hh, hc, result_compile_eq_of_copies hg hh hstart hother rfl hc true⟩

end Graph

end BrowserFlow
