import BrowserFlow.Proofs.Flow.Reach
import BrowserFlow.Proofs.Flow.Walk

/-!
# A step that is hung onto another

`Graph.hang` adds a step and, behind all other edges, one that leads to it from a step
that was there before; nothing leads on from the new step, the leaf. The walk of the
larger flow is that of the smaller one with the leaf put right behind what the visit of
its bearer notes, or the same walk if the bearer is never visited (`Bears.orderFrom_hang`).

Three stretches of the walk are told apart. Up to the visit of the bearer both walks have
the same trail. During it, and after it, they are `InStep`: they note the same steps, and
their marks differ by that of the leaf at most, which no edge leads to any more once the
bearer is marked (`inStep_visit`). Where the walks part, and how they go on, is put
together along the recursion of the walk (`meets_visit`).
-/

namespace BrowserFlow

/-- The trails have the same marks, up to the mark of `leaf`. -/
def Trail.Agree (leaf : String) (t u : Trail) : Prop :=
  ∀ id, id ≠ leaf → (id ∈ t.marked ↔ id ∈ u.marked)

/-- From `t` to `t'` and from `u` to `u'` the same steps are noted and the same ids are marked,
but for `leaf`, whose mark in `u` stays as it is. -/
structure Trail.InStep (leaf : String) (t u t' u' : Trail) : Prop where
  noted : ∃ more, t'.found = t.found ++ more ∧ u'.found = u.found ++ more
  agree : Agree leaf t' u'
  leaf_iff : leaf ∈ u'.marked ↔ leaf ∈ u.marked

namespace Trail.InStep

variable {leaf : String} {t u t' u' t'' u'' : Trail}

theorem refl (h : Agree leaf t u) : InStep leaf t u t u :=
  ⟨⟨[], (List.append_nil _).symm, (List.append_nil _).symm⟩, h, Iff.rfl⟩

theorem trans (h : InStep leaf t u t' u') (h' : InStep leaf t' u' t'' u'') :
    InStep leaf t u t'' u'' := by
  obtain ⟨more, ht, hu⟩ := h.noted
  obtain ⟨rest, ht', hu'⟩ := h'.noted
  refine ⟨⟨more ++ rest, ?_, ?_⟩, h'.agree, h'.leaf_iff.trans h.leaf_iff⟩
  · rw [ht', ht, List.append_assoc]
  · rw [hu', hu, List.append_assoc]

/-- Both trails mark an id, and note the same steps for it. -/
theorem mark (h : Agree leaf t u) {id : String} (hid : id ≠ leaf) (steps : List Node) :
    InStep leaf t u ⟨id :: t.marked, t.found ++ steps⟩ ⟨id :: u.marked, u.found ++ steps⟩ := by
  refine ⟨⟨steps, rfl, rfl⟩, ?_, ?_⟩
  · intro other hother
    simp only [List.mem_cons, h other hother]
  · simp only [List.mem_cons, hid.symm, false_or]

end Trail.InStep

namespace Graph

open Trail

theorem visitAll_append (g : Graph) (ids others : List String) (t : Trail) :
    (g.visitAll (ids ++ others) t).1 = (g.visitAll others (g.visitAll ids t).1).1 := by
  induction ids generalizing t with
  | nil => rw [List.nil_append, visitAll_nil]
  | cons id ids ih => rw [List.cons_append, visitAll_cons, visitAll_cons, ih]

def hang (g : Graph) (bearer : String) (leaf : Node) : Graph :=
  (g.insertNode leaf).insertEdge (.between bearer leaf.id)

section Hanging

variable {g : Graph} {bearer id : String} {leaf : Node}

theorem node?_hang (h : id ≠ leaf.id) : (g.hang bearer leaf).node? id = g.node? id := by
  simp [hang, insertNode, insertEdge, node?, h.symm]

theorem node?_hang_leaf (h : leaf.id ∉ g.nodeIds) :
    (g.hang bearer leaf).node? leaf.id = some leaf := by
  have hnone : g.nodes.find? (fun node => node.id = leaf.id) = none := node?_eq_none_iff.mpr h
  simp [hang, insertNode, insertEdge, node?, hnone]

theorem targets_hang (h : id ≠ bearer) : (g.hang bearer leaf).targets id = g.targets id := by
  simp [hang, insertNode, insertEdge, targets, outgoing, Edge.between, h.symm]

theorem targets_hang_bearer (g : Graph) (bearer : String) (leaf : Node) :
    (g.hang bearer leaf).targets bearer = g.targets bearer ++ [leaf.id] := by
  simp [hang, insertNode, insertEdge, targets, outgoing, Edge.between]

theorem start?_hang {start : Node} (h : g.start? = some start) :
    (g.hang bearer leaf).start? = some start := by
  rw [start?, starts] at h ⊢
  rw [hang, insertEdge, insertNode, List.filter_append, List.head?_append, h]
  rfl

end Hanging

/-- A step onto which a leaf can be hung: the id of the leaf is new, and so nothing in the
flow touches it. -/
structure Bears (g : Graph) (bearer leaf : Node) : Prop where
  sound : g.Sound
  mem : bearer ∈ g.nodes
  new : leaf.id ∉ g.nodeIds

namespace Bears

variable {g : Graph} {bearer leaf : Node}

theorem leaf_ne (h : g.Bears bearer leaf) : leaf.id ≠ bearer.id := by
  intro heq
  exact h.new (heq ▸ List.mem_map_of_mem h.mem)

theorem notMem_targets (h : g.Bears bearer leaf) (id : String) : leaf.id ∉ g.targets id := by
  intro hmem
  obtain ⟨edge, hedge, -, htarget⟩ := mem_targets_iff.mp hmem
  exact h.new (htarget ▸ h.sound.target_mem edge hedge)

theorem targets_leaf (h : g.Bears bearer leaf) : (g.hang bearer.id leaf).targets leaf.id = [] := by
  rw [targets_hang h.leaf_ne]
  apply List.eq_nil_iff_forall_not_mem.mpr
  intro id hmem
  obtain ⟨edge, hedge, hsource, -⟩ := mem_targets_iff.mp hmem
  exact h.new (hsource ▸ h.sound.source_mem edge hedge)

/-- Once the bearer is marked the walks note the same steps. -/
theorem inStep_visit (h : g.Bears bearer leaf) :
    (∀ id t, ∀ u : Trail, bearer.id ∈ t.marked → id ≠ leaf.id → Agree leaf.id t u →
        InStep leaf.id t u (g.visit id t).1 ((g.hang bearer.id leaf).visit id u).1) ∧
      ∀ ids t, ∀ u : Trail, bearer.id ∈ t.marked → leaf.id ∉ ids → Agree leaf.id t u →
        InStep leaf.id t u (g.visitAll ids t).1 ((g.hang bearer.id leaf).visitAll ids u).1 := by
  refine Graph.visit.mutual_induct g
    (fun id t => ∀ u : Trail, bearer.id ∈ t.marked → id ≠ leaf.id → Agree leaf.id t u →
      InStep leaf.id t u (g.visit id t).1 ((g.hang bearer.id leaf).visit id u).1)
    (fun ids t => ∀ u : Trail, bearer.id ∈ t.marked → leaf.id ∉ ids → Agree leaf.id t u →
      InStep leaf.id t u (g.visitAll ids t).1 ((g.hang bearer.id leaf).visitAll ids u).1)
    ?marked ?missing ?found ?nil ?cons
  case marked =>
    intro id t hid u _ hne hiff
    rw [visit_of_mem hid, visit_of_mem ((hiff id hne).mp hid)]
    exact InStep.refl hiff
  case missing =>
    intro id t hid hnode u _ hne hiff
    have hid' := mt (hiff id hne).mpr hid
    rw [visit_of_none hid hnode, visit_of_none hid' ((node?_hang hne).trans hnode)]
    simpa using InStep.mark hiff hne []
  case found =>
    intro id t hid node hnode ih u hbearer hne hiff
    have hid' := mt (hiff id hne).mpr hid
    have hother : id ≠ bearer.id := fun heq => hid (heq ▸ hbearer)
    have hmark := InStep.mark hiff hne [node]
    rw [visit_of_some hid hnode, visit_of_some hid' ((node?_hang hne).trans hnode),
      targets_hang hother]
    exact hmark.trans (ih _ (List.mem_cons_of_mem _ hbearer) (h.notMem_targets id) hmark.agree)
  case nil =>
    intro t u _ _ hiff
    rw [visitAll_nil, visitAll_nil]
    exact InStep.refl hiff
  case cons =>
    intro t id rest w ihId ihRest _ u hbearer hleaf hiff
    obtain ⟨hne, hrest⟩ := not_or.mp (mt List.mem_cons.mpr hleaf)
    have hfirst := ihId u hbearer (Ne.symm hne) hiff
    rw [visitAll_cons, visitAll_cons]
    exact hfirst.trans (ihRest _ (w.2 hbearer) hrest hfirst.agree)

end Bears

/-- The visit of `id` with the trail `t` comes, at any depth, to visit `other` with the
trail `u`. -/
inductive Calls (g : Graph) : (id : String) → (t : Trail) → (other : String) → (u : Trail) → Prop
  | self (id : String) (t : Trail) : Calls g id t id t
  | deeper {id : String} {t : Trail} {node : Node} {before later : List String}
      {next other : String} {u : Trail} : id ∉ t.marked → g.node? id = some node →
      g.targets id = before ++ next :: later →
      Calls g next (g.visitAll before ⟨id :: t.marked, t.found ++ [node]⟩).1 other u →
      Calls g id t other u

/-- Visiting ids one after the other comes to visit `other` with the trail `u`. -/
def CallsAmong (g : Graph) (ids : List String) (t : Trail) (other : String) (u : Trail) : Prop :=
  ∃ before next later, ids = before ++ next :: later ∧
    g.Calls next (g.visitAll before t).1 other u

/-- The trails `t` and `v` of the walks without and with the leaf once the bearer was visited
with the trail `u`: the leaf was noted right behind what that visit notes. -/
structure Parted (g : Graph) (bearer leaf : Node) (u t v : Trail) : Prop where
  unmarked : bearer.id ∉ u.marked
  marked : bearer.id ∈ t.marked
  agree : Agree leaf.id t v
  noted : ∃ inner after, (g.visit bearer.id u).1.found = u.found ++ bearer :: inner ∧
    t.found = u.found ++ bearer :: (inner ++ after) ∧
    v.found = u.found ++ bearer :: (inner ++ leaf :: after)

/-- The trails of the walks without and with the leaf: the same as long as the bearer was not
visited, and parted since it was visited in one of some calls. -/
def Meets (g : Graph) (bearer leaf : Node) (calls : Trail → Prop) (t v : Trail) : Prop :=
  (bearer.id ∉ t.marked ∧ leaf.id ∉ t.marked ∧ v = t) ∨ ∃ u, calls u ∧ g.Parted bearer leaf u t v

theorem Parted.inStep {g : Graph} {bearer leaf : Node} {u t v t' v' : Trail}
    (h : g.Parted bearer leaf u t v) (hstep : InStep leaf.id t v t' v')
    (hmarked : t.marked ⊆ t'.marked) : g.Parted bearer leaf u t' v' := by
  obtain ⟨inner, after, hvisit, ht, hv⟩ := h.noted
  obtain ⟨more, ht', hv'⟩ := hstep.noted
  refine ⟨h.unmarked, hmarked h.marked, hstep.agree, inner, after ++ more, hvisit, ?_, ?_⟩
  · rw [ht', ht]
    simp
  · rw [hv', hv]
    simp

theorem Meets.mono {g : Graph} {bearer leaf : Node} {calls calls' : Trail → Prop} {t v : Trail}
    (h : g.Meets bearer leaf calls t v) (hcalls : ∀ u, calls u → calls' u) :
    g.Meets bearer leaf calls' t v :=
  h.imp id fun ⟨u, hu, hparted⟩ => ⟨u, hcalls u hu, hparted⟩

namespace Bears

variable {g : Graph} {bearer leaf : Node}

/-- A leaf is noted, and nothing else happens. -/
theorem visit_leaf (h : g.Bears bearer leaf) {t : Trail} (ht : leaf.id ∉ t.marked) :
    ((g.hang bearer.id leaf).visit leaf.id t).1 = ⟨leaf.id :: t.marked, t.found ++ [leaf]⟩ := by
  rw [visit_of_some ht (node?_hang_leaf h.new), h.targets_leaf, visitAll_nil]

/-- The visit of the bearer parts the walks. -/
theorem parted_visit (h : g.Bears bearer leaf) {t : Trail} (hbearer : bearer.id ∉ t.marked)
    (hleaf : leaf.id ∉ t.marked) :
    g.Parted bearer leaf t (g.visit bearer.id t).1
      ((g.hang bearer.id leaf).visit bearer.id t).1 := by
  have hnode : g.node? bearer.id = some bearer := node?_id h.sound.nodup_nodeIds h.mem
  have hnode' : (g.hang bearer.id leaf).node? bearer.id = some bearer :=
    (node?_hang h.leaf_ne.symm).trans hnode
  let begun : Trail := ⟨bearer.id :: t.marked, t.found ++ [bearer]⟩
  have hstep := h.inStep_visit.2 (g.targets bearer.id) begun begun List.mem_cons_self
    (h.notMem_targets _) fun _ _ => Iff.rfl
  obtain ⟨inner, hinner, hinner'⟩ := hstep.noted
  have hfresh :
      leaf.id ∉ ((g.hang bearer.id leaf).visitAll (g.targets bearer.id) begun).1.marked := by
    rw [hstep.leaf_iff]
    simp [begun, h.leaf_ne, hleaf]
  rw [visit_of_some hbearer hnode, visit_of_some hbearer hnode', targets_hang_bearer,
    visitAll_append, visitAll_cons, visitAll_nil, h.visit_leaf hfresh]
  refine ⟨hbearer, ?_, ?_, inner, [], ?_, ?_, ?_⟩
  · exact (g.visitAll (g.targets bearer.id) begun).2 List.mem_cons_self
  · intro id hid
    rw [hstep.agree id hid]
    simp [hid, begun]
  · rw [visit_of_some hbearer hnode, hinner, List.append_assoc, List.singleton_append]
  · rw [hinner, List.append_assoc, List.singleton_append, List.append_nil]
  · rw [hinner']
    simp [begun]

/-- Before the bearer is visited the walks are the same. Either it is not visited at all, or
the walks part at its visit. -/
theorem meets_visit (h : g.Bears bearer leaf) :
    (∀ id t, bearer.id ∉ t.marked → leaf.id ∉ t.marked → id ≠ leaf.id →
        g.Meets bearer leaf (g.Calls id t bearer.id) (g.visit id t).1
          ((g.hang bearer.id leaf).visit id t).1) ∧
      ∀ ids t, bearer.id ∉ t.marked → leaf.id ∉ t.marked → leaf.id ∉ ids →
        g.Meets bearer leaf (g.CallsAmong ids t bearer.id) (g.visitAll ids t).1
          ((g.hang bearer.id leaf).visitAll ids t).1 := by
  refine Graph.visit.mutual_induct g
    (fun id t => bearer.id ∉ t.marked → leaf.id ∉ t.marked → id ≠ leaf.id →
      g.Meets bearer leaf (g.Calls id t bearer.id) (g.visit id t).1
        ((g.hang bearer.id leaf).visit id t).1)
    (fun ids t => bearer.id ∉ t.marked → leaf.id ∉ t.marked → leaf.id ∉ ids →
      g.Meets bearer leaf (g.CallsAmong ids t bearer.id) (g.visitAll ids t).1
        ((g.hang bearer.id leaf).visitAll ids t).1)
    ?marked ?missing ?found ?nil ?cons
  case marked =>
    intro id t hid hbearer hleaf _
    rw [visit_of_mem hid, visit_of_mem hid]
    exact Or.inl ⟨hbearer, hleaf, rfl⟩
  case missing =>
    intro id t hid hnode hbearer hleaf hne
    have hother : bearer.id ≠ id := by
      intro heq
      have hsome := node?_id h.sound.nodup_nodeIds h.mem
      rw [heq, hnode] at hsome
      exact Option.some_ne_none bearer hsome.symm
    rw [visit_of_none hid hnode, visit_of_none hid ((node?_hang hne).trans hnode)]
    refine Or.inl ⟨?_, ?_, rfl⟩
    · simp [hother, hbearer]
    · simp [hne.symm, hleaf]
  case found =>
    intro id t hid node hnode ih hbearer hleaf hne
    by_cases heq : id = bearer.id
    · subst heq
      exact Or.inr ⟨t, .self _ _, h.parted_visit hbearer hleaf⟩
    · rw [visit_of_some hid hnode, visit_of_some hid ((node?_hang hne).trans hnode),
        targets_hang heq]
      have hmeets := ih (by simp [Ne.symm heq, hbearer]) (by simp [hne.symm, hleaf])
        (h.notMem_targets id)
      apply hmeets.mono
      rintro u ⟨before, next, later, hsplit, hcalls⟩
      exact .deeper hid hnode hsplit hcalls
  case nil =>
    intro t hbearer hleaf _
    rw [visitAll_nil, visitAll_nil]
    exact Or.inl ⟨hbearer, hleaf, rfl⟩
  case cons =>
    intro t id rest w ihId ihRest _ hbearer hleaf hids
    obtain ⟨hne, hrest⟩ := not_or.mp (mt List.mem_cons.mpr hids)
    rw [visitAll_cons, visitAll_cons]
    rcases ihId hbearer hleaf (Ne.symm hne) with ⟨hbearer', hleaf', hsame⟩ | ⟨u, hcalls, hparted⟩
    · rw [hsame]
      apply (ihRest hbearer' hleaf' hrest).mono
      rintro u ⟨before, next, later, rfl, hcalls⟩
      refine ⟨id :: before, next, later, rfl, ?_⟩
      rw [visitAll_cons]
      exact hcalls
    · refine Or.inr ⟨u, ⟨[], id, rest, rfl, ?_⟩, ?_⟩
      · rw [visitAll_nil]
        exact hcalls
      · exact hparted.inStep (h.inStep_visit.2 rest _ _ hparted.marked hrest hparted.agree)
          (g.visitAll rest (g.visit id t).1).2

end Bears

/-- The walk from `start` visits `bearer`, and in the larger order the leaf stands right behind
what that visit notes. -/
def Hung (g : Graph) (start bearer leaf : Node) (old new : List Node) : Prop :=
  ∃ u inner after, g.Calls start.id {} bearer.id u ∧ bearer.id ∉ u.marked ∧
    (g.visit bearer.id u).1.found = u.found ++ bearer :: inner ∧
    old = u.found ++ bearer :: (inner ++ after) ∧
    new = u.found ++ bearer :: (inner ++ leaf :: after)

theorem orderFrom_eq_walk (g : Graph) (id : String) : g.orderFrom id = g.walk id :=
  Search.found_run_singleton g id

theorem marked_of_mem_walk {g : Graph} (hg : g.nodeIds.Nodup) {start node : Node}
    (hstart : start ∈ g.nodes) (hnode : node ∈ g.walk start.id) :
    node.id ∈ (g.visit start.id {}).1.marked := by
  have hrun : Search.run g ⟨[start.id], [], []⟩ = (g.visit start.id {}).1.search [] := by
    change Search.run g (Trail.search {} [start.id]) = _
    rw [(Search.run_visit_and_visitAll g).1, Search.run_of_nil]
  have hmarked := (Search.tracks_run hg hstart).marked node
  rw [hrun] at hmarked
  exact hmarked hnode

/-- Hanging a leaf onto a step that the order has not got changes nothing; otherwise the leaf
stands behind that step and what the walk notes while it visits it. -/
theorem Bears.orderFrom_hang {g : Graph} {bearer leaf : Node} (h : g.Bears bearer leaf)
    {start : Node} (hstart : start ∈ g.nodes) :
    (bearer ∉ g.orderFrom start.id ∧
        (g.hang bearer.id leaf).orderFrom start.id = g.orderFrom start.id) ∨
      g.Hung start bearer leaf (g.orderFrom start.id)
        ((g.hang bearer.id leaf).orderFrom start.id) := by
  have hne : start.id ≠ leaf.id := by
    intro heq
    exact h.new (heq ▸ List.mem_map_of_mem hstart)
  rw [orderFrom_eq_walk, orderFrom_eq_walk]
  rcases h.meets_visit.1 start.id {} List.not_mem_nil List.not_mem_nil hne with
    ⟨hbearer, -, hsame⟩ | ⟨u, hcalls, hparted⟩
  · refine Or.inl ⟨?_, congrArg Trail.found hsame⟩
    exact fun hmem => hbearer (marked_of_mem_walk h.sound.nodup_nodeIds hstart hmem)
  · obtain ⟨inner, after, hvisit, hold, hnew⟩ := hparted.noted
    exact Or.inr ⟨u, inner, after, hcalls, hparted.unmarked, hvisit, hold, hnew⟩

namespace Hung

variable {g : Graph} {start bearer leaf : Node} {old new : List Node}

theorem filter_ne (h : g.Hung start bearer leaf old new) (hleaf : leaf ∉ old) :
    new.filter (· ≠ leaf) = old := by
  obtain ⟨u, inner, after, -, -, -, rfl, rfl⟩ := h
  have hall : ∀ node ∈ u.found ++ bearer :: (inner ++ after), node ≠ leaf :=
    fun node hnode => ne_of_mem_of_not_mem hnode hleaf
  have hsplit : (u.found ++ bearer :: (inner ++ leaf :: after)).filter (· ≠ leaf) =
      (u.found ++ bearer :: (inner ++ after)).filter (· ≠ leaf) := by
    simp [List.filter_append, List.filter_cons]
  rw [hsplit]
  exact List.filter_eq_self.mpr fun node hnode => decide_eq_true (hall node hnode)

theorem count_eq_one (h : g.Hung start bearer leaf old new) (hleaf : leaf ∉ old) :
    new.count leaf = 1 := by
  obtain ⟨u, inner, after, -, -, -, rfl, rfl⟩ := h
  simp only [List.mem_append, List.mem_cons, not_or] at hleaf
  obtain ⟨hfound, hbearer, hinner, hafter⟩ := hleaf
  simp [List.count_append, List.count_eq_zero_of_not_mem, hfound, hinner, hafter,
    Ne.symm hbearer]

/-- Behind the last step nothing is noted any more. -/
theorem eq_append_singleton (h : g.Hung start bearer leaf old new) (hnodup : old.Nodup)
    (hlast : old.getLast? = some bearer) : new = old ++ [leaf] := by
  obtain ⟨u, inner, after, -, -, -, rfl, rfl⟩ := h
  have hnone : inner ++ after = [] := by
    by_contra hne
    rw [List.getLast?_append_of_ne_nil _ (List.cons_ne_nil _ _), List.getLast?_cons_of_ne_nil hne]
      at hlast
    have hmem := List.mem_of_getLast? hlast
    exact (List.nodup_cons.mp (List.nodup_append.mp hnodup).2.1).1 hmem
  obtain ⟨rfl, rfl⟩ := List.append_eq_nil_iff.mp hnone
  simp

end Hung

end Graph

end BrowserFlow
