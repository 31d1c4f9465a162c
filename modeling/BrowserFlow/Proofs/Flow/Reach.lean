import BrowserFlow.Proofs.Flow.Sound
import BrowserFlow.Script.Compile
import Mathlib.Data.List.Basic
import Mathlib.Logic.Relation

/-!
# The order of a flow is what can be reached

A step `Follows` another when an edge leads from that one to it, and a step reaches all
that follow it over any number of edges (`Reaches`). The loop that puts a flow into
order keeps an invariant, `Search.Tracks`, from its second round on: the steps found
begin with the start, are distinct and reached from it, and each but the first follows
one found before it; and a step that follows a found one is found itself or waits on
the stack. Once the stack is empty nothing waits, so the steps found are just those
reached (`result_linearize_reaches`).
-/

namespace BrowserFlow

namespace Graph

def Follows (g : Graph) (a b : Node) : Prop :=
  a ∈ g.nodes ∧ b ∈ g.nodes ∧ ∃ edge ∈ g.edges, edge.source = a.id ∧ edge.target = b.id

/-- A path of edges through steps of the flow leads from one step to the other. -/
def Reaches (g : Graph) : Node → Node → Prop := Relation.ReflTransGen g.Follows

theorem mem_targets_iff {g : Graph} {source target : String} :
    target ∈ g.targets source ↔ ∃ edge ∈ g.edges, edge.source = source ∧ edge.target = target := by
  simp [targets, outgoing, and_assoc]

theorem Reaches.mem_nodes {g : Graph} {start node : Node} (h : g.Reaches start node)
    (hstart : start ∈ g.nodes) : node ∈ g.nodes := by
  rcases Relation.ReflTransGen.cases_tail h with rfl | ⟨-, -, -, hnode, -⟩
  · exact hstart
  · exact hnode

/-- Each step but the first is led to by an edge from one before it. -/
def Led (g : Graph) (order : List Node) : Prop :=
  ∀ before node after, order = before ++ node :: after → before ≠ [] →
    ∃ edge ∈ g.edges, edge.target = node.id ∧ ∃ earlier ∈ before, edge.source = earlier.id

theorem led_singleton (g : Graph) (node : Node) : g.Led [node] := by
  intro before other after heq hne
  rcases List.singleton_eq_append_iff.mp heq with ⟨rfl, -⟩ | ⟨-, hnil⟩
  · exact absurd rfl hne
  · simp at hnil

theorem Led.append_singleton {g : Graph} {order : List Node} {node : Node} (h : g.Led order)
    (hnode : ∃ earlier ∈ order, node.id ∈ g.targets earlier.id) : g.Led (order ++ [node]) := by
  intro before other after heq hne
  rcases List.eq_nil_or_concat' after with rfl | ⟨rest, last, rfl⟩
  · obtain ⟨rfl, hlast⟩ := List.append_inj' heq rfl
    obtain rfl := List.singleton_inj.mp hlast
    obtain ⟨earlier, hearlier, htarget⟩ := hnode
    obtain ⟨edge, hedge, hsource, htarget⟩ := mem_targets_iff.mp htarget
    exact ⟨edge, hedge, htarget, earlier, hearlier, hsource⟩
  · rw [← List.cons_append, ← List.append_assoc] at heq
    exact h before other rest (List.append_inj' heq rfl).1 hne

end Graph

namespace Search

/-- What the loop keeps once it has found the start. -/
structure Tracks (g : Graph) (start : Node) (s : Search) : Prop where
  begins : ∃ rest, s.found = start :: rest
  member : ∀ node ∈ s.found, node ∈ g.nodes
  nodup : (s.found.map Node.id).Nodup
  reached : ∀ node ∈ s.found, g.Reaches start node
  led : g.Led s.found
  marked : ∀ node ∈ s.found, node.id ∈ s.visited
  noted : ∀ node ∈ g.nodes, node.id ∈ s.visited → node ∈ s.found
  awaited : ∀ id ∈ s.stack, ∃ earlier ∈ s.found, id ∈ g.targets earlier.id
  closed : ∀ node ∈ s.found, ∀ id ∈ g.targets node.id, id ∈ s.visited ∨ id ∈ s.stack

namespace Tracks

variable {g : Graph} {start : Node} {s : Search} {id : String} {rest : List String}

/-- An id may leave the stack once it is marked, as long as no step is marked that is not
found. -/
theorem drop (h : s.Tracks g start) (hstack : s.stack = id :: rest) {visited : List String}
    (hvisited : s.visited ⊆ visited) (hid : id ∈ visited)
    (hnoted : ∀ node ∈ g.nodes, node.id ∈ visited → node ∈ s.found) :
    Tracks g start { s with stack := rest, visited := visited } where
  begins := h.begins
  member := h.member
  nodup := h.nodup
  reached := h.reached
  led := h.led
  marked := fun node hnode => hvisited (h.marked node hnode)
  noted := hnoted
  awaited := by
    intro other hother
    exact h.awaited other (hstack ▸ List.mem_cons_of_mem _ hother)
  closed := by
    intro node hnode target htarget
    rcases h.closed node hnode target htarget with hmem | hmem
    · exact Or.inl (hvisited hmem)
    · rcases List.mem_cons.mp (hstack ▸ hmem) with rfl | hmem
      · exact Or.inl hid
      · exact Or.inr hmem

theorem mark_of_none (h : s.Tracks g start) (hstack : s.stack = id :: rest)
    (hnone : g.node? id = none) :
    Tracks g start { s with stack := rest, visited := id :: s.visited } := by
  apply h.drop hstack (List.subset_cons_self _ _) List.mem_cons_self
  intro node hnode hmem
  rcases List.mem_cons.mp hmem with rfl | hmem
  · exact absurd (List.mem_map_of_mem hnode) (Graph.node?_eq_none_iff.mp hnone)
  · exact h.noted node hnode hmem

/-- A step that was awaited is found, and what follows it waits from then on. -/
theorem find_of_some (h : s.Tracks g start) (hg : g.nodeIds.Nodup) (hstack : s.stack = id :: rest)
    (hid : id ∉ s.visited) {node : Node} (hnode : g.node? id = some node) :
    Tracks g start
      { stack := fresh g s.visited id ++ rest
        visited := id :: s.visited
        found := s.found ++ [node] } := by
  obtain rfl := Graph.id_of_node? hnode
  have hmem : node ∈ g.nodes := Graph.mem_of_node? hnode
  have hled : ∃ earlier ∈ s.found, node.id ∈ g.targets earlier.id :=
    h.awaited node.id (hstack ▸ List.mem_cons_self)
  constructor
  case begins =>
    obtain ⟨others, hothers⟩ := h.begins
    exact ⟨others ++ [node], by rw [hothers, List.cons_append]⟩
  case member =>
    intro other hother
    rcases List.mem_append.mp hother with hother | hother
    · exact h.member other hother
    · rw [List.mem_singleton.mp hother]
      exact hmem
  case nodup =>
    rw [List.map_append]
    refine nodup_append_singleton_iff.mpr ⟨?_, h.nodup⟩
    intro hold
    obtain ⟨other, hother, heq⟩ := List.mem_map.mp hold
    exact hid (heq ▸ h.marked other hother)
  case reached =>
    intro other hother
    rcases List.mem_append.mp hother with hother | hother
    · exact h.reached other hother
    · rw [List.mem_singleton.mp hother]
      obtain ⟨earlier, hearlier, htarget⟩ := hled
      exact (h.reached earlier hearlier).tail
        ⟨h.member earlier hearlier, hmem, Graph.mem_targets_iff.mp htarget⟩
  case led => exact h.led.append_singleton hled
  case marked =>
    intro other hother
    rcases List.mem_append.mp hother with hother | hother
    · exact List.mem_cons_of_mem _ (h.marked other hother)
    · rw [List.mem_singleton.mp hother]
      exact List.mem_cons_self
  case noted =>
    intro other hother hvisited
    rcases List.mem_cons.mp hvisited with heq | hvisited
    · have hsame := Graph.node?_id hg hother
      rw [heq, hnode] at hsame
      rw [← Option.some.inj hsame]
      exact List.mem_append_right _ (List.mem_singleton_self _)
    · exact List.mem_append_left _ (h.noted other hother hvisited)
  case awaited =>
    intro target htarget
    rcases List.mem_append.mp htarget with hfresh | hrest
    · exact ⟨node, List.mem_append_right _ (List.mem_singleton_self _),
        (List.mem_filter.mp hfresh).1⟩
    · obtain ⟨earlier, hearlier, hmem⟩ := h.awaited target (hstack ▸ List.mem_cons_of_mem _ hrest)
      exact ⟨earlier, List.mem_append_left _ hearlier, hmem⟩
  case closed =>
    intro other hother target htarget
    by_cases hvisited : target ∈ node.id :: s.visited
    · exact Or.inl hvisited
    · -- what is not marked waits: as before, or above the rest if the new step leads to it
      right
      rcases List.mem_append.mp hother with hother | hother
      · rcases h.closed other hother target htarget with hmem | hmem
        · exact absurd (List.mem_cons_of_mem _ hmem) hvisited
        · rcases List.mem_cons.mp (hstack ▸ hmem) with rfl | hmem
          · exact absurd List.mem_cons_self hvisited
          · exact List.mem_append_right _ hmem
      · rw [List.mem_singleton.mp hother] at htarget
        exact List.mem_append_left _ (List.mem_filter.mpr ⟨htarget, by simpa using hvisited⟩)

/-- A round of the loop keeps the invariant. -/
theorem step (h : s.Tracks g start) (hg : g.nodeIds.Nodup) : (s.step g).Tracks g start := by
  unfold Search.step
  split
  · exact h
  · rename_i id rest hstack
    split
    · exact h.drop hstack (List.Subset.refl _) ‹_› h.noted
    · rename_i hid
      split
      · exact h.mark_of_none hstack ‹_›
      · exact h.find_of_some hg hstack hid ‹_›

theorem run (h : s.Tracks g start) (hg : g.nodeIds.Nodup) : (s.run g).Tracks g start := by
  induction s using Search.run.induct g with
  | case1 s hstack =>
      rw [Search.run, if_pos hstack]
      exact h
  | case2 s hstack ih =>
      rw [Search.run, if_neg hstack]
      exact ih (h.step hg)

end Tracks

theorem stack_run (g : Graph) (s : Search) : (s.run g).stack = [] := by
  induction s using Search.run.induct g with
  | case1 s hstack =>
      rw [run, if_pos hstack]
      exact hstack
  | case2 s hstack ih =>
      rw [run, if_neg hstack]
      exact ih

/-- A loop that begins with the id of a step finds that step first. -/
theorem tracks_run {g : Graph} (hg : g.nodeIds.Nodup) {start : Node} (hstart : start ∈ g.nodes) :
    (run g ⟨[start.id], [], []⟩).Tracks g start := by
  have hnode := Graph.node?_id hg hstart
  have hround : Tracks g start ⟨fresh g [] start.id, [start.id], [start]⟩ := by
    constructor
    case begins => exact ⟨[], rfl⟩
    case member => simpa using hstart
    case nodup => exact List.nodup_singleton _
    case reached =>
      intro node hmem
      rw [List.mem_singleton.mp hmem]
      exact Relation.ReflTransGen.refl
    case led => exact Graph.led_singleton g start
    case marked => simp
    case noted =>
      intro node hmem hvisited
      have hsame := Graph.node?_id hg hmem
      rw [List.mem_singleton.mp hvisited, hnode] at hsame
      exact List.mem_singleton.mpr (Option.some.inj hsame).symm
    case awaited =>
      intro id hid
      exact ⟨start, List.mem_singleton_self _, (List.mem_filter.mp hid).1⟩
    case closed =>
      intro node hmem id hid
      rw [List.mem_singleton.mp hmem] at hid
      by_cases heq : id = start.id
      · exact Or.inl (List.mem_singleton.mpr heq)
      · exact Or.inr (List.mem_filter.mpr ⟨hid, by simpa using heq⟩)
  have hstep : step g ⟨[start.id], [], []⟩ = ⟨fresh g [] start.id, [start.id], [start]⟩ := by
    simp [step, hnode]
  rw [run, if_neg (List.cons_ne_nil _ _), hstep]
  exact hround.run hg

end Search

namespace Graph

/-- Among distinct ids, the order from a step holds the steps that it reaches. -/
theorem mem_orderFrom_iff {g : Graph} (hg : g.nodeIds.Nodup) {start : Node}
    (hstart : start ∈ g.nodes) {node : Node} :
    node ∈ g.orderFrom start.id ↔ g.Reaches start node := by
  have h := Search.tracks_run hg hstart
  constructor
  · exact h.reached node
  · intro hreach
    induction hreach with
    | refl =>
        obtain ⟨rest, hrest⟩ := h.begins
        rw [orderFrom, hrest]
        exact List.mem_cons_self
    | tail _ hfollows ih =>
        obtain ⟨-, hmem, hedge⟩ := hfollows
        apply h.noted _ hmem
        -- nothing waits any more, so what follows a step that was found is marked
        rcases h.closed _ ih _ (mem_targets_iff.mpr hedge) with hvisited | hwaits
        · exact hvisited
        · rw [Search.stack_run] at hwaits
          exact absurd hwaits List.not_mem_nil

theorem start?_eq_find? (g : Graph) : g.start? = g.nodes.find? fun node => node.kind = .start := by
  rw [start?, starts, List.head?_filter]

theorem mem_of_mem_order? {g : Graph} (hg : g.nodeIds.Nodup) {order : List Node}
    (horder : g.order? = some order) {node : Node} (hnode : node ∈ order) : node ∈ g.nodes := by
  obtain ⟨start, hstart, rfl⟩ := Option.map_eq_some_iff.mp horder
  rw [start?_eq_find?] at hstart
  have hmem := List.mem_of_find?_eq_some hstart
  cases (mem_orderFrom_iff hg hmem).mp hnode with
  | refl => exact hmem
  | tail _ hfollows => exact hfollows.2.1

theorem Sound.result_compile {g : Graph} (hg : g.Sound) (headless : Toggle) :
    (g.compile headless).result =
      match g.script? headless.isOn with
      | some script => .ok script
      | none => .error .noStart := by
  apply result_compile_of_accepts
  intro order horder node hnode
  exact (hg.proper node (mem_of_mem_order? hg.nodup_nodeIds horder hnode)).accepts .code

/-- A flow whose steps have distinct ids cannot be put into order just if it has no
start. Otherwise the order begins with the first start, has no step twice, has the
steps that the start reaches and no others, and each step but the first is led to by an
edge from one before it. -/
theorem result_linearize_reaches {g : Graph} (hg : g.nodeIds.Nodup) :
    (g.linearize.result = .error {} ↔ ∀ node ∈ g.nodes, node.kind ≠ .start) ∧
      ∀ start, g.nodes.find? (fun node => node.kind = .start) = some start →
        ∃ rest, g.linearize.result = .ok (start :: rest) ∧
          ((start :: rest).map Node.id).Nodup ∧
          (∀ node, node ∈ start :: rest ↔ g.Reaches start node) ∧
          g.Led (start :: rest) := by
  rw [result_linearize, order?, start?_eq_find?]
  constructor
  · cases hfind : g.nodes.find? fun node => node.kind = .start with
    | none => simpa using hfind
    | some start =>
        have hkind : start.kind = .start := by simpa using List.find?_some hfind
        simp only [Option.map_some, reduceCtorEq, false_iff]
        exact fun hall => hall start (List.mem_of_find?_eq_some hfind) hkind
  · intro start hfind
    have hstart := List.mem_of_find?_eq_some hfind
    have h := Search.tracks_run hg hstart
    obtain ⟨rest, hrest⟩ := h.begins
    have horder : g.orderFrom start.id = start :: rest := hrest
    refine ⟨rest, by rw [hfind, Option.map_some, horder], hrest ▸ h.nodup, ?_, hrest ▸ h.led⟩
    intro node
    rw [← horder]
    exact mem_orderFrom_iff hg hstart

/-- Branches that merge, a cycle, an edge that leads nowhere and a second start. -/
theorem result_linearize_reaches_cycle :
    let start : Node := { id := "s", kind := .start }
    let g : Graph :=
      { nodes := [{ id := "a", kind := .click }, start, { id := "b", kind := .wait },
          { id := "c", kind := .code }, { id := "t", kind := .start }]
        edges := [.between "s" "b", .between "s" "a", .between "b" "c", .between "c" "s",
          .between "a" "c", .between "a" "ghost", .between "t" "a"] }
    g.nodeIds.Nodup ∧ ∃ rest, g.linearize.result = .ok (start :: rest) ∧
      (∀ node, node ∈ start :: rest ↔ g.Reaches start node) ∧ g.Led (start :: rest) := by
  intro start g
  have hg : g.nodeIds.Nodup := by decide
  have hstart : g.nodes.find? (fun node => node.kind = .start) = some start := by decide
  obtain ⟨rest, hresult, -, hreaches, hled⟩ := (result_linearize_reaches hg).2 start hstart
  exact ⟨hg, rest, hresult, hreaches, hled⟩

end Graph

end BrowserFlow
