import BrowserFlow.Proofs.Editor.Call
import Mathlib.Data.List.Nodup

/-!
# Consistent sessions

A session is `Consistent` when its flow is sound and its table of handlers has one
handler for each step, in the order of the steps. Each allowed effect keeps a session
consistent (`Consistent.apply`), so every session that a run of calls leads to is
(`consistent_after`).

From this come the laws of handlers: each step is bound to its own handler, a handler
is found just for the steps that there are, and a handler that was taken at any moment
of a run goes on naming the step that it was taken for.
-/

namespace BrowserFlow

theorem mapM_eq_some_map {α β : Type} {l : List α} {f : α → Option β} {g : α → β}
    (h : ∀ a ∈ l, f a = some (g a)) : l.mapM f = some (l.map g) := by
  induction l with
  | nil => rfl
  | cons a l ih =>
      rw [List.forall_mem_cons] at h
      rw [List.mapM_cons, h.1, ih h.2]
      rfl

namespace Editor

open BrowserFlow.Action

def handlersOf (ids : List String) : Table Handler := ids.map fun id => (id, ⟨id⟩)

theorem keys_handlersOf (ids : List String) : Table.keys (handlersOf ids) = ids := by
  simp [handlersOf, Table.keys, Function.comp_def]

theorem get?_handlersOf (ids : List String) (id : String) :
    Table.get? (handlersOf ids) id = if id ∈ ids then some ⟨id⟩ else none :=
  Table.get?_map ids Handler.mk id

theorem set_handlersOf {ids : List String} {id : String} (h : id ∉ ids) :
    Table.set (handlersOf ids) id ⟨id⟩ = handlersOf (ids ++ [id]) := by
  rw [Table.set_of_notMem _ (by rwa [keys_handlersOf]), handlersOf, handlersOf, List.map_append]
  rfl

theorem erase_handlersOf (ids : List String) (id : String) :
    Table.erase (handlersOf ids) id = handlersOf (ids.filter (· ≠ id)) := by
  rw [Table.erase, handlersOf, handlersOf, List.filter_map]
  rfl

theorem foldl_set_handlersOf {nodes : List Node} {ids : List String}
    (h : (ids ++ nodes.map Node.id).Nodup) :
    nodes.foldl (fun table node => Table.set table node.id ⟨node.id⟩) (handlersOf ids) =
      handlersOf (ids ++ nodes.map Node.id) := by
  induction nodes generalizing ids with
  | nil => rw [List.foldl_nil, List.map_nil, List.append_nil]
  | cons node nodes ih =>
      rw [List.map_cons, List.append_cons] at h
      have hnew : node.id ∉ ids := by
        have hfirst := h.sublist (List.sublist_append_left _ _)
        exact (nodup_append_singleton_iff.mp hfirst).1
      rw [List.foldl_cons, set_handlersOf hnew, ih h, List.map_cons,
        List.append_cons ids node.id (nodes.map Node.id)]

theorem bindAll_eq {g : Graph} (h : g.nodeIds.Nodup) : bindAll g = handlersOf g.nodeIds :=
  @foldl_set_handlersOf g.nodes [] h

namespace Session

/-- A session with a sound flow and a handler for each step. -/
structure Consistent (s : Session) : Prop where
  sound : s.graph.Sound
  handlers_eq : s.handlers = handlersOf s.graph.nodeIds

theorem sound_initialGraph : initialGraph.Sound where
  nodup_nodeIds := List.nodup_singleton _
  source_mem := by
    intro edge hedge
    exact absurd hedge List.not_mem_nil
  target_mem := by
    intro edge hedge
    exact absurd hedge List.not_mem_nil
  proper := by
    intro node hnode
    rw [List.mem_singleton.mp hnode]
    exact ⟨rfl, fun field => Field.accepts_null field, rfl⟩

theorem consistent_create (id name : String) (listeners : List Listener) :
    (create id name listeners).Consistent :=
  ⟨sound_initialGraph, bindAll_eq sound_initialGraph.nodup_nodeIds⟩

theorem Consistent.updateNode {s : Session} (h : s.Consistent) {node : Node} {f : Node → Node}
    (hnode : s.graph.node? node.id = some node) (hf : ∀ other, (f other).id = other.id)
    (hp : (f node).Proper) :
    Consistent { s with graph := s.graph.updateNode node.id f } where
  sound := by
    refine h.sound.updateNode hf ?_
    intro other hother
    rw [hnode] at hother
    obtain rfl := Option.some.inj hother
    exact hp
  handlers_eq := by
    change s.handlers = handlersOf (s.graph.updateNode node.id f).nodeIds
    rw [Graph.nodeIds_updateNode _ _ hf]
    exact h.handlers_eq

/-- An allowed effect keeps a session consistent. -/
theorem Consistent.apply {s : Session} (h : s.Consistent) {effect : Effect}
    (hallowed : effect.Allowed s) : (effect.apply s).Consistent := by
  cases effect with
  | nothing | told event => exact h
  | renamed name => exact ⟨h.sound, h.handlers_eq⟩
  | added node number =>
      have hnew := hallowed.notMem_nodeIds
      refine ⟨h.sound.insertNode hnew hallowed.2.2, ?_⟩
      change Table.set s.handlers node.id ⟨node.id⟩ =
        handlersOf (s.graph.insertNode node).nodeIds
      rw [h.handlers_eq, set_handlersOf hnew, Graph.nodeIds_insertNode]
  | updated node changes =>
      obtain ⟨hnode, htakes⟩ := hallowed
      have hp := h.sound.proper node (Graph.mem_of_node? hnode)
      refine h.updateNode hnode (fun _ => rfl) ⟨?_, ?_, hp.isNumeric⟩
      · exact (Params.shape_merged _ _).trans hp.shape_eq
      · rw [← hp.shape_eq] at htakes
        exact Params.accepts_get_merged hp.accepts htakes
  | moved node position =>
      obtain ⟨hnode, hnumeric⟩ := hallowed
      have hp := h.sound.proper node (Graph.mem_of_node? hnode)
      exact h.updateNode hnode (fun _ => rfl) ⟨hp.shape_eq, hp.accepts, hnumeric⟩
  | removed id =>
      refine ⟨h.sound.removeNode id, ?_⟩
      change Table.erase s.handlers id = handlersOf (s.graph.removeNode id).nodeIds
      rw [h.handlers_eq, erase_handlersOf, Graph.nodeIds_removeNode]
  | joined source target =>
      obtain ⟨hsource, htarget, -⟩ := hallowed
      exact ⟨h.sound.insertEdge hsource htarget, h.handlers_eq⟩
  | parted edge => exact ⟨h.sound.eraseEdge edge, h.handlers_eq⟩
  | cleared => exact ⟨sound_initialGraph, bindAll_eq sound_initialGraph.nodup_nodeIds⟩
  | imported g => exact ⟨hallowed.1, bindAll_eq hallowed.1.nodup_nodeIds⟩

theorem Consistent.after {s : Session} (h : s.Consistent) (calls : List Call) :
    (s.after calls).Consistent :=
  after_induction calls h fun _ _ h hallowed => h.apply hallowed

theorem consistent_after (id name : String) (listeners : List Listener) (calls : List Call) :
    ((create id name listeners).after calls).Consistent :=
  (consistent_create id name listeners).after calls

/-! ## Laws of handlers -/

/-- Each step of a consistent session is bound to its handler. -/
theorem Consistent.boundNodes_eq {s : Session} (h : s.Consistent) :
    s.boundNodes = some (s.graph.nodes.map fun node => (node, ⟨node.id⟩)) := by
  apply mapM_eq_some_map
  intro node hnode
  have hmem : node.id ∈ s.graph.nodeIds := List.mem_map_of_mem hnode
  rw [h.handlers_eq, get?_handlersOf, if_pos hmem]
  rfl

/-- The handler of a consistent session for an id is found just if a step has the id. -/
theorem Consistent.result_handlerFor {s : Session} (h : s.Consistent) (id : String) :
    (handlerFor id s).result =
      if id ∈ s.graph.nodeIds then .ok ⟨id⟩ else .error (.unknownNode id) := by
  rw [handlerFor, looks_read.result_bind, read_apply]
  simp only [Except.bind, h.handlers_eq, get?_handlersOf]
  by_cases hid : id ∈ s.graph.nodeIds
  · simp [hid]
  · simp [hid]

/-- A session gives a handler for an id, by itself or among all of its steps. -/
def Gives (s : Session) (id : String) (handler : Handler) : Prop :=
  (handlerFor id s).result = .ok handler ∨
    ∃ bound node, s.boundNodes = some bound ∧ (node, handler) ∈ bound ∧ node.id = id

/-- The handler that a consistent session gives for an id names that id. -/
theorem Consistent.eq_of_gives {s : Session} (h : s.Consistent) {id : String} {handler : Handler}
    (hgives : s.Gives id handler) : handler = ⟨id⟩ := by
  rcases hgives with hfor | ⟨bound, node, hbound, hmem, rfl⟩
  · rw [h.result_handlerFor] at hfor
    split at hfor
    · exact (Except.ok.inj hfor).symm
    · exact absurd hfor (by simp)
  · rw [h.boundNodes_eq] at hbound
    obtain rfl := Option.some.inj hbound
    obtain ⟨other, -, heq⟩ := List.mem_map.mp hmem
    obtain ⟨rfl, rfl⟩ := Prod.mk.inj heq
    rfl

/-- A change of parameters fails for want of its step just if the step is missing. -/
theorem result_updateParams_eq_unknownNode_iff {s : Session} {id : String}
    {changes : Table Json} :
    (updateParams id changes s).result = .error (.unknownNode id) ↔ id ∉ s.graph.nodeIds := by
  rw [← Graph.node?_eq_none_iff]
  rw [updateParams, updateParamsWithin, (looks_findNode id).result_bind, result_findNode]
  cases hnode : s.graph.node? id with
  | none => simp [Except.bind]
  | some node =>
      -- what can go wrong now is a matter of the values
      simp only [Except.bind, reduceCtorEq, iff_false]
      rw [(looks_requireParams node.kind changes).result_bind, requireParams, ofJournaled_apply]
      cases (Document.checkParams "params" node.kind changes).result with
      | error fault => simp [Except.bind, Journaled.mapError_error]
      | ok kept =>
          change ¬ (Except.ok _ : Except Failure Node) = .error _
          simp

/-! ## Runs -/

/-- After every run the steps have distinct ids, the edges join steps, each step has
values of its kind at a numeric position, and the handlers are those of the steps. So
each step is bound, once and in order; a handler is found just for the steps there are;
and one that was taken at any moment of the run changes parameters as if the step were
named, which fails for want of the step just if it is gone. -/
theorem structure_of_run (sessionId name : String) (listeners : List Listener)
    (earlier later : List Call) :
    let start := create sessionId name listeners
    let s := start.after (earlier ++ later)
    s.graph.nodeIds.Nodup ∧
      (∀ edge ∈ s.graph.edges, edge.source ∈ s.graph.nodeIds ∧ edge.target ∈ s.graph.nodeIds) ∧
      (∀ node ∈ s.graph.nodes, node.params.shape = node.kind.shape ∧
        (∀ field : Field, field.Admits (node.params.get field)) ∧
        node.position.isNumeric = true) ∧
      Table.keys s.handlers = s.graph.nodeIds ∧
      s.boundNodes = some (s.graph.nodes.map fun node => (node, ⟨node.id⟩)) ∧
      (∀ id, (handlerFor id s).result =
        if id ∈ s.graph.nodeIds then .ok ⟨id⟩ else .error (.unknownNode id)) ∧
      ∀ id handler, (start.after earlier).Gives id handler →
        (∀ changes, applyHandler handler changes s = updateParams id changes s) ∧
        (∀ changes, (Call.apply handler changes).perform s =
          (Call.update (.text id) changes).perform s) ∧
        ∀ changes, (applyHandler handler changes s).result = .error (.unknownNode id) ↔
          id ∉ s.graph.nodeIds := by
  intro start s
  have h : s.Consistent := consistent_after sessionId name listeners (earlier ++ later)
  refine ⟨h.sound.nodup_nodeIds, ?_, ?_, ?_, h.boundNodes_eq, h.result_handlerFor, ?_⟩
  · intro edge hedge
    exact ⟨h.sound.source_mem edge hedge, h.sound.target_mem edge hedge⟩
  · intro node hnode
    have hp := h.sound.proper node hnode
    exact ⟨hp.shape_eq, fun field => Field.accepts_iff_admits.mp (hp.accepts field), hp.isNumeric⟩
  · rw [h.handlers_eq, keys_handlersOf]
  · intro id handler hgives
    have hearlier : (start.after earlier).Consistent :=
      consistent_after sessionId name listeners earlier
    obtain rfl := hearlier.eq_of_gives hgives
    refine ⟨fun _ => rfl, fun _ => rfl, ?_⟩
    intro changes
    exact result_updateParams_eq_unknownNode_iff

/-- A handler that was taken before its step was removed. -/
theorem structure_of_run_removed :
    let start := create "s" "flow" []
    let earlier := [Call.add (.text "wait") .null .null]
    let later := [Call.remove (.text "wait-1")]
    let s := start.after (earlier ++ later)
    (start.after earlier).Gives "wait-1" ⟨"wait-1"⟩ ∧
      ∀ changes, (applyHandler ⟨"wait-1"⟩ changes s).result = .error (.unknownNode "wait-1") := by
  intro start earlier later s
  have hthere : "wait-1" ∈ (start.after earlier).graph.nodeIds := by decide
  have hgives : (start.after earlier).Gives "wait-1" ⟨"wait-1"⟩ := by
    rw [Gives, (consistent_after "s" "flow" [] earlier).result_handlerFor, if_pos hthere]
    exact Or.inl rfl
  have hgone : "wait-1" ∉ s.graph.nodeIds := by decide
  obtain ⟨-, -, -, -, -, -, hhandlers⟩ := structure_of_run "s" "flow" [] earlier later
  obtain ⟨-, -, hunknown⟩ := hhandlers "wait-1" ⟨"wait-1"⟩ hgives
  exact ⟨hgives, fun changes => (hunknown changes).mpr hgone⟩

end Session

end Editor

end BrowserFlow
