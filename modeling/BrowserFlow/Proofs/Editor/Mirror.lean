import BrowserFlow.Proofs.Editor.Consistent

/-!
# Following a session by its events

A `Mirror` is what an observer keeps of a flow: the ids and kinds of its steps and its
edges. `hear?` is what the observer makes of one object that listeners receive. It reads
the type and the details of the event and nothing else, but for a flow that was imported:
the object only counts what came, so a fresh export takes the place of everything.

An effect announces what it changes (`follow?_effect`), and so does each call
(`follow?_perform`): the mirror of the session before is turned into the mirror of the
session after, also where a call fails or changes nothing. `along?_create` is the same
for the runs of a new session.
-/

namespace BrowserFlow.Editor

/-- What an observer keeps of a flow: the ids and kinds of the steps, and the edges. -/
structure Mirror where
  steps : List (String × Kind)
  edges : List Edge
deriving DecidableEq

namespace Mirror

def ofGraph (g : Graph) : Mirror := ⟨g.nodes.map fun node => (node.id, node.kind), g.edges⟩

def lone : Mirror := ⟨[(startId, .start)], []⟩

def textAt? (fields : Table Json) (key : String) : Option String :=
  Table.get? fields key >>= Json.text?

def kindAt? (fields : Table Json) (key : String) : Option Kind :=
  textAt? fields key >>= Kind.ofName?

def step? : Json → Option (String × Kind)
  | .object fields => do return (← textAt? fields "id", ← kindAt? fields "kind")
  | _ => none

def edge? : Json → Option Edge
  | .object fields => do
    return ⟨← textAt? fields "id", ← textAt? fields "sourceNodeId",
      ← textAt? fields "targetNodeId"⟩
  | _ => none

def ofDocument? : Json → Option Mirror
  | .object fields =>
    match Table.get? fields "nodes", Table.get? fields "edges" with
    | some (.list nodes), some (.list edges) => do
      return ⟨← nodes.mapM step?, ← edges.mapM edge?⟩
    | _, _ => none
  | _ => none

/-- What an observer makes of an object that it receives; `fresh` is the export that it
can take at that moment. -/
def hear? (fresh : Json) (m : Mirror) (payload : Table Json) : Option Mirror := do
  match ← textAt? payload "type" with
  | "NODE_ADDED" =>
    let step := (← textAt? payload "nodeId", ← kindAt? payload "kind")
    return { m with steps := m.steps ++ [step] }
  | "NODE_REMOVED" =>
    let id ← textAt? payload "nodeId"
    return ⟨m.steps.filter fun step => step.1 ≠ id,
      m.edges.filter fun edge => edge.source ≠ id ∧ edge.target ≠ id⟩
  | "EDGE_ADDED" =>
    let edge : Edge := ⟨← textAt? payload "edgeId", ← textAt? payload "sourceNodeId",
      ← textAt? payload "targetNodeId"⟩
    return { m with edges := m.edges ++ [edge] }
  | "EDGE_REMOVED" =>
    let id ← textAt? payload "edgeId"
    return { m with edges := m.edges.eraseP fun edge => edge.id = id }
  | "GRAPH_CLEARED" => return lone
  | "GRAPH_IMPORTED" => ofDocument? fresh
  | _ => return m

/-- What an observer makes of the events of one call, which leaves the session `s`. -/
def follow? (s : Session) (m : Mirror) (events : List Event) : Option Mirror :=
  (s.payloads events).foldlM (hear? s.graph.toJson) m

/-- What an observer has after a run. -/
def along? (m : Mirror) (s : Session) : List Call → Option Mirror
  | [] => some m
  | call :: calls => do
    let left := call.perform s
    along? (← follow? left.state m left.events) left.state calls

section Hearing

theorem step?_toJson (node : Node) : step? node.toJson = some (node.id, node.kind) := by
  simp [step?, Node.toJson, kindAt?, textAt?, Table.get?, Json.text?, Kind.ofName?_name]

theorem edge?_toJson (edge : Edge) : edge? edge.toJson = some edge := by
  simp [edge?, Edge.toJson, textAt?, Table.get?, Json.text?]

theorem ofDocument?_toJson (g : Graph) : ofDocument? g.toJson = some (ofGraph g) := by
  have hnodes : g.nodes.mapM (step? ∘ Node.toJson) =
      some (g.nodes.map fun node => (node.id, node.kind)) :=
    mapM_eq_some_map fun node _ => step?_toJson node
  have hedges : g.edges.mapM (edge? ∘ Edge.toJson) = some (g.edges.map id) :=
    mapM_eq_some_map fun edge _ => edge?_toJson edge
  simp [ofDocument?, Graph.toJson, Graph.documentFields, Table.get?, hnodes, hedges, ofGraph]

/-- What an observer makes of each event. -/
theorem hear?_payload (fresh : Json) (m : Mirror) (sessionId : String) (event : Event) :
    hear? fresh m (event.payload sessionId) =
      match event with
      | .nodeAdded id kind => some { m with steps := m.steps ++ [(id, kind)] }
      | .nodeRemoved id =>
        some ⟨m.steps.filter fun step => step.1 ≠ id,
          m.edges.filter fun edge => edge.source ≠ id ∧ edge.target ≠ id⟩
      | .edgeAdded id source target => some { m with edges := m.edges ++ [⟨id, source, target⟩] }
      | .edgeRemoved id => some { m with edges := m.edges.eraseP fun edge => edge.id = id }
      | .cleared => some lone
      | .imported _ _ => ofDocument? fresh
      | .nodeUpdated _ _ | .generated _ | .saved _ | .ran _ => some m := by
  cases event <;>
    simp [hear?, Event.payload, Event.type, Event.details, kindAt?, textAt?, Table.get?,
      Json.text?, Kind.ofName?_name]

end Hearing

section Graph

variable (g : Graph)

theorem ofGraph_insertNode (node : Node) :
    ofGraph (g.insertNode node) =
      { ofGraph g with steps := (ofGraph g).steps ++ [(node.id, node.kind)] } := by
  simp [ofGraph, Graph.insertNode]

/-- Changes of parameters and of positions are not kept. -/
theorem ofGraph_updateNode (id : String) {f : Node → Node}
    (h : ∀ node, (f node).id = node.id ∧ (f node).kind = node.kind) :
    ofGraph (g.updateNode id f) = ofGraph g := by
  have hstep (node : Node) : ((if node.id = id then f node else node).id,
      (if node.id = id then f node else node).kind) = (node.id, node.kind) := by
    split
    · rw [(h node).1, (h node).2]
    · rfl
  simp [ofGraph, Graph.updateNode, Function.comp_def, hstep]

theorem ofGraph_removeNode (id : String) :
    ofGraph (g.removeNode id) =
      ⟨(ofGraph g).steps.filter fun step => step.1 ≠ id,
        (ofGraph g).edges.filter fun edge => edge.source ≠ id ∧ edge.target ≠ id⟩ := by
  simp [ofGraph, Graph.removeNode, List.filter_map, Function.comp_def]

/-- The first edge with an id is the one that is erased, also where others are equal to
it or share the id. -/
theorem erase_eq_eraseP_of_find? {edges : List Edge} {edge : Edge}
    (h : (edges.find? fun other => other.id = edge.id) = some edge) :
    edges.erase edge = edges.eraseP fun other => other.id = edge.id := by
  -- Until the id is met no edge is equal to this one, and the first with the id is it.
  induction edges with
  | nil => rfl
  | cons first edges ih =>
      by_cases hid : first.id = edge.id
      · have heq : first = edge := by simpa [hid] using h
        simp [heq]
      · have hne : first ≠ edge := fun heq => hid (by rw [heq])
        have hrest : (edges.find? fun other => other.id = edge.id) = some edge := by
          simpa [hid] using h
        simp [hid, hne, ih hrest]

theorem ofGraph_eraseEdge {edge : Edge} (h : g.edge? edge.id = some edge) :
    ofGraph (g.eraseEdge edge) =
      { ofGraph g with
        edges := (ofGraph g).edges.eraseP fun other => other.id = edge.id } := by
  simp only [ofGraph, Graph.eraseEdge, erase_eq_eraseP_of_find? h]

end Graph

theorem ofGraph_updated (s : Session) (node : Node) (changes : Table Json) :
    ofGraph ((Effect.updated node changes).apply s).graph = ofGraph s.graph :=
  ofGraph_updateNode s.graph node.id fun _ => ⟨rfl, rfl⟩

section Following

theorem follow?_nil (s : Session) (m : Mirror) : follow? s m [] = some m := rfl

theorem follow?_singleton (s : Session) (m : Mirror) (event : Event) :
    follow? s m [event] = hear? s.graph.toJson m (event.payload s.id) := by
  simp [follow?, Session.payloads]

/-- What an allowed effect does to a flow can be told from the events that it
announces. -/
theorem follow?_effect {s : Session} {effect : Effect} (h : effect.Allowed s) :
    follow? (effect.apply s) (ofGraph s.graph) effect.events =
      some (ofGraph (effect.apply s).graph) := by
  cases effect with
  | nothing => rfl
  | renamed name => rfl
  | moved node position =>
      -- Moves are silent, and a mirror has no positions.
      have hkept : ofGraph ((Effect.moved node position).apply s).graph = ofGraph s.graph :=
        ofGraph_updateNode s.graph node.id fun _ => ⟨rfl, rfl⟩
      rw [hkept]
      rfl
  | told event =>
      rw [Effect.events, follow?_singleton, hear?_payload]
      rcases h with ⟨_, rfl⟩ | ⟨_, rfl⟩ | ⟨_, rfl⟩ <;> rfl
  | added node number =>
      rw [Effect.events, follow?_singleton, hear?_payload]
      exact congrArg some (ofGraph_insertNode s.graph node).symm
  | updated node changes =>
      rw [Effect.events, follow?_singleton, hear?_payload, ofGraph_updated]
  | removed id =>
      rw [Effect.events, follow?_singleton, hear?_payload]
      exact congrArg some (ofGraph_removeNode s.graph id).symm
  | joined source target =>
      rw [Effect.events, follow?_singleton, hear?_payload]
      rfl
  | parted edge =>
      rw [Effect.events, follow?_singleton, hear?_payload]
      exact congrArg some (ofGraph_eraseEdge s.graph h).symm
  | cleared =>
      rw [Effect.events, follow?_singleton, hear?_payload]
      rfl
  | imported g =>
      rw [Effect.events, follow?_singleton, hear?_payload]
      exact ofDocument?_toJson g

/-- What a call does to a flow can be told from the events that it announces; one that
fails announces nothing. -/
theorem follow?_perform (call : Call) (s : Session) :
    follow? (call.perform s).state (ofGraph s.graph) (call.perform s).events =
      some (ofGraph (call.perform s).state.graph) := by
  rcases call.does_perform s with
    (⟨failure, h⟩ | ⟨effect, returned, -, hallowed, h⟩) | ⟨node, changes, excess, -, h⟩
  · rw [h.state_eq, h.events_eq, follow?_nil]
  · rw [h.state_eq, h.events_eq, follow?_effect hallowed]
  · rw [h.leaves.state_eq, h.leaves.events_eq, follow?_nil, ofGraph_updated]

/-- An observer that knows the flow of a session knows it after every run. -/
theorem along?_ofGraph (s : Session) (calls : List Call) :
    along? (ofGraph s.graph) s calls = some (ofGraph (s.after calls).graph) := by
  induction calls generalizing s with
  | nil => rfl
  | cons call calls ih =>
      rw [along?, follow?_perform, Session.after_cons, ← ih]
      rfl

/-- An observer that begins with the lone start step has, after every call of every run
of a new session, the ids and kinds of its steps and its edges, in order. -/
theorem along?_create (sessionId name : String) (listeners : List Listener)
    (calls : List Call) :
    let start := Session.create sessionId name listeners
    along? lone start calls =
      some ⟨(start.after calls).graph.nodes.map fun node => (node.id, node.kind),
        (start.after calls).graph.edges⟩ :=
  along?_ofGraph (Session.create sessionId name listeners) calls

end Following

end Mirror

end BrowserFlow.Editor
