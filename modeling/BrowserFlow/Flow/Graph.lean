import BrowserFlow.Flow.Params

/-!
# Flow graphs

A flow is a list of steps and a list of directed edges between them, each in the
order of creation. Steps and edges are found by their ids; a graph built by hand
may repeat an id or name a step that is missing, and then the first one counts.
-/

namespace BrowserFlow

/-- Where a step stands on the canvas. Nothing but layout depends on it, so a graph
built by hand may have any values here; one that was read has numbers. -/
structure Position where
  x : Json := .int 0
  y : Json := .int 0
deriving DecidableEq

def Position.isNumeric (p : Position) : Bool := p.x.isNumber && p.y.isNumber

/-- A step of a flow. -/
structure Node where
  id : String
  kind : Kind
  position : Position := {}
  params : Params := .empty
deriving DecidableEq

/-- Parameters of one record on a step of a kind that needs another. -/
structure ShapeMismatch where
  id : String
  kind : Kind
  given : Shape
deriving DecidableEq, Repr

def ShapeMismatch.message (m : ShapeMismatch) : String :=
  s!"node '{m.id}' of kind '{m.kind.name}' needs {m.kind.shape.name}, got {m.given.name}"

/-- A step, if its parameters are of the record that its kind needs. -/
def Node.make (id : String) (kind : Kind) (position : Position) (params : Params) :
    Except ShapeMismatch Node :=
  if params.shape = kind.shape then .ok ⟨id, kind, position, params⟩
  else .error ⟨id, kind, params.shape⟩

/-- A connection from one step to the next. -/
structure Edge where
  id : String
  source : String
  target : String
deriving DecidableEq

def Edge.defaultId (source target : String) : String := s!"edge-{source}-{target}"

def Edge.between (source target : String) : Edge := ⟨Edge.defaultId source target, source, target⟩

/-- Steps by creation, edges by connection. -/
structure Graph where
  nodes : List Node := []
  edges : List Edge := []
deriving DecidableEq

namespace Graph

def nodeIds (g : Graph) : List String := g.nodes.map Node.id

def edgeIds (g : Graph) : List String := g.edges.map Edge.id

def node? (g : Graph) (id : String) : Option Node := g.nodes.find? fun node => node.id = id

def edge? (g : Graph) (id : String) : Option Edge := g.edges.find? fun edge => edge.id = id

def edgeBetween? (g : Graph) (source target : String) : Option Edge :=
  g.edges.find? fun edge => edge.source = source ∧ edge.target = target

def outgoing (g : Graph) (id : String) : List Edge := g.edges.filter fun edge => edge.source = id

def incoming (g : Graph) (id : String) : List Edge := g.edges.filter fun edge => edge.target = id

def targets (g : Graph) (id : String) : List String := (g.outgoing id).map Edge.target

def starts (g : Graph) : List Node := g.nodes.filter fun node => node.kind = .start

/-- The step where a run begins, the first of kind start. -/
def start? (g : Graph) : Option Node := g.starts.head?

theorem node?_eq_none_iff {g : Graph} {id : String} : g.node? id = none ↔ id ∉ g.nodeIds := by
  simp only [node?, List.find?_eq_none, decide_eq_true_eq, nodeIds, List.mem_map, not_exists,
    not_and]

theorem id_of_node? {g : Graph} {id : String} {node : Node} (h : g.node? id = some node) :
    node.id = id := by
  simpa using List.find?_some h

theorem mem_of_node? {g : Graph} {id : String} {node : Node} (h : g.node? id = some node) :
    node ∈ g.nodes := List.mem_of_find?_eq_some h

end Graph

end BrowserFlow
