import BrowserFlow.Action
import BrowserFlow.Document.Check
import BrowserFlow.Editor.Event
import BrowserFlow.FirstFree
import BrowserFlow.Script.Compile
import BrowserFlow.Text.Blank
import BrowserFlow.Text.Case

/-!
# Editing sessions

A session owns one flow and is the only one to change it. Beside the flow it keeps
the name of the script, a counter for the ids of new steps, and a table of
handlers: for each step one through which its parameters are changed. A handler
that someone has kept goes on working as long as the session has a step of its id.

Each operation is an `Edit`. Those that can fail look everything up and check
everything before their first change, but for one: the record of changed parameters shows
them, and `updateParamsWithin` makes it when the step has them already. Operations that
show whole numbers take the limits within which numbers are written; the names without
`Within` stand for those without limits.
-/

namespace BrowserFlow.Editor

/-- Changes the parameters of the step it is bound to. -/
structure Handler where
  nodeId : String
deriving DecidableEq, Repr

/-- A session: its flow and what belongs to editing it. -/
structure Session where
  id : String
  name : String
  graph : Graph
  handlers : Table Handler
  nextNumber : Nat := 1
  listeners : List Listener := []

def defaultName : String := "My Selenium Script"

def startId : String := "start-node"

def initialGraph : Graph :=
  { nodes := [{ id := startId, kind := .start, position := ⟨.int 250, .int 50⟩ }] }

/-- The name of the file that a flow is downloaded as: blanks become hyphens, and
letters small. -/
def exportFilename (name : String) : String :=
  String.ofList (Text.lower (Text.hyphenateBlanks name.toList)) ++ ".json"

def bindAll (g : Graph) : Table Handler :=
  g.nodes.foldl (fun table node => Table.set table node.id ⟨node.id⟩) []

/-- What is handed to the store when a script is saved. -/
structure SaveRequest where
  name : String
  script : String
  nodes : List Node
  edges : List Edge

/-- An operation of a session. -/
abbrev Edit (α : Type) := Action Session Event Failure α

namespace Session

def create (id name : String) (listeners : List Listener) : Session :=
  { id, name, listeners, graph := initialGraph, handlers := bindAll initialGraph }

def payloads (s : Session) (events : List Event) : List (Table Json) :=
  events.map fun event => event.payload s.id

/-- Announces an event; listeners that fail on it are recorded. -/
def fire (event : Event) : Edit Unit := do
  let s ← Action.read
  Action.announce event
  Action.noteAll (Listener.failureRecords s.listeners event.type)

def note (level : Level) (text : String) : Edit Unit := do
  let s ← Action.read
  Action.note level .session s!"session {s.id}: {text}"

def findNode (id : String) : Edit Node := do
  let s ← Action.read
  match s.graph.node? id with
  | some node => return node
  | none => Action.fail (.unknownNode id)

def handlerFor (id : String) : Edit Handler := do
  let s ← Action.read
  match Table.get? s.handlers id with
  | some handler => return handler
  | none => Action.fail (.unknownNode id)

def boundNodes (s : Session) : Option (List (Node × Handler)) :=
  s.graph.nodes.mapM fun node => (Table.get? s.handlers node.id).map fun handler => (node, handler)

def numberedId (kind : Kind) (n : Nat) : String := s!"{kind.name}-{n}"

/-- The least number from the counter on whose id no step has. At most as many are
taken as there are steps. -/
def freeNumber (s : Session) (kind : Kind) : Nat :=
  firstFrom (fun n => (s.graph.node? (numberedId kind n)).isNone) s.graph.nodes.length s.nextNumber

/-- A new id for a step of a kind. The counter moves past its number. -/
def freshId (kind : Kind) : Edit String := do
  let s ← Action.read
  let n := s.freeNumber kind
  Action.update fun s => { s with nextNumber := n + 1 }
  return numberedId kind n

def requireKind (v : Json) : Edit Kind :=
  match v.text? >>= Kind.ofName? with
  | some kind => return kind
  | none => Action.fail (.unknownKind v.shown)

def requireParams (kind : Kind) (params : Table Json) : Edit (Table Json) :=
  Action.ofJournaled Failure.invalidValue (Document.checkParams "params" kind params)

def requirePosition (x y : Json) : Edit Position :=
  Action.ofExcept ((Document.checkPosition "position" x y).mapError Failure.invalidValue)

def coordinate (position : Table Json) (key : String) : Json :=
  (Table.get? position key).getD (.int 0)

def requestedPosition : Option (Table Json) → Edit Position
  | none => return {}
  | some position => requirePosition (coordinate position "x") (coordinate position "y")

def addNode (kindValue : Json) (position : Option (Table Json)) (params : Table Json) :
    Edit Node := do
  let kind ← requireKind kindValue
  let kept ← requireParams kind params
  let position ← requestedPosition position
  let id ← freshId kind
  let node : Node := ⟨id, kind, position, Params.ofPairs kind.shape kept⟩
  Action.update fun s =>
    { s with
      graph := { s.graph with nodes := s.graph.nodes ++ [node] }
      handlers := Table.set s.handlers id ⟨id⟩ }
  note .info s!"added {kind.name} node '{id}'"
  fire (.nodeAdded id kind)
  return node

def replaceNode (id : String) (f : Node → Node) : Edit Unit :=
  Action.update fun s =>
    { s with
      graph :=
        { s.graph with
          nodes := s.graph.nodes.map fun node => if node.id = id then f node else node } }

def requireShown (limits : Json.Limits) (v : Json) : Edit Unit :=
  Action.ofExcept ((Json.checkWritten limits v).mapError .beyondLimit)

/-- Changes parameters of a step; null unsets, and what is not mentioned stays. The step has
its parameters before the record shows them: where they are too long for it, the call fails
with the step changed, and nothing is announced. -/
def updateParamsWithin (limits : Json.Limits) (id : String) (changes : Table Json) :
    Edit Node := do
  let node ← findNode id
  let kept ← requireParams node.kind changes
  let params := node.params.merged kept
  replaceNode id fun node => { node with params := params }
  requireShown limits (.object params.pairs)
  note .debug s!"'{id}' params -> {(Json.object params.pairs).shown}"
  fire (.nodeUpdated id params.pairs)
  return { node with params := params }

def updateParams (id : String) (changes : Table Json) : Edit Node :=
  updateParamsWithin {} id changes

def applyHandlerWithin (limits : Json.Limits) (handler : Handler) (changes : Table Json) :
    Edit Node :=
  updateParamsWithin limits handler.nodeId changes

def applyHandler (handler : Handler) (changes : Table Json) : Edit Node :=
  applyHandlerWithin {} handler changes

def moveNode (id : String) (x y : Json) : Edit Node := do
  let node ← findNode id
  let position ← requirePosition x y
  replaceNode id fun node => { node with position := position }
  return { node with position := position }

def removeNode (id : String) : Edit Unit := do
  let _ ← findNode id
  Action.update fun s =>
    { s with
      graph :=
        { nodes := s.graph.nodes.filter fun node => node.id ≠ id
          edges := s.graph.edges.filter fun edge => edge.source ≠ id ∧ edge.target ≠ id }
      handlers := Table.erase s.handlers id }
  note .info s!"removed node '{id}'"
  fire (.nodeRemoved id)

/-- Connects two steps; if they are connected already, that edge is the result. -/
def connect (source target : String) : Edit Edge := do
  let _ ← findNode source
  let _ ← findNode target
  let s ← Action.read
  match s.graph.edgeBetween? source target with
  | some edge => return edge
  | none =>
    let edge := Edge.between source target
    Action.update fun s => { s with graph := { s.graph with edges := s.graph.edges ++ [edge] } }
    note .debug s!"connected '{source}' -> '{target}'"
    fire (.edgeAdded edge.id source target)
    return edge

def removeEdge (id : String) : Edit Unit := do
  let s ← Action.read
  match s.graph.edge? id with
  | none => Action.fail (.unknownEdge id)
  | some edge =>
    Action.update fun s => { s with graph := { s.graph with edges := s.graph.edges.erase edge } }
    fire (.edgeRemoved id)

/-- Starts over with a lone start step. The counter goes on. -/
def clear : Edit Unit := do
  Action.update fun s => { s with graph := initialGraph, handlers := bindAll initialGraph }
  note .info "flow cleared"
  fire .cleared

def rename (name : String) : Edit Unit := Action.update fun s => { s with name := name }

def compileWithin (limits : Json.Limits) (headless : Toggle) : Edit String := do
  let s ← Action.read
  Action.ofJournaled Failure.ofCompiling (s.graph.compileWithin limits headless)

def compile (headless : Toggle) : Edit String := compileWithin {} headless

def order : Edit (List String) := do
  let s ← Action.read
  let nodes ← Action.ofJournaled (fun _ => .noStart) s.graph.linearize
  return nodes.map Node.id

def generateWithin (limits : Json.Limits) (headless : Toggle) : Edit String := do
  let script ← compileWithin limits headless
  fire (.generated headless)
  return script

def generate (headless : Toggle) : Edit String := generateWithin {} headless

/-- Everything that saving does before the store is called: a name that is not
blank is required, the flow is compiled, and its present state is captured. -/
def prepareSaveWithin (limits : Json.Limits) : Edit SaveRequest := do
  let s ← Action.read
  if Text.allBlank s.name.toList then Action.fail .emptyName
  else
    let script ← compileWithin limits (Toggle.ofBool true)
    return ⟨s.name, script, s.graph.nodes, s.graph.edges⟩

def prepareSave : Edit SaveRequest := prepareSaveWithin {}

def finishSave (name : String) (answer : Except Failure Json) : Edit Json :=
  match answer with
  | .error failure => do
    note .error s!"saving '{name}' failed"
    Action.fail failure
  | .ok value => do
    note .info s!"saved script '{name}'"
    fire (.saved name)
    return value

def saveWithin {τ : Type} (limits : Json.Limits)
    (store : SaveRequest → Action τ Event Failure Json) :
    Action (Session × τ) Event Failure Json := do
  let request ← Action.onFirst (prepareSaveWithin limits)
  let answer ← Action.attempt (Action.onSecond (store request))
  Action.onFirst (finishSave request.name answer)

def save {τ : Type} (store : SaveRequest → Action τ Event Failure Json) :
    Action (Session × τ) Event Failure Json :=
  saveWithin {} store

def finishRun (headless : Toggle) (answer : Except Failure Json) : Edit Json :=
  match answer with
  | .error failure => do
    note .error "running script failed"
    Action.fail failure
  | .ok value => do
    note .info s!"script handed to runner (headless={headless.shown})"
    fire (.ran headless)
    return value

def runScriptWithin {τ : Type} (limits : Json.Limits)
    (runner : String → Action τ Event Failure Json) (headless : Toggle) :
    Action (Session × τ) Event Failure Json := do
  let script ← Action.onFirst (compileWithin limits headless)
  let answer ← Action.attempt (Action.onSecond (runner script))
  Action.onFirst (finishRun headless answer)

def runScript {τ : Type} (runner : String → Action τ Event Failure Json) (headless : Toggle) :
    Action (Session × τ) Event Failure Json :=
  runScriptWithin {} runner headless

def importWithin (limits : Json.Limits) (document : Json) : Edit Graph := do
  let g ← Action.ofJournaled Failure.ofRefusal (Document.importWithin limits document)
  Action.update fun s => { s with graph := g, handlers := bindAll g }
  note .info s!"imported {g.nodes.length} node(s), {g.edges.length} edge(s)"
  fire (.imported g.nodes.length g.edges.length)
  return g

def importDocument (document : Json) : Edit Graph := importWithin {} document

end Session

end BrowserFlow.Editor
