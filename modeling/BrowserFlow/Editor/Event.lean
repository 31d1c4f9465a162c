import BrowserFlow.Document.Export
import BrowserFlow.Failure
import BrowserFlow.Journal
import BrowserFlow.Script.Toggle

/-!
# Events of a session

A session announces what happens to its flow. Listeners receive each event as an
object with the type, the session and what the event is about. A listener that
fails is recorded and does not disturb the others, nor the edit itself.
-/

namespace BrowserFlow.Editor

/-- What happened in a session. -/
inductive Event where
  | nodeAdded (id : String) (kind : Kind)
  | nodeUpdated (id : String) (params : Table Json)
  | nodeRemoved (id : String)
  | edgeAdded (id source target : String)
  | edgeRemoved (id : String)
  | cleared
  | generated (headless : Toggle)
  | saved (name : String)
  | ran (headless : Toggle)
  | imported (nodes edges : Nat)
deriving DecidableEq

namespace Event

def type : Event → String
  | nodeAdded _ _ => "NODE_ADDED"
  | nodeUpdated _ _ => "NODE_UPDATED"
  | nodeRemoved _ => "NODE_REMOVED"
  | edgeAdded _ _ _ => "EDGE_ADDED"
  | edgeRemoved _ => "EDGE_REMOVED"
  | cleared => "GRAPH_CLEARED"
  | generated _ => "SCRIPT_GENERATED"
  | saved _ => "SCRIPT_SAVED"
  | ran _ => "SCRIPT_RUN"
  | imported _ _ => "GRAPH_IMPORTED"

def details : Event → Table Json
  | nodeAdded id kind => [("nodeId", .text id), ("kind", .text kind.name)]
  | nodeUpdated id params => [("nodeId", .text id), ("params", .object params)]
  | nodeRemoved id => [("nodeId", .text id)]
  | edgeAdded id source target =>
    [("edgeId", .text id), ("sourceNodeId", .text source), ("targetNodeId", .text target)]
  | edgeRemoved id => [("edgeId", .text id)]
  | cleared => []
  | generated headless => [("headless", headless.value)]
  | saved name => [("name", .text name)]
  | ran headless => [("headless", headless.value)]
  | imported nodes edges => [("nodes", .nat nodes), ("edges", .nat edges)]

def payload (sessionId : String) (event : Event) : Table Json :=
  [("type", .text event.type), ("sessionId", .text sessionId)] ++ event.details

end Event

/-- Someone who hears events, known by a name; `fails` if it breaks on each. -/
structure Listener where
  name : String
  fails : Bool := false
deriving DecidableEq, Repr

namespace Listener

/-- Stamps an object with the time, unless it bears a time already. -/
def stamp (now : Int) (payload : Table Json) : Table Json :=
  if Table.has payload "ts" then payload else payload ++ [("ts", .int now)]

def shownType (payload : Table Json) : String :=
  ((Table.get? payload "type").getD .null).shown

def deliver {α : Type} (listeners : List Listener) (item : α) : List (String × α) :=
  listeners.map fun listener => (listener.name, item)

def failureRecords (listeners : List Listener) (type : String) : List Record :=
  (listeners.filter Listener.fails).map fun _ =>
    ⟨.error, .listeners, s!"event listener failed on {type}"⟩

/-- Removes the first registration of a listener. -/
def leave (listeners : List Listener) (name : String) : List Listener :=
  listeners.eraseP fun listener => listener.name = name

end Listener

end BrowserFlow.Editor
