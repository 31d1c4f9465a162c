import BrowserFlow.Document.Fault
import BrowserFlow.Document.Legacy
import BrowserFlow.Flow.Graph
import BrowserFlow.Journal

/-!
# Checking documents

`Document.check` reads a value as a document: two lists of entries, the steps with
distinct ids, kinds that exist and proper parameters and positions, the edges
between steps of the document with distinct ids of their own. Entries of the old
form are read as well. A checked document holds, entry by entry, both what was
read and the object it was read from, completed by the parameters and edge ids
that were left out and freed of unknown parameters. Each unknown parameter is
reported by a warning, also when a later entry turns out to be faulty.
-/

namespace BrowserFlow.Document

/-- Keeps the parameters that a kind has. An unknown one is dropped with a warning;
one that cannot hold its value is a fault. -/
def checkParams (place : String) (kind : Kind) : Table Json → Journaled ValueFault (Table Json)
  | [] => pure []
  | (key, v) :: rest =>
    match kind.shape.field? key with
    | none => do
      .note .warning .checking s!"{place}: dropping unknown param '{key}' for kind '{kind.name}'"
      checkParams place kind rest
    | some field => do
      .require (field.accepts v) (.param place field)
      let kept ← checkParams place kind rest
      return (key, v) :: kept

def checkPosition (place : String) (x y : Json) : Except ValueFault Position :=
  if Position.isNumeric ⟨x, y⟩ then .ok ⟨x, y⟩ else .error (.position place)

/-- A step as it was read, and the object it was read from. -/
structure NodeEntry where
  node : Node
  fields : Table Json

/-- An edge as it was read, and the object it was read from. -/
structure EdgeEntry where
  edge : Edge
  fields : Table Json

def required (place key : String) (fields : Table Json) : Journaled Fault Json :=
  match Table.get? fields key with
  | some v => pure v
  | none => .fail (.missing place key)

def asText (place key : String) : Json → Journaled Fault String
  | .text s => pure s
  | _ => .fail (.notText place key)

def nodePosition (place : String) (fields : Table Json) : Journaled Fault Position :=
  match Table.get? fields "position" with
  | none => pure {}
  | some (.object coordinates) => do
    let inner := place ++ ".position"
    let x ← required inner "x" coordinates
    let y ← required inner "y" coordinates
    (Journaled.lift (checkPosition inner x y)).mapError .value
  | some _ => .fail (.notObject place "position")

def nodeParams (place : String) (kind : Kind) (fields : Table Json) :
    Journaled Fault (Table Json) :=
  match Table.get? fields "params" with
  | none => pure []
  | some (.object params) => (checkParams (place ++ ".params") kind params).mapError .value
  | some _ => .fail (.notObject place "params")

def checkNode (seen : List String) (index : Nat) (entry : Json) : Journaled Fault NodeEntry :=
  match entry with
  | .object fields => do
    let place := Part.nodes.place index
    let idValue ← required place "id" fields
    let kindValue ← required place "kind" fields
    let id ← asText place "id" idValue
    let kindName ← asText place "kind" kindValue
    .require (id ∉ seen) (.repeatedId .nodes index id)
    match Kind.ofName? kindName with
    | none => .fail (.unknownKind index kindName)
    | some kind => do
      let position ← nodePosition place fields
      let params ← nodeParams place kind fields
      return ⟨⟨id, kind, position, Params.ofPairs kind.shape params⟩,
        Table.set fields "params" (.object params)⟩
  | _ => .fail (.notEntry .nodes index)

def edgeEnd (nodeIds : List String) (index : Nat) (key : String) (v : Json) :
    Journaled Fault String := do
  let id ← asText (Part.edges.place index) key v
  .require (id ∈ nodeIds) (.noSuchNode index key id)
  return id

def checkEdge (nodeIds seen : List String) (index : Nat) (entry : Json) :
    Journaled Fault EdgeEntry :=
  match entry with
  | .object fields => do
    let place := Part.edges.place index
    let sourceValue ← required place "sourceNodeId" fields
    let targetValue ← required place "targetNodeId" fields
    let source ← edgeEnd nodeIds index "sourceNodeId" sourceValue
    let target ← edgeEnd nodeIds index "targetNodeId" targetValue
    let idValue := (Table.get? fields "id").getD (.text (Edge.defaultId source target))
    let id ← asText place "id" idValue
    .require (id ∉ seen) (.repeatedId .edges index id)
    return ⟨⟨id, source, target⟩, Table.set fields "id" idValue⟩
  | _ => .fail (.notEntry .edges index)

def checkNodes (seen : List String) (index : Nat) : List Json → Journaled Fault (List NodeEntry)
  | [] => pure []
  | entry :: rest => do
    let first ← checkNode seen index entry
    let others ← checkNodes (seen ++ [first.node.id]) (index + 1) rest
    return first :: others

def checkEdges (nodeIds seen : List String) (index : Nat) :
    List Json → Journaled Fault (List EdgeEntry)
  | [] => pure []
  | entry :: rest => do
    let first ← checkEdge nodeIds seen index entry
    let others ← checkEdges nodeIds (seen ++ [first.edge.id]) (index + 1) rest
    return first :: others

/-- A document that passed. -/
structure Checked where
  nodes : List NodeEntry
  edges : List EdgeEntry

def Checked.toJson (doc : Checked) : Json :=
  .object [("nodes", .list (doc.nodes.map fun entry => .object entry.fields)),
    ("edges", .list (doc.edges.map fun entry => .object entry.fields))]

def Checked.graph (doc : Checked) : Graph :=
  ⟨doc.nodes.map NodeEntry.node, doc.edges.map EdgeEntry.edge⟩

def entries (part : Part) : Json → Journaled Fault (List Json)
  | .list items => pure items
  | _ => .fail (.notList part)

def check (document : Json) : Journaled Fault Checked :=
  match document with
  | .object fields => do
    let nodesValue ← required "graph root" "nodes" fields
    let edgesValue ← required "graph root" "edges" fields
    let nodeItems ← entries .nodes nodesValue
    let edgeItems ← entries .edges edgesValue
    let nodes ← checkNodes [] 0 (nodeItems.map Legacy.modernNode)
    let edges ← checkEdges (nodes.map fun entry => entry.node.id) [] 0
      (edgeItems.map Legacy.modernEdge)
    return ⟨nodes, edges⟩
  | _ => .fail .notDocument

def importGraph (document : Json) : Journaled Fault Graph := do
  let doc ← check document
  .note .debug .importing
    s!"import_graph: {doc.nodes.length} node(s), {doc.edges.length} edge(s)"
  return doc.graph

end BrowserFlow.Document
