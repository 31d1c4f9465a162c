import BrowserFlow.Flow.Graph
import BrowserFlow.Json.Printer

/-!
# Writing flows as documents

A document holds what a flow declares, and nothing of the session that edits it:
ids, kinds, positions and the parameters that are set, and the ids and ends of the
edges.
-/

namespace BrowserFlow

def Position.toJson (p : Position) : Json := .object [("x", p.x), ("y", p.y)]

def Node.toJson (node : Node) : Json :=
  .object [("id", .text node.id), ("kind", .text node.kind.name),
    ("position", node.position.toJson), ("params", .object node.params.pairs)]

def Edge.toJson (edge : Edge) : Json :=
  .object [("id", .text edge.id), ("sourceNodeId", .text edge.source),
    ("targetNodeId", .text edge.target)]

namespace Graph

def documentFields (g : Graph) : Table Json :=
  [("nodes", .list (g.nodes.map Node.toJson)), ("edges", .list (g.edges.map Edge.toJson))]

def toJson (g : Graph) : Json := .object g.documentFields

def dump (g : Graph) (indent : Json.Indent) : String := g.toJson.render indent

end Graph

end BrowserFlow
