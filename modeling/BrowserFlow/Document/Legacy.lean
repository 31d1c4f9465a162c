import BrowserFlow.Json.Basic

/-!
# Documents of the earlier canvas editor

An earlier editor wrote steps with `type` and a `data` object, under other names
for the parameters of a wait and with keys that only concerned its display, and
edges with `source` and `target`. `modernise` brings such entries into the present
form; all other values stay as they are, so that checking can refuse them with its
own messages.
-/

namespace BrowserFlow.Document.Legacy

/-- The parameters under their old names, with the names they have now. -/
def paramNames : Table String := [
  ("url", "url"), ("selector", "selector"), ("value", "value"), ("code", "code"),
  ("elementType", "waitMode"), ("wait", "waitMillis"), ("timeout", "timeoutMillis")]

/-- The parameters among the entries of a `data` value; none if that is no object. -/
def params (data : Json) : Table Json :=
  match data with
  | .object entries =>
    entries.filterMap fun entry => (Table.get? paramNames entry.1).map fun name => (name, entry.2)
  | _ => []

def optional (fields : Table Json) (key : String) : Table Json :=
  match Table.get? fields key with
  | some v => [(key, v)]
  | none => []

def fieldOrNull (fields : Table Json) (key : String) : Json := (Table.get? fields key).getD .null

/-- A step of the old form has a `type` and no `kind`. -/
def modernNode (node : Json) : Json :=
  match node with
  | .object fields =>
    match Table.get? fields "kind", Table.get? fields "type" with
    | none, some kind =>
      .object ([("id", fieldOrNull fields "id"), ("kind", kind),
        ("params", .object (params (fieldOrNull fields "data")))] ++ optional fields "position")
    | _, _ => node
  | _ => node

/-- An edge of the old form has a `source` and no `sourceNodeId`. -/
def modernEdge (edge : Json) : Json :=
  match edge with
  | .object fields =>
    match Table.get? fields "sourceNodeId", Table.get? fields "source" with
    | none, some source =>
      .object ([("sourceNodeId", source), ("targetNodeId", fieldOrNull fields "target")] ++
        optional fields "id")
    | _, _ => edge
  | _ => edge

def modernise (nodes edges : List Json) : Json :=
  .object [("nodes", .list (nodes.map modernNode)), ("edges", .list (edges.map modernEdge))]

end BrowserFlow.Document.Legacy
