import BrowserFlow.Text.Split

/-!
# Endpoints of the service

A path consists of words and of ids. Each path has its own methods, and a path with
a method is an endpoint. Paths come decoded, so that an encoded slash separates like
any other.
-/

namespace BrowserFlow.Service

/-- What can be asked of the service, with the ids that the path names. -/
inductive Endpoint where
  | health
  | kinds
  | scripts
  | compile
  | openSession
  | showSession (session : String)
  | closeSession (session : String)
  | rename (session : String)
  | addNode (session : String)
  | changeNode (session node : String)
  | removeNode (session node : String)
  | addEdge (session : String)
  | removeEdge (session edge : String)
  | clear (session : String)
  | generate (session : String)
  | save (session : String)
  | run (session : String)
  | download (session : String)
  | load (session : String)
deriving DecidableEq, Repr

def endpointsAt : List String → List (String × Endpoint)
  | ["health"] => [("GET", .health)]
  | ["api", "node-types"] => [("GET", .kinds)]
  | ["api", "scripts"] => [("GET", .scripts)]
  | ["api", "compile"] => [("POST", .compile)]
  | ["api", "sessions"] => [("POST", .openSession)]
  | ["api", "sessions", id] => [("GET", .showSession id), ("DELETE", .closeSession id)]
  | ["api", "sessions", id, "name"] => [("PUT", .rename id)]
  | ["api", "sessions", id, "nodes"] => [("POST", .addNode id)]
  | ["api", "sessions", id, "nodes", node] =>
    [("PATCH", .changeNode id node), ("DELETE", .removeNode id node)]
  | ["api", "sessions", id, "edges"] => [("POST", .addEdge id)]
  | ["api", "sessions", id, "edges", edge] => [("DELETE", .removeEdge id edge)]
  | ["api", "sessions", id, "clear"] => [("POST", .clear id)]
  | ["api", "sessions", id, "generate"] => [("POST", .generate id)]
  | ["api", "sessions", id, "save"] => [("POST", .save id)]
  | ["api", "sessions", id, "run"] => [("POST", .run id)]
  | ["api", "sessions", id, "export"] => [("GET", .download id)]
  | ["api", "sessions", id, "import"] => [("POST", .load id)]
  | _ => []

def dropLineEnd (cs : List Char) : List Char := if cs.getLast? = some '\n' then cs.dropLast else cs

/-- The parts of a path after the slash at its front, none of which is empty. -/
def pathParts (cs : List Char) : Option (List String) :=
  match Text.splitOn '/' cs with
  | [] :: parts => if parts.contains [] then none else some (parts.map String.ofList)
  | _ => none

/-- The endpoints of a decoded path. A line end after the last word of a path does
not count. -/
def endpointsOf (cs : List Char) : List (String × Endpoint) :=
  match ((pathParts cs).map endpointsAt).getD [] with
  | [] => ((pathParts (dropLineEnd cs)).map endpointsAt).getD []
  | endpoints => endpoints

inductive Destination where
  | endpoint (endpoint : Endpoint)
  /-- The path is known, but not with this method. -/
  | otherMethod
  /-- The path is known without the slashes at its end. -/
  | otherPath
  | nowhere
deriving DecidableEq, Repr

def dropSlashes (cs : List Char) : List Char := (cs.reverse.dropWhile (· = '/')).reverse

def destination (method : String) (path : List Char) : Destination :=
  match endpointsOf path with
  | [] =>
    if path.getLast? = some '/' ∧ endpointsOf (dropSlashes path) ≠ [] then .otherPath else .nowhere
  | endpoints =>
    match endpoints.find? fun entry => entry.1 = method with
    | some entry => .endpoint entry.2
    | none => .otherMethod

end BrowserFlow.Service
