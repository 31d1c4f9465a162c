import BrowserFlow.Service.Body
import BrowserFlow.Service.Endpoint

/-!
# Operations of the service

An operation is an endpoint together with everything that it takes from the body of
the request. A body that does not fit its endpoint gives no operation, and then it
does not matter whether the session exists.
-/

namespace BrowserFlow.Service

inductive Operation where
  | health
  | kinds
  | scripts
  | compile (document : Json) (headless : Bool)
  | openSession (name : Option String)
  | showSession (session : String)
  | closeSession (session : String)
  | rename (session name : String)
  | addNode (session kind : String) (position params : Option (Table Json))
  | changeNode (session node : String) (params position : Option (Table Json))
  | removeNode (session node : String)
  | connect (session source target : String)
  | removeEdge (session edge : String)
  | clear (session : String)
  | generate (session : String) (headless : Bool)
  | save (session : String) (name : Option String)
  | run (session : String) (headless : Bool)
  | download (session : String)
  | load (session : String) (document : Json)

namespace Operation

/-- The operation of an endpoint with a body. Endpoints that take nothing do not
look at it. -/
def ofRequest (endpoint : Endpoint) (body : Body) : Except BodyFault Operation :=
  match endpoint with
  | .health => .ok health
  | .kinds => .ok kinds
  | .scripts => .ok scripts
  | .compile => body.required fun fields =>
    compile <$> requiredField fields "document" .fits <*> switchField fields "headless" true
  | .openSession => body.optional (openSession none) fun fields =>
    openSession <$> optionalField fields "scriptName" asText
  | .showSession id => .ok (showSession id)
  | .closeSession id => .ok (closeSession id)
  | .rename id => body.required fun fields =>
    rename id <$> requiredField fields "scriptName" asText
  | .addNode id => body.required fun fields =>
    addNode id <$> requiredField fields "kind" asText
      <*> optionalField fields "position" asPosition <*> optionalField fields "params" asObject
  | .changeNode id node => body.required fun fields =>
    changeNode id node <$> optionalField fields "params" asObject
      <*> optionalField fields "position" asPosition
  | .removeNode id node => .ok (removeNode id node)
  | .addEdge id => body.required fun fields =>
    connect id <$> requiredField fields "sourceNodeId" asText
      <*> requiredField fields "targetNodeId" asText
  | .removeEdge id edge => .ok (removeEdge id edge)
  | .clear id => .ok (clear id)
  | .generate id => body.optional (generate id true) fun fields =>
    generate id <$> switchField fields "headless" true
  | .save id => body.optional (save id none) fun fields =>
    save id <$> optionalField fields "name" asText
  | .run id => body.optional (run id false) fun fields =>
    run id <$> switchField fields "headless" false
  | .download id => .ok (download id)
  | .load id => body.readValue fun v => .fits (load id v)

end Operation

end BrowserFlow.Service
