import BrowserFlow.Service.Address
import BrowserFlow.Service.Operation
import BrowserFlow.Service.Registry
import BrowserFlow.Service.Saving
import BrowserFlow.Text.Case

/-!
# Answering requests

`answer` leads a request to its operation, performs it on the sessions and on what
lies outside of them, and gives the reply that is sent. It never fails: every
failure has a reply. Events are announced also when the reply cannot be sent.
-/

namespace BrowserFlow.Service

open Editor (Session SaveRequest Edit Event)

/-- What a service works with beside its sessions. The store and the runner share a
state `τ`; there may be no runner. Documents are taken within limits. -/
structure Collaborators (τ : Type) where
  save : SaveRequest → Action τ Event Failure Json
  names : τ → Except Failure (List Json)
  runner : Option (String → Action τ Event Failure Json)
  limits : Json.Limits := {}

structure Request where
  method : String
  path : List Char
  body : Body := .absent

/-- A request to an address. Its method may be written in letters of any case. -/
def Request.to (method address : String) (body : Body := .absent) :
    Except AddressFault Request := do
  let a ← Address.read address
  return { method := String.ofList (Text.upper method.toList), path := a.target, body }

/-- An operation of a service: on its sessions, and on what lies outside. -/
abbrev ServiceAction (τ α : Type) := Action (Registry × τ) Notice Failure α

def summary (s : Session) : Json :=
  .object [("id", .text s.id), ("scriptName", .text s.name), ("graph", s.graph.toJson)]

def kindSummary (kind : Kind) : Json :=
  .object [("kind", .text kind.name), ("color", .text kind.color),
    ("description", .text kind.description)]

def summaryAfter {α : Type} (x : Edit α) : Edit Reply := do
  let _ ← x
  return .ok (summary (← Action.read))

/-- Changes parameters and position of a step. Parameters come first, since only
they can be refused once the step is there. -/
def changeNode (id : String) (params position : Option (Table Json)) : Edit Node := do
  match params with
  | some changes =>
    let handler ← Session.handlerFor id
    let _ ← Session.applyHandler handler changes
  | none => pure ()
  match position with
  | some position =>
    let _ ← Session.moveNode id (Session.coordinate position "x") (Session.coordinate position "y")
  | none => pure ()
  Session.findNode id

def runScript {τ : Type} (runner : Option (String → Action τ Event Failure Json))
    (headless : Bool) : Action (Session × τ) Event Failure Reply :=
  match runner with
  | none => Action.fail .noRunner
  | some runner => do
    let value ← Session.runScript runner headless
    return .ok (.object [("result", value)])

def downloadReply (s : Session) : Reply :=
  { status := 200, content := .verbatim s.graph.toJson,
    download := some (Editor.exportFilename s.name) }

/-- The reply with the names of the saved scripts. Names that are no text, and a
store that cannot tell them, are internal errors. -/
def namesReply (names : Except Failure (List Json)) : Reply :=
  match names with
  | .error _ => .broken
  | .ok names => if names.all fun name => name.text?.isSome then .ok (.list names) else .broken

/-- The script of a document within limits, of which nothing is kept. No session stands
between the request and the document, so that it may be copied one step deeper. -/
def compileDocument (limits : Json.Limits) (document : Json) (headless : Bool) :
    Journaled Failure String := do
  let g ← (Document.importWithin limits.nearer document).mapError Failure.ofRefusal
  (g.compile headless).mapError Failure.ofCompiling

def scriptReply (script : String) : Reply := .ok (.object [("script", .text script)])

def perform {τ : Type} (c : Collaborators τ) : Operation → ServiceAction τ Reply
  | .health => do
    let (r, _) ← Action.read
    return .ok (.object [("status", .text "ok"), ("sessions", .nat r.sessions.length)])
  | .kinds => return .ok (.list (Kind.all.map kindSummary))
  | .scripts => do
    let (_, outside) ← Action.read
    return namesReply (c.names outside)
  | .compile document headless =>
    Action.ofJournaled id (scriptReply <$> compileDocument c.limits document headless)
  | .openSession name => do
    let s ← Action.onFirst (Registry.create name)
    return .created (summary s)
  | .showSession id => do
    let s ← Action.onFirst (Registry.find id)
    return .ok (summary s)
  | .closeSession id => do
    Action.onFirst (Registry.close id)
    return .done
  | .rename id name => Registry.edit id do
    Session.rename name
    let s ← Action.read
    return .ok (.object [("id", .text s.id), ("scriptName", .text s.name)])
  | .addNode id kind position params => Registry.edit id do
    let node ← Session.addNode (.text kind) position (params.getD [])
    return .created node.toJson
  | .changeNode id node params position => Registry.edit id do
    return .ok (← changeNode node params position).toJson
  | .removeNode id node => Registry.edit id do
    Session.removeNode node
    return .done
  | .connect id source target => Registry.edit id do
    return .created (← Session.connect source target).toJson
  | .removeEdge id edge => Registry.edit id do
    Session.removeEdge edge
    return .done
  | .clear id => Registry.edit id (summaryAfter Session.clear)
  | .generate id headless => Registry.edit id do
    return scriptReply (← Session.generate headless)
  | .save id name => Registry.onSession id (saveScript c.save name)
  | .run id headless => Registry.onSession id (runScript c.runner headless)
  | .download id => do
    let s ← Action.onFirst (Registry.find id)
    return downloadReply s
  | .load id document => Registry.edit id (summaryAfter (Session.importWithin c.limits document))

/-- What a request leads to: the state afterwards, what was announced and recorded
on the way, and the reply. -/
structure Exchange (τ : Type) where
  registry : Registry
  outside : τ
  notices : List Notice
  records : List Record
  reply : Reply

def Exchange.idle {τ : Type} (registry : Registry) (outside : τ) (reply : Reply) : Exchange τ :=
  { registry, outside, notices := [], records := [], reply }

def exchange {τ : Type} (c : Collaborators τ) (operation : Operation) (registry : Registry)
    (outside : τ) : Exchange τ :=
  let outcome := perform c operation (registry, outside)
  { registry := outcome.state.1
    outside := outcome.state.2
    notices := outcome.events
    records := outcome.records
    reply := match outcome.result with
      | .ok reply => reply.sent
      | .error failure => (Reply.failed failure).sent }

def fullExchange {τ : Type} (c : Collaborators τ) (request : Request) (registry : Registry)
    (outside : τ) : Exchange τ :=
  match destination request.method request.path with
  | .nowhere => .idle registry outside .notFound
  | .otherMethod => .idle registry outside .notAllowed
  | .otherPath => .idle registry outside .redirected
  | .endpoint endpoint =>
    match Operation.ofRequest endpoint request.body with
    | .error .unreadable => .idle registry outside .unreadable
    | .error (.misfits inputs) => .idle registry outside (Reply.unprocessable inputs).sent
    | .ok operation => exchange c operation registry outside

/-- Answers a request. One for the head of a reply gets no body. -/
def answer {τ : Type} (c : Collaborators τ) (request : Request) (registry : Registry)
    (outside : τ) : Exchange τ :=
  let e := fullExchange c request registry outside
  if request.method = "HEAD" then { e with reply := e.reply.withoutBody } else e

end BrowserFlow.Service
