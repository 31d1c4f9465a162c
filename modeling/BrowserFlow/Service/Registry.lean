import BrowserFlow.Editor.Session
import BrowserFlow.Text.Quoted

/-!
# The sessions of a service

A registry keeps the open sessions by their ids. Each session owns its flow; the
registry opens sessions, finds them and closes them, and runs operations on the
session of an id. Ids are numbered, so a closed session's id is not given again.
-/

namespace BrowserFlow.Service

open Editor (Session Listener Event Edit)

/-- An event together with the session that announced it. -/
structure Notice where
  sessionId : String
  event : Event
deriving DecidableEq

def Notice.payload (notice : Notice) : Table Json := notice.event.payload notice.sessionId

/-- The open sessions, what every new session gets for listeners, and how many
sessions have been opened so far. -/
structure Registry where
  sessions : Table Session := []
  listeners : List Listener := []
  opened : Nat := 0

abbrev RegistryAction (α : Type) := Action Registry Notice Failure α

namespace Registry

/-- The id of the `n`-th session, with as many digits as a random one would have. -/
def sessionId (n : Nat) : String := String.ofList (Text.hexDigits 32 n)

/-- The name of a new script; an empty one counts as none. -/
def nameOrDefault (name : Option String) : String :=
  match name with
  | none | some "" => Editor.defaultName
  | some given => given

def create (name : Option String) : RegistryAction Session := do
  let r ← Action.read
  let s := Session.create (sessionId (r.opened + 1)) (nameOrDefault name) r.listeners
  let sessions := Table.set r.sessions s.id s
  Action.update fun r => { r with sessions := sessions, opened := r.opened + 1 }
  Action.note .info .registry s!"session {s.id} opened ({sessions.length} active)"
  return s

def find (id : String) : RegistryAction Session := do
  let r ← Action.read
  match Table.get? r.sessions id with
  | some s => return s
  | none => Action.fail (.unknownSession id)

def close (id : String) : RegistryAction Unit := do
  let _ ← find id
  Action.update fun r => { r with sessions := Table.erase r.sessions id }
  Action.note .info .registry s!"session {id} closed"

/-- Runs an operation on the session of an id, and on a state that it needs beside
the session. -/
def onSession {τ α : Type} (id : String) (x : Action (Session × τ) Event Failure α) :
    Action (Registry × τ) Notice Failure α := fun (r, t) =>
  match Table.get? r.sessions id with
  | none => ⟨(r, t), [], [], .error (.unknownSession id)⟩
  | some s =>
    let outcome := x (s, t)
    { state := ({ r with sessions := Table.set r.sessions id outcome.state.1 }, outcome.state.2)
      events := outcome.events.map (Notice.mk id)
      records := outcome.records
      result := outcome.result }

theorem onSession_of_none {τ α : Type} {r : Registry} {id : String}
    (h : Table.get? r.sessions id = none) (x : Action (Session × τ) Event Failure α) (t : τ) :
    onSession id x (r, t) = ⟨(r, t), [], [], .error (.unknownSession id)⟩ := by
  simp [onSession, h]

theorem onSession_of_some {τ α : Type} {r : Registry} {id : String} {s : Session}
    (h : Table.get? r.sessions id = some s) (x : Action (Session × τ) Event Failure α) (t : τ) :
    onSession id x (r, t) =
      ⟨({ r with sessions := Table.set r.sessions id (x (s, t)).state.1 }, (x (s, t)).state.2),
        (x (s, t)).events.map (Notice.mk id), (x (s, t)).records, (x (s, t)).result⟩ := by
  simp [onSession, h]

def edit {τ α : Type} (id : String) (x : Edit α) : Action (Registry × τ) Notice Failure α :=
  onSession id (Action.onFirst x)

end Registry

end BrowserFlow.Service
