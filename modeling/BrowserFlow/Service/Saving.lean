import BrowserFlow.Editor.Session
import BrowserFlow.Service.Reply

/-!
# Saving on request

A request to save may bring a name for the script. Saving has two halves with the
store in between, which takes its time: other requests may be served to the same
session before the second half runs. What the store gets is settled in the first
half, and the second half tells what came of it.
-/

namespace BrowserFlow.Service

open Editor (Session SaveRequest Edit Event)

/-- The first half: the script gets the name that the request brings, and what the
store needs is put together. -/
def beginSave (name : Option String) : Edit SaveRequest := do
  match name with
  | some name => Session.rename name
  | none => pure ()
  Session.prepareSave

def finishSave (saved : String) (answer : Except Failure Json) : Edit Reply := do
  let value ← Session.finishSave saved answer
  let s ← Action.read
  return .ok (.object [("name", .text s.name), ("result", value)])

def saveScript {τ : Type} (store : SaveRequest → Action τ Event Failure Json)
    (name : Option String) : Action (Session × τ) Event Failure Reply := do
  let request ← Action.onFirst (beginSave name)
  let answer ← Action.attempt (Action.onSecond (store request))
  Action.onFirst (finishSave request.name answer)

end BrowserFlow.Service
