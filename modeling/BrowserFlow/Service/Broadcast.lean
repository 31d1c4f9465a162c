import BrowserFlow.Editor.Event

/-!
# Broadcasts

Whatever a session announces is sent on to everyone who watches it: to the room
that has the id of the session as its name. Sending takes place later, and a
failure to send is recorded and goes no further. Where there is nothing that could
send later, the event is dropped.
-/

namespace BrowserFlow.Service

/-- A message to a room. -/
structure Broadcast where
  payload : Table Json
deriving DecidableEq

namespace Broadcast

def eventName : String := "session_event"

/-- The room of a message, null if the event has no session. -/
def room (b : Broadcast) : Json := (Table.get? b.payload "sessionId").getD .null

def label (b : Broadcast) : String := s!"{Editor.Listener.shownType b.payload}->{b.room.shown}"

def schedule (canSend : Bool) (payloads : List (Table Json)) : List Broadcast :=
  if canSend then payloads.map Broadcast.mk else []

def droppedRecords (canSend : Bool) (payloads : List (Table Json)) : List Record :=
  if canSend then []
  else payloads.map fun payload =>
    ⟨.debug, .broadcast,
      s!"no running loop; dropping {Editor.Listener.shownType payload} broadcast"⟩

def failureRecord (b : Broadcast) (reason : String) : Record :=
  ⟨.error, .broadcast, s!"broadcast {b.label} failed: {reason}"⟩

end Broadcast

end BrowserFlow.Service
