import BrowserFlow.Host.Label
import BrowserFlow.Text.Split

/-!
# Names of hosts

The HTTP client that sends a request brings the name of its host into ASCII, or refuses it.
A name is a sequence of labels with points between them, and one more point after the
last label if the name is rooted. Some scripts have points of their own.
-/

namespace BrowserFlow.Host

def points : List Char := ['.', '\u3002', '\uff0e', '\uff61']

def labels (name : List Char) : List (List Char) × Bool :=
  let parts := Text.splitOn '.' (name.map fun c => if points.contains c then '.' else c)
  if parts.getLast? = some [] then (parts.dropLast, true) else (parts, false)

def joined (labels : List (List Char)) (isRooted : Bool) : List Char :=
  ['.'].intercalate (if isRooted then labels ++ [[]] else labels)

def nameLimit (isRooted : Bool) : Nat := if isRooted then 254 else 253

def mapLabels (change : List Char → Except Fault (List Char)) (name : List Char) :
    Except Fault (List Char × Bool) := do
  if name.isEmpty then .error .emptyName
  else if nameLimit true < name.length then .error .nameTooLong
  else
    let (parts, isRooted) := labels name
    return (joined (← parts.mapM change) isRooted, isRooted)

def nameToAscii (name : List Char) : Except Fault (List Char) := do
  let (ascii, isRooted) ← mapLabels toAscii name
  if nameLimit isRooted < ascii.length then .error .nameTooLong else .ok ascii

def nameOfAscii (ascii : List Char) : Except Fault (List Char) := do
  return (← mapLabels ofAscii ascii).1

end BrowserFlow.Host
