import BrowserFlow.Editor.Session

/-!
# Edits by values

Whoever edits a session may hand over any value for an id, a position or fields. A value
that is no text is the id of nothing, and fields may come as an object or as a list of
pairs. What else is handed over is refused when it is needed, after everything that
stands before it.
-/

namespace BrowserFlow

namespace Json

def typeFailure (message : String) : Failure := .raised ⟨.other "TypeError", some message⟩

def parts? : Json → Option (List Json)
  | .list items => some items
  | .text s => some (s.toList.map fun c => .text c.toString)
  | .object fields => some (fields.map fun field => .text field.1)
  | _ => none

def pairAt (index : Nat) (pair : Json) : Except Failure (String × Json) :=
  match pair.parts? with
  | none => .error (typeFailure
      s!"cannot convert dictionary update sequence element #{index} to a sequence")
  | some [key, value] =>
    match key with
    | .list _ | .object _ => .error (typeFailure s!"unhashable type: '{key.typeName}'")
    | _ => .ok (key.shown, value)
  | some parts => .error (.raised ⟨.other "ValueError",
      some (s!"dictionary update sequence element #{index} has length {parts.length}; "
        ++ "2 is required")⟩)

/-- The fields of an object, or of a list of pairs; of two pairs with one key the later
counts. -/
def asFields (v : Json) : Except Failure (Table Json) :=
  match v with
  | .object fields => .ok fields
  | v =>
    match v.parts? with
    | none => .error (typeFailure s!"'{v.typeName}' object is not iterable")
    | some pairs => do
      let fields ← pairs.zipIdx.mapM fun (pair, index) => pairAt index pair
      return fields.foldl (fun table field => Table.set table field.1 field.2) []

@[simp] theorem asFields_object (fields : Table Json) :
    asFields (.object fields) = .ok fields := rfl

end Json

namespace Editor.Session

def onNamed {α : Type} (unknown : String → Failure) (id : Json) (x : String → Edit α) : Edit α :=
  match id with
  | .text id => x id
  | v => Action.fail (unknown v.shown)

@[simp] theorem onNamed_text {α : Type} (unknown : String → Failure) (id : String)
    (x : String → Edit α) : onNamed unknown (.text id) x = x id := rfl

/-- The handler of a step. Lists and objects cannot be looked up. -/
def handlerOf (id : Json) : Edit Handler :=
  match id with
  | .list _ | .object _ => Action.fail (Json.typeFailure s!"unhashable type: '{id.typeName}'")
  | _ => onNamed .unknownNode id handlerFor

/-- Changes parameters through a handler. The step is looked up first. -/
def applyValueWithin (limits : Json.Limits) (handler : Handler) (changes : Json) :
    Edit Node := do
  let _ ← findNode handler.nodeId
  applyHandlerWithin limits handler (← Action.ofExcept changes.asFields)

def applyValue (handler : Handler) (changes : Json) : Edit Node :=
  applyValueWithin {} handler changes

/-- Adds a step. What is no position is refused once the parameters are in order. -/
def addValues (kind position params : Json) : Edit Node := do
  let found ← requireKind kind
  let fields ← if params.isBlank then pure [] else Action.ofExcept params.asFields
  match position with
  | .null => addNode kind none fields
  | .object coordinates => addNode kind (some coordinates) fields
  | v => do
    let _ ← requireParams found fields
    Action.fail (.raised
      ⟨.other "AttributeError", some s!"'{v.typeName}' object has no attribute 'x'"⟩)

def connectValues (source target : Json) : Edit Edge :=
  onNamed .unknownNode source fun source =>
    match target with
    | .text target => connect source target
    | v => do
      let _ ← findNode source
      Action.fail (.unknownNode v.shown)

end Editor.Session

end BrowserFlow
