import BrowserFlow.Flow.Params
import BrowserFlow.Json.Reader
import BrowserFlow.Text.Utf8

/-!
# What can be wrong with a document

Faults of values that a document or an editing request gives to a step, and faults
of whole documents, each with its message.
-/

namespace BrowserFlow

/-- A value that a step cannot take. `place` says where the value was found. -/
inductive ValueFault where
  /-- A parameter of the wrong type. -/
  | param (place : String) (field : Field)
  /-- A coordinate that is not a number. -/
  | position (place : String)
deriving DecidableEq, Repr

def ValueType.demand : ValueType → String
  | .text => "a string"
  | .millis => "a non-negative integer"
  | .mode => "'element' or 'time'"

def ValueFault.message : ValueFault → String
  | .param place field => s!"{place}.{field.name} must be {field.valueType.demand}"
  | .position place => s!"{place}.x/y must be numbers"

namespace Document

/-- The two lists of a document. -/
inductive Part where
  | nodes
  | edges
deriving DecidableEq, Repr

def Part.key : Part → String
  | nodes => "nodes"
  | edges => "edges"

def Part.entryName : Part → String
  | nodes => "node"
  | edges => "edge"

def Part.place (part : Part) (index : Nat) : String := s!"{part.key}[{index}]"

/-- Why a document is refused. -/
inductive Fault where
  /-- The document is not an object. -/
  | notDocument
  /-- A required key is missing at a place. -/
  | missing (place key : String)
  /-- One of the two lists is not a list. -/
  | notList (part : Part)
  /-- An entry is not an object. -/
  | notEntry (part : Part) (index : Nat)
  /-- A value that has to be text is not. -/
  | notText (place key : String)
  /-- A value that has to be an object is not. -/
  | notObject (place key : String)
  /-- An id occurs a second time. -/
  | repeatedId (part : Part) (index : Nat) (id : String)
  /-- No kind has this name. -/
  | unknownKind (index : Nat) (name : String)
  /-- A parameter or a position does not hold what it should. -/
  | value (fault : ValueFault)
  /-- An edge names a step that the document does not have. -/
  | noSuchNode (index : Nat) (key id : String)
  /-- The file is not text. -/
  | notUtf8 (path : String) (fault : Text.Encoding.Fault)
  /-- The text of the file is not a value. -/
  | notJson (path : String) (fault : Json.ReadFault)
deriving DecidableEq, Repr

def Fault.message : Fault → String
  | .notDocument => "graph document must be a JSON object at the top level"
  | .missing place key => s!"{place}: missing required field '{key}'"
  | .notList part => s!"{part.key} must be a list"
  | .notEntry part index => s!"{part.place index}: each {part.entryName} must be a JSON object"
  | .notText place key => s!"{place}.{key} must be a string"
  | .notObject place key => s!"{place}.{key} must be an object"
  | .repeatedId part index id => s!"{part.place index}: duplicate {part.entryName} id '{id}'"
  | .unknownKind index name => s!"{Part.nodes.place index}: unknown node kind '{name}'"
  | .value fault => fault.message
  | .noSuchNode index key id => s!"{Part.edges.place index}: {key} '{id}' not found in nodes"
  | .notUtf8 path fault => s!"{path}: not UTF-8 text ({fault.message})"
  | .notJson path fault => s!"{path}: not valid JSON ({fault.message})"

end Document

end BrowserFlow
