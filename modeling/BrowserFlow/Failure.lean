import BrowserFlow.Document.Limits
import BrowserFlow.Script.Compile

/-!
# Failures

Every way in which an operation of the editor, the store or the service can fail,
by its cause. A collaborator, the store or the runner of scripts, can raise any
failure, also one of the kinds that the editor knows; of such a failure only its
kind and its text are known, and it may have no text that can be shown.
-/

namespace BrowserFlow

/-- What sort of failure it is. Sorts that only collaborators raise go by a name. -/
inductive FailureKind where
  | invalidDocument
  | invalidParams
  | noStart
  | emptyName
  | unknownNode
  | unknownEdge
  | unknownSession
  | noRunner
  /-- A failure of the editor that is of no special sort. -/
  | unspecific
  | other (name : String)
deriving DecidableEq, Repr

/-- A failure of a collaborator; `text` is none if it has none that can be shown. -/
structure Raised where
  kind : FailureKind
  text : Option String
deriving DecidableEq, Repr

/-- Why an operation failed. -/
inductive Failure where
  | invalidDocument (fault : Document.Fault)
  | beyondLimit (excess : Json.Excess)
  /-- No kind has the name that is shown. -/
  | unknownKind (shown : String)
  | invalidValue (fault : ValueFault)
  | noStart
  /-- Statements of the user's own are no text. -/
  | ownStatements (typeName : String)
  | emptyName
  | unknownNode (id : String)
  | unknownEdge (id : String)
  | unknownSession (id : String)
  | noRunner
  | raised (raised : Raised)
deriving DecidableEq, Repr

/-- What sort of failure an excess is. Too many digits are a matter of the value,
and too deep a nesting one of the reader. -/
def Json.Excess.kind : Json.Excess → FailureKind
  | .digits _ _ | .written _ => .other "ValueError"
  | .listDepth | .objectDepth | .nested | .copyDepth => .other "RecursionError"

def Json.Refusal.kind : Json.Refusal → FailureKind
  | .malformed _ => .other "JSONDecodeError"
  | .beyond excess => excess.kind

namespace Failure

def ofRefusal : Document.Refusal → Failure
  | .faulty fault => invalidDocument fault
  | .beyond excess => beyondLimit excess

def ofWriting : Script.Fault → Failure
  | .notText typeName => ownStatements typeName
  | .beyond excess => beyondLimit excess

def ofCompiling : CompileFault → Failure
  | .noStart => noStart
  | .unshown excess => beyondLimit excess
  | .unwritten fault => ofWriting fault

def kind : Failure → FailureKind
  | invalidDocument _ => .invalidDocument
  | beyondLimit excess => excess.kind
  | unknownKind _ | invalidValue _ => .invalidParams
  | noStart => .noStart
  | ownStatements _ => .other "AttributeError"
  | emptyName => .emptyName
  | unknownNode _ => .unknownNode
  | unknownEdge _ => .unknownEdge
  | unknownSession _ => .unknownSession
  | noRunner => .noRunner
  | raised r => r.kind

def message : Failure → String
  | invalidDocument fault => fault.message
  | beyondLimit excess => excess.message
  | unknownKind shown => s!"unknown node kind '{shown}'"
  | invalidValue fault => fault.message
  | noStart => "graph has no start node"
  | ownStatements typeName => s!"'{typeName}' object has no attribute 'splitlines'"
  | emptyName => "script name must not be empty"
  | unknownNode id => s!"node '{id}' not found"
  | unknownEdge id => s!"edge '{id}' not found"
  | unknownSession id => s!"session '{id}' not found"
  | noRunner => "no script runner configured (FLOWSCRIPT_RUNNER_URL)"
  | raised r => r.text.getD ""

def hasMessage : Failure → Bool
  | raised r => r.text.isSome
  | _ => true

end Failure

/-- A failure that a collaborator raises with one argument, or with none. Failures
of looking something up show their argument in their own way, and cannot be shown
without one; those that have a standard message show it when there is no argument. -/
def Raised.make (kind : FailureKind) (argument : Option String) : Raised :=
  let text := match kind with
    | .unknownNode => argument.map fun id => (Failure.unknownNode id).message
    | .unknownEdge => argument.map fun id => (Failure.unknownEdge id).message
    | .unknownSession => argument.map fun id => (Failure.unknownSession id).message
    | .noStart => some (argument.getD Failure.noStart.message)
    | .emptyName => some (argument.getD Failure.emptyName.message)
    | .other "KeyError" =>
      some ((argument.map fun key => String.ofList (Text.quoted key.toList)).getD "")
    | _ => some (argument.getD "")
  ⟨kind, text⟩

end BrowserFlow
