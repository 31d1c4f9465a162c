import BrowserFlow.Document.Check
import BrowserFlow.Document.Export

/-!
# Documents within limits

A document is copied in the present form before it is checked, so one whose entries
are nested too deep is refused without a look at them. Short of the limits,
`checkWithin` is `check`, `importWithin` is `importGraph` and `dumpWithin` is `dump`.
-/

namespace BrowserFlow.Document

/-- Why a document is not taken: it is faulty, or it goes beyond the limits. -/
inductive Refusal where
  | faulty (fault : Fault)
  | beyond (excess : Json.Excess)
deriving DecidableEq, Repr

def Refusal.message : Refusal → String
  | .faulty fault => fault.message
  | .beyond excess => excess.message

/-- How deep the copying of a document goes, of which its two lists are copied in the
present form; zero if it does not have them. -/
def copyDepth (document : Json) : Nat :=
  match document.field? "nodes", document.field? "edges" with
  | some (.list nodes), some (.list edges) => (Legacy.modernise nodes edges).copyDepth
  | _, _ => 0

def fits (limits : Json.Limits) (document : Json) : Bool :=
  Json.Limits.allows limits.copied (copyDepth document)

def checkWithin (limits : Json.Limits) (document : Json) : Journaled Refusal Checked :=
  if fits limits document then (check document).mapError .faulty
  else .fail (.beyond .copyDepth)

def importWithin (limits : Json.Limits) (document : Json) : Journaled Refusal Graph :=
  if fits limits document then (importGraph document).mapError .faulty
  else .fail (.beyond .copyDepth)

/-- The text of the document of a flow, if the limits let its numbers be written. -/
def dumpWithin (limits : Json.Limits) (g : Graph) (indent : Json.Indent) :
    Except Json.Excess String := do
  Json.checkWritten limits g.toJson
  return g.dump indent

theorem checkWithin_of_fits {limits : Json.Limits} {document : Json}
    (h : fits limits document = true) :
    checkWithin limits document = (check document).mapError .faulty := if_pos h

theorem importWithin_of_fits {limits : Json.Limits} {document : Json}
    (h : fits limits document = true) :
    importWithin limits document = (importGraph document).mapError .faulty := if_pos h

@[simp] theorem fits_unlimited (document : Json) : fits {} document = true := rfl

end BrowserFlow.Document
