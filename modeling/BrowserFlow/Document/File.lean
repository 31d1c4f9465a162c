import BrowserFlow.Document.Limits
import BrowserFlow.Text.Lines
import BrowserFlow.Text.Utf8

/-!
# Documents in files

A file is read as UTF-8 text whose line ends are folded into newlines, then as one
value, then as a document.
-/

namespace BrowserFlow.Document

def Refusal.ofReading (path : String) : Json.Refusal → Refusal
  | .malformed fault => .faulty (.notJson path fault)
  | .beyond excess => .beyond excess

def readFile (limits : Json.Limits) (path : String) (bytes : List UInt8) : Except Refusal Json := do
  let text ← (Text.Utf8.decode bytes).mapError fun fault => .faulty (.notUtf8 path fault)
  (Json.read limits (Text.foldLineEnds text)).mapError (.ofReading path)

def checkFile (limits : Json.Limits) (path : String) (bytes : List UInt8) :
    Journaled Refusal Checked := do
  let document ← Journaled.lift (readFile limits path bytes)
  checkWithin limits document

/-- Builds the flow that a file describes. The complete document is checked once
more on its way. -/
def loadFile (limits : Json.Limits) (path : String) (bytes : List UInt8) :
    Journaled Refusal Graph := do
  let doc ← checkFile limits path bytes
  importWithin limits doc.toJson

end BrowserFlow.Document
