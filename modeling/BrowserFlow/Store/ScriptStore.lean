import BrowserFlow.Document.Export
import BrowserFlow.Document.File
import BrowserFlow.Editor.Session
import BrowserFlow.Store.Folder
import BrowserFlow.Store.Slug

/-!
# The store of scripts

Each saved script has two files, `<slug>.py` with the script and `<slug>.json` with
its name and its document. Names that share a slug are told apart by the recorded
name: the second gets the slug with a number after it, and saving under a name
again overwrites the files of that name.
-/

namespace BrowserFlow.Store

open Editor (SaveRequest Event)

inductive StoreFault where
  /-- A document is not text. -/
  | notUtf8 (fault : Text.Encoding.Fault)
  /-- The text of a document gives no value. -/
  | refused (refusal : Json.Refusal)
  /-- A document has no fields to look a name up in. -/
  | notObject (document : Json)
  /-- The folder does not allow what is asked of it. -/
  | path (fault : PathFault) (path : Path)
  /-- What is to be written has no bytes. -/
  | unwritable (u : Text.Encoding.Unwritable)
  /-- A document has no text within the limits. -/
  | beyond (excess : Json.Excess)

namespace StoreFault

def pathFaultName : PathFault → String
  | .notFound => "FileNotFoundError"
  | .notFolder => "NotADirectoryError"
  | .isFolder => "IsADirectoryError"
  | .exists => "FileExistsError"
  | .nameTooLong => "OSError"
  | .nullCharacter => "ValueError"
  | .tooManyLevels => "RecursionError"

def raised : StoreFault → Raised
  | notUtf8 fault => ⟨.other "UnicodeDecodeError", some fault.message⟩
  | refused refusal => ⟨refusal.kind, some refusal.message⟩
  | notObject document =>
    ⟨.other "AttributeError", some s!"'{document.typeName}' object has no attribute 'get'"⟩
  | path fault place => ⟨.other (pathFaultName fault), some (fault.message place)⟩
  | unwritable u => ⟨.other "UnicodeEncodeError", some u.message⟩
  | beyond excess => ⟨excess.kind, some excess.message⟩

end StoreFault

def documentFile (slug : String) : String := slug ++ ".json"

def scriptFile (slug : String) : String := slug ++ ".py"

def readDocument (limits : Json.Limits) (bytes : List UInt8) : Except StoreFault Json := do
  let text ← (Text.Utf8.decode bytes).mapError StoreFault.notUtf8
  (Json.read limits (Text.foldLineEnds text)).mapError StoreFault.refused

/-- The slug that is tried for the `n`-th time, counted from one. -/
def candidate (base : String) (n : Nat) : String := if n ≤ 1 then base else s!"{base}-{n}"

/-- Whether a name can have a slug that belongs to `owner`. -/
def isUsable (name : String) (owner : Json) : Bool := owner == .null || owner == .text name

def storedDocument (request : SaveRequest) : Json :=
  .object (("name", .text request.name) :: (Graph.documentFields ⟨request.nodes, request.edges⟩))

/-- Documents are written with two spaces a level. -/
def storedText (request : SaveRequest) : String := (storedDocument request).render (Json.spaces 2)

def storedTextWithin (limits : Json.Limits) (request : SaveRequest) :
    Except Json.Excess String := do
  Json.checkText limits (storedDocument request)
  return storedText request

/-- A store that keeps its files in a directory of the working directory, and reads and
writes documents within limits. -/
structure ScriptStore where
  directory : Path
  limits : Json.Limits := {}

namespace ScriptStore

def entryFault (store : ScriptStore) (name : String) (fault : PathFault) : StoreFault :=
  .path fault (store.directory.join name)

/-- The document of a slug in the folder of the store; null if it has none. -/
def loadIn (store : ScriptStore) (folder : Folder) (slug : String) : Except StoreFault Json :=
  match (store.directory.join (documentFile slug)).fault?.or (nameFault? (documentFile slug)) with
  | some fault => .error (store.entryFault (documentFile slug) fault)
  | none =>
    match Table.get? folder (documentFile slug) with
    | some (.file bytes) => readDocument store.limits bytes
    | _ => .ok .null

/-- The name that the document of a slug records, the slug itself where it records
none; null if there is no document. -/
def ownerIn (store : ScriptStore) (folder : Folder) (slug : String) : Except StoreFault Json := do
  match ← store.loadIn folder slug with
  | .null => .ok .null
  | .object fields => .ok ((Table.get? fields "name").getD (.text slug))
  | document => .error (.notObject document)

/-- The first usable slug among those from the `n`-th on, looking at no more than
`fuel`. -/
def slugFrom (store : ScriptStore) (folder : Folder) (base name : String) :
    (fuel n : Nat) → Except StoreFault String
  | 0, n => .ok (candidate base n)
  | fuel + 1, n => do
    let owner ← store.ownerIn folder (candidate base n)
    if isUsable name owner then .ok (candidate base n)
    else store.slugFrom folder base name fuel (n + 1)

/-- The slug under which a name is saved. Each slug that is taken has a file of its
own, so one more is tried than the folder has entries. -/
def slugFor (store : ScriptStore) (folder : Folder) (name : String) : Except StoreFault String :=
  store.slugFrom folder (slug name) name (folder.length + 1) 1

def writeIn (store : ScriptStore) (folder : Folder) (name text : String) :
    Folder × Except StoreFault Unit :=
  match Table.get? folder name with
  | some (.folder _) => (folder, .error (store.entryFault name .isFolder))
  | _ =>
    let (file, unwritable) := Entry.writing text
    (Table.set folder name file,
      match unwritable with
      | none => .ok ()
      | some u => .error (.unwritable u))

/-- Writes script and document of a request. The script is there before the text of the
document is made; what was written before a fault remains. -/
def writeBoth (store : ScriptStore) (folder : Folder) (request : SaveRequest) :
    Folder × Except StoreFault String :=
  match store.slugFor folder request.name with
  | .error fault => (folder, .error fault)
  | .ok slug =>
    match store.writeIn folder (scriptFile slug) request.script with
    | (left, .error fault) => (left, .error fault)
    | (withScript, .ok ()) =>
      match storedTextWithin store.limits request with
      | .error excess => (withScript, .error (.beyond excess))
      | .ok text =>
        match store.writeIn withScript (documentFile slug) text with
        | (left, .error fault) => (left, .error fault)
        | (withBoth, .ok ()) => (withBoth, .ok slug)

def folder? (store : ScriptStore) (root : Folder) : Option Folder :=
  match Folder.find root store.directory with
  | .ok (.folder entries) => some entries
  | _ => none

def replace (store : ScriptStore) (root : Folder) (folder : Folder) : Folder :=
  match Folder.place root store.directory with
  | .ok names => (Entry.put (.folder folder) names (.folder root)).entries
  | .error _ => root

def save (store : ScriptStore) (request : SaveRequest) : Action Folder Event Failure Json := do
  let root ← Action.read
  let (made, outcome) := Folder.makeFolder root store.directory
  Action.update fun _ => made
  match outcome with
  | .error obstacle => Action.fail (.raised (StoreFault.path obstacle.fault obstacle.path).raised)
  | .ok () =>
    let (folder, written) := store.writeBoth ((store.folder? made).getD []) request
    Action.update fun root => store.replace root folder
    match written with
    | .error fault => Action.fail (.raised fault.raised)
    | .ok slug =>
      let path := (store.directory.join (scriptFile slug)).text
      Action.note .info .storage s!"stored script '{request.name}' at {path}"
      return .object [("name", .text request.name), ("path", .text path)]

/-- The document of a slug; null if there is none. A slug with slashes leads into
other folders. -/
def load (store : ScriptStore) (root : Folder) (slug : String) : Except StoreFault Json :=
  let path := store.directory.join (documentFile slug)
  match Folder.readFile root path with
  | .ok bytes => readDocument store.limits bytes
  | .error .nameTooLong => .error (.path .nameTooLong path)
  | .error _ => .ok .null

/-- The slugs of a folder: the stems of its scripts, in ascending order. -/
def slugsIn (folder : Folder) : List String :=
  (((Table.keys folder).filter fun name => ".py".toList.isSuffixOf name.toList).map
    Path.stemOf).mergeSort fun a b => !decide (b < a)

/-- The recorded name of a slug, or the slug where the record is empty. -/
def listedName (store : ScriptStore) (folder : Folder) (slug : String) :
    Except StoreFault Json := do
  let owner ← store.ownerIn folder slug
  return if owner.isBlank then .text slug else owner

def names (store : ScriptStore) (root : Folder) : Except StoreFault (List Json) :=
  match store.folder? root with
  | none => .ok []
  | some folder => (slugsIn folder).mapM (store.listedName folder)

end ScriptStore

end BrowserFlow.Store
