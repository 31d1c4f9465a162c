import BrowserFlow.Store.Path
import BrowserFlow.Table
import BrowserFlow.Text.Utf8

/-!
# Folders

The files that the program works with, as a value: a folder is a table of entries,
each a file with its bytes or a folder. Paths are followed from the working
directory, component by component, so that `..` asks for a folder that exists. A
path is looked at as a whole first: it may be too long to be followed at all.

What lies outside of the working directory is one folder, above it and at the start
of absolute paths alike. It is there from the first, and nothing else is known in it
but what was put there.
-/

namespace BrowserFlow.Store

/-- A file or a folder. -/
inductive Entry where
  | file (bytes : List UInt8)
  | folder (entries : List (String × Entry))

/-- The entries of a folder. -/
abbrev Folder := Table Entry

/-- Why a path leads nowhere, or why something cannot be done with what is there. -/
inductive PathFault where
  | notFound
  | notFolder
  | isFolder
  | exists
  | nameTooLong
  | nullCharacter
  /-- Too many folders would have to be made, one inside the other. -/
  | tooManyLevels
deriving DecidableEq, Repr

namespace Entry

/-- The file that is left where a text is written, and what keeps the text from being
written. The file is empty then. -/
def writing (text : String) : Entry × Option Text.Encoding.Unwritable :=
  match Text.Utf8.unwritable? text.toList with
  | none => (.file (Text.Utf8.encode text.toList), none)
  | some u => (.file [], some u)

def at? : Entry → List String → Option Entry
  | e, [] => some e
  | .file _, _ :: _ => none
  | .folder entries, name :: rest =>
    match Table.get? entries name with
    | some e => at? e rest
    | none => none

/-- Puts an entry at the end of a list of names. Folders on the way are made where
there is nothing; below a file nothing is put. -/
def put (new : Entry) : (names : List String) → Entry → Entry
  | [], _ => new
  | _ :: _, .file bytes => .file bytes
  | name :: rest, .folder entries =>
    .folder (Table.set entries name (put new rest ((Table.get? entries name).getD (.folder []))))

/-- The bytes of a file, none of a folder. -/
def bytes : Entry → List UInt8
  | .file bytes => bytes
  | .folder _ => []

def entries : Entry → Folder
  | .file _ => []
  | .folder entries => entries

end Entry

/-- The longest name of an entry, in bytes. -/
def nameLimit : Nat := 255

def nameFault? (name : String) : Option PathFault :=
  if nameLimit < (Text.Utf8.encode name.toList).length then some .nameTooLong else none

def pathLimit : Nat := 4095

/-- What keeps a path from being followed, wherever it leads. -/
def Path.fault? (path : Path) : Option PathFault :=
  if path.text.toList.contains '\x00' then some .nullCharacter
  else if pathLimit < (Text.Utf8.encode path.text.toList).length then some .nameTooLong
  else none

/-- How many folders are made at a time, one inside the other. -/
def levelLimit : Nat := 990

/-- What keeps a path from being a folder, and the path that it was found at. -/
structure Obstacle where
  fault : PathFault
  path : Path
deriving DecidableEq, Repr

namespace Folder

/-- The name under which the working directory keeps what lies outside of it. No entry
has this name. -/
def outside : String := ".."

def inside (root : Folder) : Folder := Table.erase root outside

/-- The entry at a place. What lies outside is a folder even if nothing in it is known. -/
def entryAt? (root : Folder) (place : List String) : Option Entry :=
  (Entry.at? (.folder root) place).or (if place = [outside] then some (.folder []) else none)

def step (here : List String) (component : String) : Except PathFault (List String) :=
  if component = ".." then
    .ok (if here = [] ∨ here = [outside] then [outside] else here.dropLast)
  else
    match nameFault? component with
    | some fault => .error fault
    | none => .ok (here ++ [component])

/-- Follows components from the folder at `here`. All but the last have to lead to
folders. -/
def locate (root : Folder) : (here : List String) → List String → Except PathFault (List String)
  | here, [] => .ok here
  | here, component :: rest =>
    match entryAt? root here with
    | none => .error .notFound
    | some (.file _) => .error .notFolder
    | some (.folder _) => do locate root (← step here component) rest

def place (root : Folder) (path : Path) : Except PathFault (List String) :=
  match path.fault? with
  | some fault => .error fault
  | none => locate root (if path.root = "" then [] else [outside]) path.components

def find (root : Folder) (path : Path) : Except PathFault Entry := do
  match entryAt? root (← place root path) with
  | some e => .ok e
  | none => .error .notFound

def hasFolder (root : Folder) (path : Path) : Bool :=
  match find root path with
  | .ok (.folder _) => true
  | _ => false

def readFile (root : Folder) (path : Path) : Except PathFault (List UInt8) := do
  match ← find root path with
  | .file bytes => .ok bytes
  | .folder _ => .error .isFolder

def writeFile (root : Folder) (path : Path) (file : Entry) : Except PathFault Folder := do
  let names ← place root path
  match entryAt? root names with
  | some (.folder _) => .error .isFolder
  | _ => .ok (Entry.put file names (.folder root)).entries

def makeOne (root : Folder) (path : Path) : Except PathFault Folder := do
  let names ← place root path
  match entryAt? root names with
  | some _ => .error .exists
  | none => .ok (Entry.put (.folder []) names (.folder root)).entries

def ensureOne (root : Folder) (path : Path) : Folder × Except Obstacle Unit :=
  match makeOne root path with
  | .ok made => (made, .ok ())
  | .error fault => (root, if hasFolder root path then .ok () else .error ⟨fault, path⟩)

/-- Makes the folder at components, the last of which comes first, unless it is there
already. Where it cannot be made since there is nothing to make it in, what it would lie
in is made first, so that a component `..` can follow one that is yet to be made. At most
`levels` folders are asked for. What was made stays, also if something is in the way. -/
def makeLevels (root : Folder) (slashes : String) :
    (levels : Nat) → (back : List String) → Folder × Except Obstacle Unit
  | _, [] => ensureOne root ⟨slashes, []⟩
  | 0, last :: above => (root, .error ⟨.tooManyLevels, ⟨slashes, (last :: above).reverse⟩⟩)
  | levels + 1, last :: above =>
    let path : Path := ⟨slashes, (last :: above).reverse⟩
    match makeOne root path with
    | .error .notFound =>
      match makeLevels root slashes levels above with
      | (made, .ok ()) => ensureOne made path
      | stopped => stopped
    | _ => ensureOne root path

/-- Makes a folder and those above it where they are missing. -/
def makeFolder (root : Folder) (path : Path) : Folder × Except Obstacle Unit :=
  makeLevels root path.root levelLimit path.components.reverse

end Folder

def PathFault.numbered (number : Nat) (wording : String) (path : Path) : String :=
  s!"[Errno {number}] {wording}: {path.shown}"

def PathFault.message (fault : PathFault) (path : Path) : String :=
  match fault with
  | .notFound => numbered 2 "No such file or directory" path
  | .exists => numbered 17 "File exists" path
  | .notFolder => numbered 20 "Not a directory" path
  | .isFolder => numbered 21 "Is a directory" path
  | .nameTooLong => numbered 36 "File name too long" path
  | .nullCharacter => "embedded null byte"
  | .tooManyLevels => "maximum recursion depth exceeded"

end BrowserFlow.Store
