import BrowserFlow.Command.Usage
import BrowserFlow.Document.File
import BrowserFlow.Failure
import BrowserFlow.Script.Compile
import BrowserFlow.Store.ScriptStore

/-!
# Compiling one document

The command reads a flow from a file and writes its script to another file, or
prints it. What has to be done is settled by the arguments and by what was found
in the file: `plan` says it without doing it. `carryOut` does it in a folder.
-/

namespace BrowserFlow.Command

open Store (Entry Folder Path PathFault StoreFault)

/-- How a run of the command ends. -/
inductive Ending where
  | exit (code : Nat)
  | raised (failure : Failure)
deriving DecidableEq, Repr

/-- What a run of the command leaves for its reader: what it prints, what it records,
and what it says about a failure. Records are shown from a level on. -/
structure Report where
  output : String := ""
  records : List Record := []
  shown : Level := .warning
  complaint : String := ""
  ending : Ending
deriving DecidableEq, Repr

/-- What is printed for errors: the records that are shown, then the complaint. -/
def Report.errors (r : Report) : String :=
  paragraph ((Record.atLeast r.shown r.records).map Record.line) ++ r.complaint

/-- What was found at the path of the document. -/
inductive Source where
  | missing
  | unreadable (fault : PathFault)
  | bytes (bytes : List UInt8)

/-- A script and where it goes. -/
structure Delivery where
  folder : Path
  file : Path
  script : String
  /-- What is reported once the script is written. -/
  done : Report
deriving DecidableEq, Repr

inductive Plan where
  | finish (report : Report)
  | write (writing : Delivery)
deriving DecidableEq, Repr

def scriptFilename (name : String) : String :=
  String.ofList ((Text.lower name.toList).map fun c => if c = '-' ∨ c = ' ' then '_' else c) ++
    ".py"

def Options.level (options : Options) : Level := if options.verbose then .debug else .warning

/-- A report of a failure that is the reader's to mend. -/
def complaint (options : Options) (records : List Record) (text : String) : Report :=
  { records, shown := options.level, complaint := paragraph [s!"[error] {text}"],
    ending := .exit 1 }

/-- The name of the script: the one that was given, or that of the document. -/
def scriptName (options : Options) : String :=
  match options.name with
  | none | some "" => (Path.ofString options.document).stem
  | some name => name

/-- A report of a failure that ends the command at once. -/
def breakdown (options : Options) (records : List Record) (failure : Failure) : Report :=
  { records, shown := options.level, ending := .raised failure }

def noFolder : Failure :=
  .raised ⟨.other "TypeError", some "expected str, bytes or os.PathLike object, not list"⟩

def deliver (options : Options) (g : Graph) (records : List Record) (script : String) : Plan :=
  if options.printOnly then
    .finish { output := script, records, shown := options.level, ending := .exit 0 }
  else
    match options.out with
    | none => .finish (breakdown options records noFolder)
    | some out =>
      let folder := Path.ofString out
      let file := folder.join (scriptFilename (scriptName options))
      .write {
        folder, file, script
        done := {
          output := paragraph [
            s!"[flowscript-compile] nodes : {g.nodes.length}",
            s!"[flowscript-compile] edges : {g.edges.length}",
            s!"[flowscript-compile] wrote : {file.text}"]
          records
          shown := options.level
          ending := .exit 0 } }

def planBytes (limits : Json.Limits) (options : Options) (bytes : List UInt8) : Plan :=
  let loaded := Document.loadFile limits (Path.ofString options.document).text bytes
  match loaded.result with
  | .error (.faulty fault) =>
    .finish (complaint options loaded.records s!"Invalid flow document: {fault.message}")
  | .error (.beyond excess) =>
    .finish (breakdown options loaded.records (.beyondLimit excess))
  | .ok g =>
    let compiled := g.compile options.headless
    let records := loaded.records ++ compiled.records
    match compiled.result with
    | .error .noStart =>
      .finish (complaint options records s!"Cannot compile: {Failure.noStart.message}")
    | .error fault => .finish (breakdown options records (.ofCompiling fault))
    | .ok script => deliver options g records script

def plan (limits : Json.Limits) (options : Options) (source : Source) : Plan :=
  let path := Path.ofString options.document
  match source with
  | .missing => .finish (complaint options [] s!"File not found: {path.text}")
  | .unreadable fault =>
    .finish (breakdown options [] (.raised (StoreFault.path fault path).raised))
  | .bytes bytes => planBytes limits options bytes

def Stop.report : Stop → Report
  | .help => { output := helpText, ending := .exit 0 }
  | .misuse fault => { complaint := refusal fault, ending := .exit 2 }

/-- What a folder has at a path. A path that cannot be a path is like a file that
is not there, except for a name that is too long. -/
def sourceIn (root : Folder) (path : Path) : Source :=
  match Folder.readFile root path with
  | .ok bytes => .bytes bytes
  | .error .isFolder => .unreadable .isFolder
  | .error .nameTooLong => .unreadable .nameTooLong
  | .error _ => .missing

def Delivery.failed (w : Delivery) (fault : StoreFault) : Report :=
  { w.done with output := "", ending := .raised (.raised fault.raised) }

/-- The file that a delivery leaves, and what is reported once it is there. -/
def Delivery.writing (w : Delivery) : Entry × Report :=
  match Entry.writing w.script with
  | (file, none) => (file, w.done)
  | (file, some u) => (file, w.failed (.unwritable u))

/-- Writes a script into a folder of its own; folders that are missing are made
first, and stay if the script cannot be written. -/
def Delivery.carryOut (w : Delivery) (root : Folder) : Folder × Report :=
  let (made, outcome) := Folder.makeFolder root w.folder
  match outcome with
  | .error obstacle => (made, w.failed (.path obstacle.fault obstacle.path))
  | .ok () =>
    let (file, report) := w.writing
    match Folder.writeFile made w.file file with
    | .error fault => (made, w.failed (.path fault w.file))
    | .ok written => (written, report)

def Plan.carryOut (root : Folder) : Plan → Folder × Report
  | .finish report => (root, report)
  | .write w => w.carryOut root

def run (limits : Json.Limits) (root : Folder) (arguments : List String) : Folder × Report :=
  match parse arguments with
  | .error stop => (root, stop.report)
  | .ok options =>
    (plan limits options (sourceIn root (Path.ofString options.document))).carryOut root

end BrowserFlow.Command
