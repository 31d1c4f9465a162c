import BrowserFlow.Command.Switch
import BrowserFlow.Text.Digit
import BrowserFlow.Text.Quoted

/-!
# Arguments of the command line

Arguments are read in two passes. The first sorts each by itself: is it a switch,
an unknown switch, or a plain argument? A long switch may be cut short as long as
it stays unique, and bring its value after an equals sign; letters of short
switches may be run together. After a lone `--` all is plain. The second pass goes
through the sorted arguments from left to right: values go to their switches, the
first plain argument is the document, and everything else is left over.
-/

namespace BrowserFlow.Command

/-- Why the arguments are refused. -/
inductive UsageFault where
  /-- A shortened switch that could be any of several. -/
  | ambiguous (argument : String) (matching : List String)
  /-- A switch whose value is missing. -/
  | noValue (which : Switch)
  /-- A value for a switch that takes none. -/
  | strayValue (which : Switch) (text : String)
  | noDocument
  | leftOver (arguments : List String)
deriving DecidableEq, Repr

def UsageFault.message : UsageFault → String
  | .ambiguous argument matching =>
    s!"ambiguous option: {argument} could match " ++ ", ".intercalate matching
  | .noValue which => s!"argument {which.shown}: expected one argument"
  | .strayValue which text =>
    s!"argument {which.shown}: ignored explicit argument "
      ++ String.ofList (Text.quoted text.toList)
  | .noDocument => "the following arguments are required: flow.json"
  | .leftOver arguments => "unrecognized arguments: " ++ " ".intercalate arguments

/-- How a switch is spelt: by one letter after a hyphen, or by a word. -/
inductive Spelling where
  | short
  | long
deriving DecidableEq, Repr

def Spelling.of (spelling : List Char) : Spelling :=
  if "--".toList.isPrefixOf spelling then .long else .short

/-- A sorted argument. A switch comes with the text that is attached to it, right
after its letter or after an equals sign. -/
inductive Token where
  | plain (text : String)
  | separator
  | switch (which : Switch) (spelling : Spelling) (attached : Option (List Char))
  | unknown (text : String)
deriving DecidableEq, Repr

def splitEquals (cs : List Char) : List Char × Option (List Char) :=
  match cs.dropWhile (· ≠ '=') with
  | [] => (cs, none)
  | _ :: value => (cs.takeWhile (· ≠ '='), some value)

/-- Digits of any script, with at most one point that has a digit after it. A line
end after the last digit does not count. -/
def isNumeral (cs : List Char) : Bool :=
  let isDigit := fun c => (Text.digitValue? c).isSome
  let body := if cs.getLast? = some '\n' then cs.dropLast else cs
  match body.dropWhile isDigit with
  | [] => !body.isEmpty
  | '.' :: part => !part.isEmpty && part.all isDigit
  | _ => false

/-- A reading of an argument as a switch: a spelling that begins it or that it
begins, the switch of that spelling, and the text that is attached. -/
structure SwitchReading where
  spelling : String
  which : Switch
  attached : Option (List Char)

def readings (cs : List Char) : List SwitchReading :=
  match Spelling.of cs with
  | .long =>
    let (stem, attached) := splitEquals cs
    (Switch.spellings.filter fun entry => stem.isPrefixOf entry.1.toList).map fun entry =>
      ⟨entry.1, entry.2, attached⟩
  | .short =>
    (Switch.spellings.filter fun entry => entry.1.toList = cs.take 2).map fun entry =>
      ⟨entry.1, entry.2, some (cs.drop 2)⟩

/-- Sorts an argument that begins with a hyphen and more, and spells no switch in
full. Negative numbers and texts with spaces are plain. -/
def sortUnspelt (argument : String) : Except UsageFault Token :=
  match readings argument.toList with
  | [] =>
    if isNumeral (argument.toList.drop 1) || argument.toList.contains ' ' then .ok (.plain argument)
    else .ok (.unknown argument)
  | [r] => .ok (.switch r.which (.of argument.toList) r.attached)
  | several => .error (.ambiguous argument (several.map SwitchReading.spelling))

def sort (argument : String) : Except UsageFault Token :=
  match argument.toList with
  | '-' :: _ :: _ =>
    let spelling := Spelling.of argument.toList
    match Switch.ofSpelling? argument with
    | some which => .ok (.switch which spelling none)
    | none =>
      let (stem, attached) := splitEquals argument.toList
      match attached, Switch.ofSpelling? (String.ofList stem) with
      | some value, some which => .ok (.switch which spelling (some value))
      | _, _ => sortUnspelt argument
  | _ => .ok (.plain argument)

def sortAll : List String → Except UsageFault (List Token)
  | [] => .ok []
  | argument :: rest =>
    if argument = "--" then .ok (.separator :: rest.map .plain)
    else do
      let token ← sort argument
      return token :: (← sortAll rest)

/-- What one switch argument stands for: switches in order, and for the last of
them a value, if it has one here or still has to get it. -/
structure Expansion where
  flags : List Switch := []
  value : Option (Switch × String) := none
  awaiting : Option Switch := none

def expandAlone (which : Switch) : Expansion :=
  if which.takesValue then { awaiting := some which } else { flags := [which] }

/-- A short switch with a text attached to its letter. If it takes no value, the
next letter has to be another switch, and so on to the end of the text. -/
def expandShort (which : Switch) : List Char → Except UsageFault Expansion
  | [] => .ok (expandAlone which)
  | c :: rest =>
    if which.takesValue then .ok { value := some (which, String.ofList (c :: rest)) }
    else
      match Switch.ofLetter? c with
      | none => .error (.strayValue which (String.ofList (c :: rest)))
      | some next =>
        (expandShort next rest).map fun others => { others with flags := which :: others.flags }

def expand (which : Switch) (spelling : Spelling) : Option (List Char) → Except UsageFault Expansion
  | none => .ok (expandAlone which)
  | some text =>
    if which.takesValue then .ok { value := some (which, String.ofList text) }
    else if spelling = .short ∧ text ≠ [] then expandShort which text
    else .error (.strayValue which (String.ofList text))

/-- How far the second pass has come. `document` is none until there is one, and
`atDocument` tells whether it was the last argument. -/
structure Progress where
  document : Option String := none
  atDocument : Bool := false
  flags : List Switch := []
  values : List (Switch × String) := []
  awaiting : Option Switch := none
  leftOver : List String := []

/-- Why there are no options: the help is asked for, or the arguments are refused. -/
inductive Stop where
  | help
  | misuse (fault : UsageFault)
deriving DecidableEq, Repr

namespace Progress

def takePlain (p : Progress) (text : String) : Progress :=
  match p.awaiting with
  | some which =>
    { p with values := p.values ++ [(which, text)], awaiting := none, atDocument := false }
  | none =>
    if p.document.isNone then { p with document := some text, atDocument := true }
    else { p with leftOver := p.leftOver ++ [text], atDocument := false }

/-- Takes a separator. Right after the document or in front of it, it has done its
work; anywhere else it is left over. -/
def takeSeparator (p : Progress) : Progress :=
  if p.atDocument || p.document.isNone then { p with atDocument := false }
  else { p with leftOver := p.leftOver ++ ["--"] }

/-- Takes what a switch argument stands for. The help is shown at once. -/
def takeExpansion (p : Progress) (e : Expansion) : Except Stop Progress :=
  if e.flags.contains .help then .error .help
  else .ok { p with
    atDocument := false
    flags := p.flags ++ e.flags
    values := p.values ++ e.value.toList
    awaiting := e.awaiting }

/-- Takes one sorted argument. A switch that waits for its value can only be
followed by a plain argument. -/
def take (p : Progress) (token : Token) : Except Stop Progress :=
  match token, p.awaiting with
  | .plain text, _ => .ok (p.takePlain text)
  | _, some which => .error (.misuse (.noValue which))
  | .separator, none => .ok p.takeSeparator
  | .unknown text, none => .ok { p with leftOver := p.leftOver ++ [text], atDocument := false }
  | .switch which spelling attached, none => do
    let e ← (expand which spelling attached).mapError Stop.misuse
    p.takeExpansion e

/-- The last value of a switch, or what it is without one. An assigned separator
is taken for no value at all. -/
def valueOf (p : Progress) (which : Switch) (default : Option String) : Option String :=
  match p.values.reverse.find? fun entry => entry.1 = which with
  | none => default
  | some (_, "--") => none
  | some (_, value) => some value

def finish (p : Progress) : Except UsageFault Options :=
  match p.awaiting, p.document with
  | some which, _ => .error (.noValue which)
  | none, none => .error .noDocument
  | none, some document =>
    if p.leftOver ≠ [] then .error (.leftOver p.leftOver)
    else
      .ok {
        document := document
        headless := !p.flags.contains .noHeadless
        name := p.valueOf .name none
        out := p.valueOf .out (some ".")
        printOnly := p.flags.contains .print
        verbose := p.flags.contains .verbose }

end Progress

def parse (arguments : List String) : Except Stop Options := do
  let tokens ← (sortAll arguments).mapError Stop.misuse
  let p ← tokens.foldlM Progress.take {}
  p.finish.mapError Stop.misuse

end BrowserFlow.Command
