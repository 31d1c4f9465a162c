/-!
# Switches of the command line

What can be switched on the command line, and how each switch is spelt. Two of
them take a value, the others stand alone.
-/

namespace BrowserFlow.Command

inductive Switch where
  | help
  | noHeadless
  | name
  | out
  | print
  | verbose
deriving DecidableEq, Repr

namespace Switch

def spellings : List (String × Switch) := [
  ("-h", help), ("--help", help), ("--no-headless", noHeadless), ("--name", name), ("--out", out),
  ("--print", print), ("-v", verbose), ("--verbose", verbose)]

def ofSpelling? (text : String) : Option Switch :=
  (spellings.find? fun entry => entry.1 = text).map Prod.snd

def ofLetter? (c : Char) : Option Switch := ofSpelling? (String.ofList ['-', c])

def takesValue : Switch → Bool
  | name | out => true
  | _ => false

/-- How messages call a switch: by all its spellings. -/
def shown (s : Switch) : String :=
  String.ofList (['/'].intercalate
    ((spellings.filter fun entry => entry.2 = s).map fun entry => entry.1.toList))

end Switch

/-- What the command line asks for. `out` is none if the folder was named by an
assigned separator, which is the name of no folder. -/
structure Options where
  document : String
  headless : Bool := true
  name : Option String := none
  out : Option String := some "."
  printOnly : Bool := false
  verbose : Bool := false
deriving DecidableEq, Repr

end BrowserFlow.Command
