import BrowserFlow.Text.Lines

/-!
# Indented lines

Script text is laid out by a list of `Writing` steps: lines at the current depth,
and changes of the depth. An empty line stays empty at every depth. The depth may
start below zero, where lines are not indented; leaving a level never goes below
zero.
-/

namespace BrowserFlow.Script

/-- A step of laying out lines. -/
inductive Writing where
  | line (text : String)
  | deeper
  | shallower
deriving DecidableEq, Repr

namespace Writing

def blank : Writing := .line ""

def comment (text : String) : Writing := .line ("# " ++ text)

end Writing

def indentation (depth : Int) : String := String.ofList (List.replicate (4 * depth).toNat ' ')

def indent (depth : Int) (text : String) : String :=
  if text.isEmpty then "" else indentation depth ++ text

/-- The lines that steps write, the first of them at the given depth. -/
def layOut : (depth : Int) → List Writing → List String
  | _, [] => []
  | depth, .line text :: steps => indent depth text :: layOut depth steps
  | depth, .deeper :: steps => layOut (depth + 1) steps
  | depth, .shallower :: steps => layOut (max 0 (depth - 1)) steps

def unlines (lines : List String) : String :=
  String.ofList (Text.joinLines (lines.map String.toList))

def lines (text : String) : List String := (Text.splitLines text.toList).map String.ofList

/-- Lines that are only written keep the depth. -/
theorem layOut_map_line (depth : Int) (texts : List String) :
    layOut depth (texts.map .line) = texts.map (indent depth) := by
  induction texts with
  | nil => rfl
  | cons text texts ih => simp [layOut, ih]

end BrowserFlow.Script
