import BrowserFlow.Text.CaseTable
import BrowserFlow.Text.Ranges

/-!
# Case mappings of whole texts

`lower` and `upper` apply the full mappings character by character. The one
mapping that looks at its surroundings is that of the capital sigma, which turns
into the final form at the end of a word.
-/

namespace BrowserFlow.Text

def CaseRun.image? (run : CaseRun) (n : Nat) : Option Nat :=
  if run.first ≤ n ∧ n ≤ run.last ∧ (n - run.first) % run.stride = 0 then
    some ((n : Int) + run.offset).toNat
  else none

/-- Maps one character by a table of sequences and a table of runs; a character
in neither stays. -/
def mapCase (sequences : List (Nat × List Nat)) (runs : List CaseRun) (c : Char) : List Char :=
  match sequences.find? (·.1 = c.toNat) with
  | some (_, target) => target.map Char.ofNat
  | none =>
    match runs.findSome? (·.image? c.toNat) with
    | some n => [Char.ofNat n]
    | none => [c]

/-- The lower-case form of one character, away from the rule for sigma. -/
def lowerChar (c : Char) : List Char := mapCase lowerSequences lowerRuns c

def upperChar (c : Char) : List Char := mapCase upperSequences upperRuns c

def capitalSigma : Char := Char.ofNat 0x3a3

/-- The sigma that stands at the end of a word. -/
def finalSigma : Char := Char.ofNat 0x3c2

/-- Whether the first character that counts has case. -/
def nextIsCased (cs : List Char) : Bool :=
  match cs.dropWhile (inRanges caseIgnorableRanges) with
  | [] => false
  | c :: _ => inRanges casedRanges c

/-- Lower-cases a text; `before` holds the characters already passed, the last
one first. -/
def lowerFrom : (before rest : List Char) → List Char
  | _, [] => []
  | before, c :: rest =>
    (if c = capitalSigma ∧ nextIsCased before = true ∧ nextIsCased rest = false then
      [finalSigma]
    else lowerChar c) ++ lowerFrom (c :: before) rest

def lower (cs : List Char) : List Char := lowerFrom [] cs

def upper (cs : List Char) : List Char := cs.flatMap upperChar

end BrowserFlow.Text
