import BrowserFlow.Text.CompositeTable
import BrowserFlow.Text.Ranges

/-!
# Composed text

The same text can be written with one character for a letter with its marks, or with a
character for each of them. A text is composed if it has the fewest characters: taking
all of them apart, putting the marks of each letter in order and composing again gives
the same text.
-/

namespace BrowserFlow.Text

/-- Where a character is written on another; zero for one with a place of its own. -/
def combiningPlace (c : Char) : Nat :=
  match combiningRuns.find? fun run => run.first ≤ c.toNat && c.toNat ≤ run.last with
  | some run => run.place
  | none => 0

def firstSyllable : Nat := 0xac00

def isSyllable (n : Nat) : Bool := firstSyllable ≤ n && n ≤ 0xd7a3

/-- The two parts of a syllable: one without a final consonant and the consonant, or a
consonant and a vowel. There are 21 vowels and 27 final consonants. -/
def syllableParts (n : Nat) : Nat × Nat :=
  let index := n - firstSyllable
  if index % 28 = 0 then (0x1100 + index / 588, 0x1161 + index % 588 / 28)
  else (n - index % 28, 0x11a7 + index % 28)

def syllable? (base added : Nat) : Option Nat :=
  if 0x1100 ≤ base ∧ base ≤ 0x1112 ∧ 0x1161 ≤ added ∧ added ≤ 0x1175 then
    some (firstSyllable + ((base - 0x1100) * 21 + (added - 0x1161)) * 28)
  else if isSyllable base ∧ (base - firstSyllable) % 28 = 0 ∧ 0x11a8 ≤ added ∧ added ≤ 0x11c2 then
    some (base + (added - 0x11a7))
  else none

def parts? (c : Char) : Option (Char × Char) :=
  if isSyllable c.toNat then
    some (Char.ofNat (syllableParts c.toNat).1, Char.ofNat (syllableParts c.toNat).2)
  else
    (composites.find? fun composite => composite.composed = c.toNat).map fun composite =>
      (Char.ofNat composite.base, Char.ofNat composite.added)

def composed? (base added : Char) : Option Char :=
  match syllable? base.toNat added.toNat with
  | some n => some (Char.ofNat n)
  | none =>
    (composites.find? fun composite =>
      composite.base = base.toNat ∧ composite.added = added.toNat).map fun composite =>
        Char.ofNat composite.composed

/-- Takes a character apart, and what it is composed of in turn, a number of times. -/
def takeApart : (times : Nat) → Char → List Char
  | 0, c => [c]
  | times + 1, c =>
    match parts? c with
    | none => [c]
    | some (base, added) => takeApart times base ++ [added]

def compositionDepth : Nat := 3

/-- Puts a character before others. Of marks it goes after those that are written at a
lower place. -/
def putBefore (c : Char) : List Char → List Char
  | [] => [c]
  | d :: rest =>
    if 0 < combiningPlace d ∧ combiningPlace d < combiningPlace c then d :: putBefore c rest
    else c :: d :: rest

def orderMarks (cs : List Char) : List Char := cs.foldr putBefore []

/-- Composes a letter with what follows. `marks` are those that stay on it, the last of
them first. A mark reaches the letter unless one before it has its place. -/
def composeFrom (letter : Char) (marks : List Char) : List Char → List Char
  | [] => letter :: marks.reverse
  | c :: rest =>
    let place := combiningPlace c
    let reaches := match marks with
      | [] => true
      | last :: _ => decide (combiningPlace last < place)
    match (if reaches then composed? letter c else none) with
    | some composed => composeFrom composed marks rest
    | none =>
      if place = 0 then letter :: (marks.reverse ++ composeFrom c [] rest)
      else composeFrom letter (c :: marks) rest

/-- Composes a text whose marks are in order. Marks before the first letter stay. -/
def compose : List Char → List Char
  | [] => []
  | c :: rest => if combiningPlace c = 0 then composeFrom c [] rest else c :: compose rest

def isComposed (cs : List Char) : Bool :=
  cs.all (fun c => !inRanges uncomposedRanges c) &&
    compose (orderMarks (cs.flatMap (takeApart compositionDepth))) == cs

end BrowserFlow.Text
