import BrowserFlow.Host.Fault
import BrowserFlow.Host.Letters
import BrowserFlow.Host.Punycode
import BrowserFlow.Text.Composed
import BrowserFlow.Text.Direction
import BrowserFlow.Text.Joining
import BrowserFlow.Text.Mark
import BrowserFlow.Text.Script
import BrowserFlow.Text.Utf16

/-!
# Labels of host names

A label is what stands between two points of a name. Its characters have to be composed
and allowed where they stand, and to be written in one direction. A label with
characters beyond ASCII has a form in ASCII, which begins with a tag. This is the check that
the HTTP client that sends a request makes of its host.

`fault?` says what is wrong with a label, `toAscii` and `ofAscii` go from one form to the
other.
-/

namespace BrowserFlow.Host

open Text (Direction direction)

/-! ## Characters in their places -/

/-- The place of a sign that takes the vowel from a consonant. -/
def vowelKiller : Nat := 9

/-- Whether the last of the characters `before` takes the vowel from a consonant. The last
of them stands first. -/
def followsVowelKiller : (before : List Char) → Bool
  | [] => false
  | c :: _ => Text.combiningPlace c = vowelKiller

/-- Whether a joiner may stand between characters, of which those before it are given from
the last to the first. The one that keeps letters apart may also stand where they would
join. -/
def joinerFits (before : List Char) (joiner : Char) (after : List Char) : Bool :=
  followsVowelKiller before || joiner = '\u200c' && Text.joins before after

def isJoiner (c : Char) : Bool := c = '\u200c' || c = '\u200d'

def isArabicDigit (c : Char) : Bool := '\u0660' ≤ c && c ≤ '\u0669'

def isEasternDigit (c : Char) : Bool := '\u06f0' ≤ c && c ≤ '\u06f9'

def firstIs (test : Char → Bool) : List Char → Bool
  | [] => false
  | c :: _ => test c

/-- Whether a character that is allowed in certain places may stand between characters, of
which those before it are given from the last to the first; `none` if it is no such
character. -/
def contextFits? (before : List Char) (c : Char) (after : List Char) : Option Bool :=
  let label := before.reverse ++ c :: after
  if c = '\u00b7' then some (firstIs (· = 'l') before && firstIs (· = 'l') after)
  else if c = '\u0375' then some (firstIs (Text.inRanges Text.greekRanges) after)
  else if c = '\u05f3' ∨ c = '\u05f4' then some (firstIs (Text.inRanges Text.hebrewRanges) before)
  else if c = '\u30fb' then
    some (label.any fun d => d ≠ '\u30fb' && Text.inRanges Text.japaneseRanges d)
  else if isArabicDigit c then some (!label.any isEasternDigit)
  else if isEasternDigit c then some (!label.any isArabicDigit)
  else none

/-- The fault of the first of the characters `rest` that may not stand where it does. Those
before them are given from the last to the first. -/
def characterFault? (label : List Char) : (before rest : List Char) → Option Fault
  | _, [] => none
  | before, c :: after =>
    let spot : Spot := ⟨label, before.length + 1, c⟩
    let next := characterFault? label (c :: before) after
    if isLetter c then next
    else if isJoiner c then if joinerFits before c after then next else some (.joiner spot)
    else
      match contextFits? before c after with
      | some true => next
      | some false => some (.context spot)
      | none => some (.character spot)

/-! ## Directions -/

/-- The fault of a label from right to left, from a position on. `ends` tells whether it
may end there, and `numerals` which digits it had. -/
def rightFault? (position : Nat) (ends : Bool) (numerals : Option Direction) :
    List Direction → Option DirectionFault
  | [] => if ends then none else some .ending
  | .left :: _ => some (.inRightToLeft position)
  | .right :: rest => rightFault? (position + 1) true numerals rest
  | .carried :: rest => rightFault? (position + 1) ends numerals rest
  | .neutral :: rest | .unknown :: rest => rightFault? (position + 1) false numerals rest
  | number :: rest =>
    if numerals.all (· = number) then rightFault? (position + 1) true (some number) rest
    else some .numerals

def leftFault? (position : Nat) (ends : Bool) : List Direction → Option DirectionFault
  | [] => if ends then none else some .ending
  | .left :: rest | .europeanNumber :: rest => leftFault? (position + 1) true rest
  | .carried :: rest => leftFault? (position + 1) ends rest
  | .neutral :: rest | .unknown :: rest => leftFault? (position + 1) false rest
  | .right :: _ | .arabicNumber :: _ => some (.inLeftToRight position)

/-- Why a label cannot be written in its direction, if anything of it is written from
right to left. -/
def directionFault? (label : List Char) : Option DirectionFault :=
  let directions := label.map direction
  match directions.findIdx? (· = .unknown) with
  | some index => some (.unknown label (index + 1))
  | none =>
    if directions.any fun d => d = .right || d = .arabicNumber then
      match directions with
      | .right :: _ => rightFault? 1 false none directions
      | .left :: _ => leftFault? 1 false directions
      | _ => some (.first label)
    else none

/-! ## Labels -/

def fault? (label : List Char) : Option Fault :=
  if label.isEmpty then some .emptyLabel
  else if !Text.isComposed label then some .notComposed
  else if (label.drop 2).take 2 = ['-', '-'] then some .hyphensInside
  else if label.head? = some '-' ∨ label.getLast? = some '-' then some .hyphenOutside
  else if firstIs Text.isMark label then some .markFirst
  else (characterFault? label [] label).or ((directionFault? label).map .direction)

def checked (label : List Char) : Except Fault (List Char) :=
  match fault? label with
  | some fault => .error fault
  | none => .ok label

def tag : List Char := ['x', 'n', '-', '-']

def ofAscii (ascii : List Char) : Except Fault (List Char) :=
  let lowered := ascii.map Char.toLower
  if tag.isPrefixOf lowered then
    let encoded := lowered.drop tag.length
    if encoded.isEmpty then .error .nothingEncoded
    else if encoded.getLast? = some '-' then .error .encodedEnding
    else
      match Punycode.decode? encoded with
      | none => .error .undecodable
      | some codes => checked (codes.map Text.Utf16.alone)
  else checked lowered

def labelLimit : Nat := 63

def isAscii (cs : List Char) : Bool := cs.all fun c => c.toNat < 128

def toAscii (label : List Char) : Except Fault (List Char) := do
  let ascii ←
    if isAscii label then do
      let _ ← ofAscii label
      pure label
    else do
      let _ ← checked label
      pure (tag ++ Punycode.encode label)
  if labelLimit < ascii.length then .error .labelTooLong else .ok ascii

end BrowserFlow.Host
