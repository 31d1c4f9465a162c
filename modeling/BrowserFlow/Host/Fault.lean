import BrowserFlow.Text.Half
import BrowserFlow.Text.Quoted

/-!
# Why a text is no name of a host

The HTTP client that sends a request refuses a host with one of these faults. They carry the
label that they concern where their message shows it, and positions within it, counted from
one.
-/

namespace BrowserFlow.Host

/-- A character of a label. -/
structure Spot where
  label : List Char
  position : Nat
  character : Char
deriving DecidableEq, Repr

/-- Why a label cannot be written in its direction. -/
inductive DirectionFault where
  | unknown (label : List Char) (position : Nat)
  | first (label : List Char)
  | inRightToLeft (position : Nat)
  | inLeftToRight (position : Nat)
  | numerals
  | ending
deriving DecidableEq, Repr

/-- Why a text is no name of a host. -/
inductive Fault where
  | emptyName
  | nameTooLong
  | emptyLabel
  | labelTooLong
  | nothingEncoded
  | encodedEnding
  | undecodable
  | notComposed
  | hyphensInside
  | hyphenOutside
  | markFirst
  | joiner (spot : Spot)
  | context (spot : Spot)
  | character (spot : Spot)
  | direction (fault : DirectionFault)
deriving DecidableEq, Repr

def shownLabel (label : List Char) : String := String.ofList (Text.quoted label)

def Spot.code (spot : Spot) : String :=
  let n := (Text.half? spot.character).getD spot.character.toNat
  s!"U+{String.ofList ((Text.hexDigits 4 n).map Char.toUpper)}"

def DirectionFault.message : DirectionFault → String
  | .unknown label position =>
    s!"Unknown directionality in label {shownLabel label} at position {position}"
  | .first label =>
    s!"First codepoint in label {shownLabel label} must be directionality L, R or AL"
  | .inRightToLeft position =>
    s!"Invalid direction for codepoint at position {position} in a right-to-left label"
  | .inLeftToRight position =>
    s!"Invalid direction for codepoint at position {position} in a left-to-right label"
  | .numerals => "Can not mix numeral types in a right-to-left label"
  | .ending => "Label ends with illegal codepoint directionality"

def Fault.message : Fault → String
  | .emptyName => "Empty domain"
  | .nameTooLong => "Domain too long"
  | .emptyLabel => "Empty Label"
  | .labelTooLong => "Label too long"
  | .nothingEncoded => "Malformed A-label, no Punycode eligible content found"
  | .encodedEnding => "A-label must not end with a hyphen"
  | .undecodable => "Invalid A-label"
  | .notComposed => "Label must be in Normalization Form C"
  | .hyphensInside => "Label has disallowed hyphens in 3rd and 4th position"
  | .hyphenOutside => "Label must not start or end with a hyphen"
  | .markFirst => "Label begins with an illegal combining character"
  | .joiner spot => s!"Unknown codepoint adjacent to joiner {spot.code} "
      ++ s!"at position {spot.position} in {shownLabel spot.label}"
  | .context spot => s!"Codepoint {spot.code} not allowed at position {spot.position} "
      ++ s!"in {shownLabel spot.label}"
  | .character spot => s!"Codepoint {spot.code} at position {spot.position} "
      ++ s!"of {shownLabel spot.label} not allowed"
  | .direction fault => fault.message

end BrowserFlow.Host
