import BrowserFlow.Json.Reader
import BrowserFlow.Text.Blank
import BrowserFlow.Text.Digit

/-!
# Numbers written by people

Settings hold numbers as text that someone typed. Digits of every script count,
low lines may group them, and blanks around the number do not matter. A
floating-point number may have nothing on one side of its point, and may be one of
the words for infinity and for the undefined number.
-/

namespace BrowserFlow.Number

def isPlainBlank (c : Char) : Bool := c == ' ' || decide ('\t' ≤ c ∧ c ≤ '\r')

/-- A character of a text that is not all ASCII, in the form that matters for
numbers: any blank as a space, a digit of any script as its ASCII form. Other
characters beyond ASCII have none. -/
def plainChar? (c : Char) : Option Char :=
  if c.toNat < 128 then some c
  else if Text.isBlank c then some ' '
  else (Text.digitValue? c).map Nat.digitChar

/-- A text in ASCII, unless it has characters with no place in a number. -/
def plainForm? (cs : List Char) : Option (List Char) := cs.mapM plainChar?

/-- Drops low lines that stand between two digits; there must be no others.
`afterDigit` tells whether the character before is a digit. -/
def ungroup? : (afterDigit : Bool) → List Char → Option (List Char)
  | _, [] => some []
  | afterDigit, c :: rest =>
    if c = '_' then
      if afterDigit && (rest.head?.any Char.isDigit) then ungroup? false rest else none
    else (ungroup? c.isDigit rest).map (c :: ·)

def splitSign : List Char → Bool × List Char
  | '-' :: rest => (true, rest)
  | '+' :: rest => (false, rest)
  | cs => (false, cs)

def signedDigits? (cs : List Char) : Option Int :=
  let (negative, digits) := splitSign cs
  if digits.isEmpty || !digits.all Char.isDigit then none
  else if negative then some (-(Json.ofDigits digits : Int))
  else some (Json.ofDigits digits : Int)

/-- The decimal of digits with an optional point and an optional exponent; a digit
has to stand on one side of the point. -/
def decimal? (negative : Bool) (cs : List Char) : Option Binary64 :=
  let (whole, afterWhole) := Json.spanDigits cs
  let (part, rest) := match afterWhole with
    | '.' :: more => Json.spanDigits more
    | other => ([], other)
  if whole.isEmpty && part.isEmpty then none
  else
    let digits := Json.ofDigits (whole ++ part)
    match rest with
    | [] => some (.ofDecimal negative digits (-(part.length : Int)))
    | _ =>
      match Json.exponent? rest with
      | some (e, []) => some (.ofDecimal negative digits (e - part.length))
      | _ => none

def special? (negative : Bool) (cs : List Char) : Option Binary64 :=
  match String.ofList (cs.map Char.toLower) with
  | "inf" | "infinity" => some (.infinity negative)
  | "nan" => some .nan
  | _ => none

def float? (cs : List Char) : Option Binary64 :=
  let (negative, body) := splitSign cs
  (special? negative body).or (decimal? negative body)

def tidy? (cs : List Char) : Option (List Char) := do
  ungroup? false (Text.trimBoth isPlainBlank (← plainForm? cs))

def plainFront : List Char → List Char
  | [] => []
  | c :: rest =>
    match plainChar? c with
    | some d => d :: plainFront rest
    | none => []

/-- How many digits a whole number at the front of a text has, whatever comes after
it. One with low lines in the wrong places counts as none. -/
def leadingDigits (cs : List Char) : Nat :=
  let (_, body) := splitSign ((plainFront cs).dropWhile isPlainBlank)
  match ungroup? false (body.takeWhile fun c => c.isDigit || c == '_') with
  | some digits => digits.length
  | none => 0

def typedInt? (cs : List Char) : Option Int := do signedDigits? (← tidy? cs)

def typedFloat? (cs : List Char) : Option Binary64 := do float? (← tidy? cs)

end BrowserFlow.Number
