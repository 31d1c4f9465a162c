import BrowserFlow.Json.Limits
import BrowserFlow.Text.Utf16

/-!
# Reading document values

`Json.read` reads one value from a text. Beyond the standard grammar it accepts
the names of the undefined number and of infinity. Where the text is not a value
the reader says what it expected and at which place; every function below that
stops there carries the part of the text that begins there. What goes beyond the
limits ends the reading as soon as it is met, whatever comes after it.
-/

namespace BrowserFlow.Json

inductive ReadCause where
  | value
  | name
  | colon
  | comma
  | unterminated
  | controlCharacter
  | escape
  | unicodeEscape
  | extraData
  | byteOrderMark
deriving DecidableEq, Repr

/-- Why reading ended early: with a cause and the rest of the text from the place
that it concerns, or with something that goes beyond the limits. -/
inductive Stop where
  | malformed (cause : ReadCause) (rest : List Char)
  | beyond (excess : Excess)

/-- The outcome of reading something from the front of a text. -/
abbrev Reading (α : Type) := Except Stop (α × List Char)

/-- The four characters that may stand between values. -/
def isSpace (c : Char) : Bool := c == ' ' || c == '\t' || c == '\n' || c == '\r'

def skipSpace (cs : List Char) : List Char := cs.dropWhile isSpace

def hexValue? (c : Char) : Option Nat :=
  if '0' ≤ c ∧ c ≤ '9' then some (c.toNat - 48)
  else if 'a' ≤ c ∧ c ≤ 'f' then some (c.toNat - 87)
  else if 'A' ≤ c ∧ c ≤ 'F' then some (c.toNat - 55)
  else none

def hexUnit? (a b c d : Char) : Option Nat := do
  return (← hexValue? a) * 4096 + (← hexValue? b) * 256 + (← hexValue? c) * 16 + (← hexValue? d)

def escaped? (c : Char) : Option Char :=
  if c = '\x22' ∨ c = '\\' ∨ c = '/' then some c
  else if c = 'b' then some '\x08'
  else if c = 'f' then some '\x0c'
  else if c = 'n' then some '\n'
  else if c = 'r' then some '\r'
  else if c = 't' then some '\t'
  else none

/-- Reads a text up to its closing quote, as code points and escaped units.
`opening` is the text from the opening quote on. A unit needs a character after
its four digits. -/
def readUnits (opening : List Char) : List Char → Reading (List Nat)
  | [] => .error (.malformed .unterminated opening)
  | c :: rest =>
    if c = '\x22' then .ok ([], rest)
    else if c = '\\' then
      match rest with
      | [] => .error (.malformed .unterminated opening)
      | 'u' :: a :: b :: d :: e :: next :: rest' =>
        match hexUnit? a b d e with
        | some unit => (readUnits opening (next :: rest')).map fun r => (unit :: r.1, r.2)
        | none => .error (.malformed .unicodeEscape rest)
      | 'u' :: _ => .error (.malformed .unicodeEscape rest)
      | letter :: rest' =>
        match escaped? letter with
        | some d => (readUnits opening rest').map fun r => (d.toNat :: r.1, r.2)
        | none => .error (.malformed .escape (c :: rest))
    else if c.toNat < 0x20 then .error (.malformed .controlCharacter (c :: rest))
    else (readUnits opening rest).map fun r => (c.toNat :: r.1, r.2)

/-- Reads a text whose opening quote is the first character of `opening`; `cs` is
what comes after the quote. -/
def readText (opening cs : List Char) : Reading String :=
  (readUnits opening cs).map fun r => (String.ofList (Text.Utf16.ofUnits r.1), r.2)

def digit (c : Char) : Nat := c.toNat - 48

def ofDigits (cs : List Char) : Nat := cs.foldl (fun n c => 10 * n + digit c) 0

def spanDigits (cs : List Char) : List Char × List Char :=
  (cs.takeWhile Char.isDigit, cs.dropWhile Char.isDigit)

/-- The digits after a point, if at least one follows. -/
def fraction (cs : List Char) : List Char × List Char :=
  match cs with
  | '.' :: rest => if (spanDigits rest).1.isEmpty then ([], cs) else spanDigits rest
  | _ => ([], cs)

/-- The exponent, if its mark and its sign have at least one digit after them. -/
def exponent? (cs : List Char) : Option (Int × List Char) :=
  match cs with
  | mark :: rest =>
    if mark = 'e' ∨ mark = 'E' then
      let (negative, digits) := match rest with
        | '-' :: r => (true, r)
        | '+' :: r => (false, r)
        | r => (false, r)
      let (ds, after) := spanDigits digits
      if ds.isEmpty then none
      else some (if negative then -(ofDigits ds : Int) else (ofDigits ds : Int), after)
    else none
  | [] => none

/-- The digits before the point: a lone zero, or digits that begin with another. -/
def wholeDigits? (cs : List Char) : Option (List Char × List Char) :=
  match cs with
  | [] => none
  | c :: rest =>
    if c = '0' then some (['0'], rest)
    else if c.isDigit then some (spanDigits (c :: rest))
    else none

/-- The longest number at the front of a text without sign. The limit on digits
concerns whole numbers, and neither their sign nor any other number. -/
def readMagnitude? (limits : Limits) (negative : Bool) (cs : List Char) :
    Option (Except Excess Number × List Char) := do
  let (whole, rest) ← wholeDigits? cs
  let (part, afterPart) := fraction rest
  let digits := ofDigits (whole ++ part)
  match exponent? afterPart with
  | some (e, after) => some (.ok (.float (.ofDecimal negative digits (e - part.length))), after)
  | none =>
    if part.isEmpty then
      let n : Int := if negative then -(digits : Int) else (digits : Int)
      some ((limits.checkDigits whole.length).map fun _ => .int n, afterPart)
    else some (.ok (.float (.ofDecimal negative digits (-(part.length : Int)))), afterPart)

def after? (word : String) (cs : List Char) : Option (List Char) :=
  if word.toList.isPrefixOf cs then some (cs.drop word.toList.length) else none

def words : List (String × Json) := [
  ("null", .null), ("true", .bool true), ("false", .bool false),
  ("NaN", .number (.float .nan)), ("Infinity", .number (.float (.infinity false))),
  ("-Infinity", .number (.float (.infinity true)))]

def readScalar (limits : Limits) (cs : List Char) : Reading Json :=
  match words.findSome? fun word => (after? word.1 cs).map fun rest => (word.2, rest) with
  | some r => .ok r
  | none =>
    let number := match cs with
      | '-' :: rest => readMagnitude? limits true rest
      | _ => readMagnitude? limits false cs
    match number with
    | some (.ok x, rest) => .ok (.number x, rest)
    | some (.error excess, _) => .error (.beyond excess)
    | none => .error (.malformed .value cs)

/-- Reads the name of a field, the colon and the space around it. -/
def readName (cs : List Char) : Reading String :=
  match cs with
  | '\x22' :: inner =>
    match readText cs inner with
    | .error stop => .error stop
    | .ok (key, rest) =>
      match skipSpace rest with
      | ':' :: body => .ok (key, skipSpace body)
      | other => .error (.malformed .colon other)
  | _ => .error (.malformed .name cs)

mutual

/-- Reads one value inside of `depth` lists and objects. Every call below uses up
one unit of `fuel`; two units a character are enough. -/
def readValue (limits : Limits) : (fuel depth : Nat) → List Char → Reading Json
  | 0, _, cs => .error (.malformed .value cs)
  | fuel + 1, depth, cs =>
    match cs with
    | [] => .error (.malformed .value [])
    | c :: rest =>
      if c = '\x22' then (readText (c :: rest) rest).map fun r => (.text r.1, r.2)
      else if c = '[' then
        if Limits.allows limits.depth (depth + 1) then
          match skipSpace rest with
          | ']' :: after => .ok (.list [], after)
          | items => (readItems limits fuel (depth + 1) items).map fun r => (.list r.1, r.2)
        else .error (.beyond .listDepth)
      else if c = '\x7b' then
        if Limits.allows limits.depth (depth + 1) then
          match skipSpace rest with
          | '\x7d' :: after => .ok (.object [], after)
          | fields =>
            (readFields limits fuel (depth + 1) fields).map fun r =>
              (.object (Table.ofPairs r.1), r.2)
        else .error (.beyond .objectDepth)
      else readScalar limits (c :: rest)

def readItems (limits : Limits) : (fuel depth : Nat) → List Char → Reading (List Json)
  | 0, _, cs => .error (.malformed .value cs)
  | fuel + 1, depth, cs =>
    match readValue limits fuel depth cs with
    | .error stop => .error stop
    | .ok (v, rest) =>
      match skipSpace rest with
      | ']' :: after => .ok ([v], after)
      | ',' :: more =>
        (readItems limits fuel depth (skipSpace more)).map fun r => (v :: r.1, r.2)
      | other => .error (.malformed .comma other)

def readFields (limits : Limits) : (fuel depth : Nat) → List Char → Reading (List (String × Json))
  | 0, _, cs => .error (.malformed .name cs)
  | fuel + 1, depth, cs =>
    match readName cs with
    | .error stop => .error stop
    | .ok (key, body) =>
      match readValue limits fuel depth body with
      | .error stop => .error stop
      | .ok (v, rest) =>
        match skipSpace rest with
        | '\x7d' :: after => .ok ([(key, v)], after)
        | ',' :: more =>
          (readFields limits fuel depth (skipSpace more)).map fun r => ((key, v) :: r.1, r.2)
        | other => .error (.malformed .comma other)

end

def readAll (limits : Limits) (cs : List Char) : Except Stop Json := do
  let (v, rest) ← readValue limits (2 * cs.length + 2) 0 (skipSpace cs)
  match skipSpace rest with
  | [] => .ok v
  | extra => .error (.malformed .extraData extra)

/-- What is wrong with a text, and where: `position` counts characters from zero,
`line` and `column` from one. -/
structure ReadFault where
  cause : ReadCause
  position : Nat
  line : Nat
  column : Nat
deriving DecidableEq, Repr

def ReadFault.locate (whole : List Char) (cause : ReadCause) (rest : List Char) : ReadFault :=
  let before := whole.take (whole.length - rest.length)
  { cause
    position := before.length
    line := before.count '\n' + 1
    column := (before.reverse.takeWhile (· ≠ '\n')).length + 1 }

/-- Why a text gives no value. -/
inductive Refusal where
  | malformed (fault : ReadFault)
  | beyond (excess : Excess)
deriving DecidableEq, Repr

def Stop.refusal (whole : List Char) : Stop → Refusal
  | .malformed cause rest => .malformed (.locate whole cause rest)
  | .beyond excess => .beyond excess

def readDecoded (limits : Limits) (cs : List Char) : Except Refusal Json :=
  (readAll limits cs).mapError (Stop.refusal cs)

/-- Reads one value from a text. A byte order mark at its front is refused. -/
def read (limits : Limits) (cs : List Char) : Except Refusal Json :=
  match cs with
  | '\ufeff' :: _ => .error (.malformed (.locate cs .byteOrderMark cs))
  | _ => readDecoded limits cs

def ReadCause.text : ReadCause → String
  | .value => "Expecting value"
  | .name => "Expecting property name enclosed in double quotes"
  | .colon => "Expecting ':' delimiter"
  | .comma => "Expecting ',' delimiter"
  | .unterminated => "Unterminated string starting at"
  | .controlCharacter => "Invalid control character at"
  | .escape => "Invalid \\escape"
  | .unicodeEscape => "Invalid \\uXXXX escape"
  | .extraData => "Extra data"
  | .byteOrderMark => "Unexpected UTF-8 BOM (decode using utf-8-sig)"

def ReadFault.message (fault : ReadFault) : String :=
  s!"{fault.cause.text}: line {fault.line} column {fault.column} (char {fault.position})"

def Refusal.message : Refusal → String
  | .malformed fault => fault.message
  | .beyond excess => excess.message

end BrowserFlow.Json
