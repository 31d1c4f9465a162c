import BrowserFlow.Json.Bytes
import BrowserFlow.Number.Reading

/-!
# Bodies of requests

A request comes without a body, with a value, or with something that is no value.
Operations name the fields that they need. Text has to be text; switches and
coordinates may also be written in a few other ways that people use for them.
Everything that does not fit is collected, since it is part of what is replied.
-/

namespace BrowserFlow.Service

/-- The limits on what a service takes. Serving a request has a depth of its own, so
less is left than elsewhere. -/
def limits : Json.Limits := { depth := some 957, digits := some 4300, copied := some 957 }

/-- What a body gives to an operation, or everything in it that does not fit: the
values themselves, and for a field that is missing the object that should have it. -/
inductive Fitting (α : Type) where
  | fits (a : α)
  | misfits (inputs : List Json)

namespace Fitting

variable {α β : Type}

/-- Applies a function to what fits. Two parts that do not fit are both told. -/
def apply : Fitting (α → β) → Fitting α → Fitting β
  | fits f, fits a => fits (f a)
  | fits _, misfits inputs => misfits inputs
  | misfits inputs, fits _ => misfits inputs
  | misfits first, misfits second => misfits (first ++ second)

instance : Applicative Fitting where
  pure := fits
  seq f x := apply f (x ())

@[simp] theorem pure_eq (a : α) : (pure a : Fitting α) = fits a := rfl

@[simp] theorem seq_eq (f : Fitting (α → β)) (x : Fitting α) : (f <*> x) = apply f x := rfl

@[simp] theorem map_eq (f : α → β) (x : Fitting α) : (f <$> x) = apply (fits f) x := rfl

/-- The value that a reading gives, or the misfit of the input that was read. -/
def ofOption (input : Json) : Option α → Fitting α
  | some a => fits a
  | none => misfits [input]

end Fitting

/-- What a request carries. -/
inductive Body where
  | absent
  /-- A text that is no value. -/
  | malformed
  /-- Bytes that are no text, or a value that goes beyond the limits. -/
  | unreadable
  | value (v : Json)

/-- Why a body gives no operation. -/
inductive BodyFault where
  | unreadable
  | misfits (inputs : List Json)

namespace Body

/-- Reads a body; an empty one is none. -/
def ofBytes (limits : Json.Limits) (bytes : List UInt8) : Body :=
  if bytes.isEmpty then absent
  else
    match Json.readBytes limits bytes with
    | .ok v => value v
    | .error (.refused (.malformed _)) => malformed
    | .error (.refused (.beyond _)) | .error (.undecodable _) => unreadable

/-- Reads a body as any value. One that is missing is told as null, and a malformed
one as an empty object. -/
def readValue {α : Type} (read : Json → Fitting α) : Body → Except BodyFault α
  | unreadable => .error .unreadable
  | absent => .error (.misfits [.null])
  | malformed => .error (.misfits [.object []])
  | value v =>
    match read v with
    | .fits a => .ok a
    | .misfits inputs => .error (.misfits inputs)

def required {α : Type} (read : Table Json → Fitting α) : Body → Except BodyFault α :=
  readValue fun v =>
    match v with
    | .object fields => read fields
    | _ => .misfits [v]

/-- Reads a body that may be left out, or be null. -/
def optional {α : Type} (default : α) (read : Table Json → Fitting α) : Body → Except BodyFault α
  | absent | value .null => .ok default
  | body => required read body

end Body

def requiredField {α : Type} (fields : Table Json) (key : String) (read : Json → Fitting α) :
    Fitting α :=
  match Table.get? fields key with
  | some v => read v
  | none => .misfits [.object fields]

def optionalField {α : Type} (fields : Table Json) (key : String) (read : Json → Fitting α) :
    Fitting (Option α) :=
  match Table.get? fields key with
  | none | some .null => .fits none
  | some v => some <$> read v

def asText (v : Json) : Fitting String := .ofOption v v.text?

def asObject (v : Json) : Fitting (Table Json) := .ofOption v v.fields?

def onWords : List String := ["1", "true", "t", "yes", "y", "on"]

def offWords : List String := ["0", "false", "f", "no", "n", "off"]

/-- The state of a switch: a truth value, one or zero, or a word in letters of any
case. -/
def switchState (v : Json) : Option Bool :=
  match v with
  | .bool b => some b
  | .number (.int n) => if n = 1 then some true else if n = 0 then some false else none
  | .number (.float x) =>
    if x = .ofDecimal false 1 0 then some true else if x.magnitude = 0 then some false else none
  | .text s =>
    let word := String.ofList (s.toList.map Char.toLower)
    if onWords.contains word then some true
    else if offWords.contains word then some false
    else none
  | _ => none

def switchField (fields : Table Json) (key : String) (default : Bool) : Fitting Bool :=
  match Table.get? fields key with
  | none => .fits default
  | some v => .ofOption v (switchState v)

/-- White space around a number: the blanks without the information separators. -/
def isPadding (c : Char) : Bool := Text.isBlank c && !(0x1c ≤ c.toNat && c.toNat ≤ 0x1f)

/-- Drops low lines, of which none may stand at an end or beside another. -/
def dropLowLines (cs : List Char) : Option (List Char) :=
  if cs.head? = some '_' ∨ cs.getLast? = some '_' ∨
      (cs.zip (cs.drop 1)).contains ('_', '_') then none
  else some (cs.filter (· ≠ '_'))

def numberOfText (cs : List Char) : Option Binary64 :=
  (Number.float? (Text.trimBoth isPadding cs)).or (dropLowLines cs >>= Number.float?)

/-- A coordinate. Whatever it is written as, it becomes a floating-point number. -/
def coordinate (v : Json) : Option Binary64 :=
  match v with
  | .number (.float x) => some x
  | .number (.int n) => Binary64.ofInt? n
  | .bool b => some (.ofDecimal false (if b then 1 else 0) 0)
  | .text s => numberOfText s.toList
  | _ => none

def coordinateField (field : String × Json) : Fitting (String × Json) :=
  (fun x => (field.1, .number (.float x))) <$> .ofOption field.2 (coordinate field.2)

def asPosition (v : Json) : Fitting (Table Json) :=
  match v with
  | .object fields => fields.mapA coordinateField
  | _ => .misfits [v]

end BrowserFlow.Service
