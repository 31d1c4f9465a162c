import BrowserFlow.Text.Quoted

/-!
# Encodings

Text comes as bytes in one of several encodings. Each encoding has a module of its
own that decodes it; here are their names and the faults that all of them report.
-/

namespace BrowserFlow.Text

/-- Which byte of a unit comes first. -/
inductive ByteOrder where
  | big
  | little
deriving DecidableEq, Repr

inductive Encoding where
  | utf8
  | utf16 (order : ByteOrder)
  | utf32 (order : ByteOrder)
deriving DecidableEq, Repr

def numberOf (bytes : List UInt8) : Nat := bytes.foldl (fun n b => 256 * n + b.toNat) 0

def ByteOrder.number (order : ByteOrder) (bytes : List UInt8) : Nat :=
  match order with
  | .big => numberOf bytes
  | .little => numberOf bytes.reverse

def ByteOrder.suffix : ByteOrder → String
  | .big => "be"
  | .little => "le"

namespace Encoding

def name : Encoding → String
  | utf8 => "utf-8"
  | utf16 order => s!"utf-16-{order.suffix}"
  | utf32 order => s!"utf-32-{order.suffix}"

/-- Why a sequence of bytes is not text. -/
inductive Reason where
  | startByte
  | continuationByte
  | endOfData
  /-- The bytes end inside of a unit. -/
  | truncated
  /-- The number is larger than that of any character. -/
  | outOfRange
deriving DecidableEq, Repr

def Reason.text : Reason → String
  | .startByte => "invalid start byte"
  | .continuationByte => "invalid continuation byte"
  | .endOfData => "unexpected end of data"
  | .truncated => "truncated data"
  | .outOfRange => "code point not in range(0x110000)"

/-- The offending sequence: the position of its first byte and the bytes that were
acceptable, at least the first one. -/
structure Fault where
  encoding : Encoding
  start : Nat
  bytes : List UInt8
  reason : Reason
deriving DecidableEq, Repr

/-- The place of a fault: one byte with its value, or a span of several. -/
def Fault.place (fault : Fault) : String :=
  match fault.bytes with
  | [b] => s!"byte 0x{String.ofList (hexDigits 2 b.toNat)} in position {fault.start}"
  | bytes => s!"bytes in position {fault.start}-{fault.start + bytes.length - 1}"

def Fault.message (fault : Fault) : String :=
  s!"'{fault.encoding.name}' codec can't decode {fault.place}: {fault.reason.text}"

/-- Why a character cannot be written as bytes. -/
inductive Obstacle where
  /-- Half of a pair, in an encoding of all characters. -/
  | half
  /-- A character beyond ASCII, where only ASCII may be written. -/
  | notAscii
deriving DecidableEq, Repr

def Obstacle.codec : Obstacle → String
  | .half => utf8.name
  | .notAscii => "ascii"

def Obstacle.text : Obstacle → String
  | .half => "surrogates not allowed"
  | .notAscii => "ordinal not in range(128)"

/-- The first characters of a text that cannot be written, by their numbers, and the
position of the first of them. -/
structure Unwritable where
  obstacle : Obstacle
  start : Nat
  numbers : List Nat
deriving DecidableEq, Repr

/-- The first characters that cannot be written of a text whose first character is at a
position. `number?` gives the number of a character that cannot be written. -/
def unwritableFrom? (obstacle : Obstacle) (number? : Char → Option Nat) :
    (pos : Nat) → List Char → Option Unwritable
  | _, [] => none
  | pos, c :: rest =>
    match number? c with
    | none => unwritableFrom? obstacle number? (pos + 1) rest
    | some n =>
      some ⟨obstacle, pos, n :: ((rest.map number?).takeWhile Option.isSome).filterMap id⟩

theorem unwritableFrom?_eq_none_iff {obstacle : Obstacle} {number? : Char → Option Nat} {pos : Nat}
    {cs : List Char} :
    unwritableFrom? obstacle number? pos cs = none ↔ ∀ c ∈ cs, number? c = none := by
  induction cs generalizing pos with
  | nil => simp [unwritableFrom?]
  | cons c rest ih => cases h : number? c <;> simp [unwritableFrom?, h, ih]

/-- Where the characters stand: one with its number, or a span of several. -/
def Unwritable.place (u : Unwritable) : String :=
  match u.numbers with
  | [n] => s!"character '{String.ofList (escapeCode n)}' in position {u.start}"
  | numbers => s!"characters in position {u.start}-{u.start + numbers.length - 1}"

def Unwritable.message (u : Unwritable) : String :=
  s!"'{u.obstacle.codec}' codec can't encode {u.place}: {u.obstacle.text}"

def unwritableInAscii? (cs : List Char) : Option Unwritable :=
  unwritableFrom? .notAscii (fun c => if c.toNat < 128 then none else some c.toNat) 0 cs

end Encoding

end BrowserFlow.Text
