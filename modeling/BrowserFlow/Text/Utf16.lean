import BrowserFlow.Text.Encoding
import BrowserFlow.Text.Half

/-!
# Text in units of sixteen bits

A character is one unit, or a pair of surrogates for a character beyond the basic
plane. Half a pair is kept as the character that stands for it, so that bytes are
only refused if they end inside of a unit.
-/

namespace BrowserFlow.Text.Utf16

def isHigh (n : Nat) : Bool := decide (0xd800 ≤ n ∧ n < 0xdc00)

def isLow (n : Nat) : Bool := decide (0xdc00 ≤ n ∧ n < 0xe000)

def paired (high low : Nat) : Char :=
  Char.ofNat (0x10000 + (high - 0xd800) * 0x400 + (low - 0xdc00))

def alone (n : Nat) : Char := if isHigh n || isLow n then ofHalf n else Char.ofNat n

/-- Joins each first half with the second half after it, and leaves other numbers as
they are. -/
def ofUnits : List Nat → List Char
  | [] => []
  | [n] => [alone n]
  | n :: m :: rest =>
    if isHigh n && isLow m then paired n m :: ofUnits rest else alone n :: ofUnits (m :: rest)

def unitsFrom (order : ByteOrder) : (pos : Nat) → List UInt8 → Except Encoding.Fault (List Nat)
  | _, [] => .ok []
  | pos, [b] => .error ⟨.utf16 order, pos, [b], .truncated⟩
  | pos, a :: b :: rest => (order.number [a, b] :: ·) <$> unitsFrom order (pos + 2) rest

def decode (order : ByteOrder) (bytes : List UInt8) : Except Encoding.Fault (List Char) :=
  ofUnits <$> unitsFrom order 0 bytes

end BrowserFlow.Text.Utf16
