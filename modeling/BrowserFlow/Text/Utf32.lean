import BrowserFlow.Text.Utf16

/-!
# Text in units of thirty-two bits

Each unit is the number of a character. Half a pair of surrogates is kept, as it is
among units of sixteen bits.
-/

namespace BrowserFlow.Text.Utf32

def decodeFrom (order : ByteOrder) : (pos : Nat) → List UInt8 →
    Except Encoding.Fault (List Char)
  | _, [] => .ok []
  | pos, a :: b :: c :: d :: rest =>
    let n := order.number [a, b, c, d]
    if n < 0x110000 then (Utf16.alone n :: ·) <$> decodeFrom order (pos + 4) rest
    else .error ⟨.utf32 order, pos, [a, b, c, d], .outOfRange⟩
  | pos, part => .error ⟨.utf32 order, pos, part, .truncated⟩

def decode (order : ByteOrder) (bytes : List UInt8) : Except Encoding.Fault (List Char) :=
  decodeFrom order 0 bytes

end BrowserFlow.Text.Utf32
