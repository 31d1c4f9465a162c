import BrowserFlow.Text.Utf32
import BrowserFlow.Text.Utf8

/-!
# Which encoding bytes are in

Bytes that do not say in which encoding they are may begin with a mark that does.
Otherwise the zeros among the first four tell, given that the text begins with two
characters of ASCII: these have a zero for each byte that their unit has too many.
-/

namespace BrowserFlow.Text.Encoding

/-- The marks at the front of bytes with their encodings, longer ones first. -/
def marks : List (List UInt8 × Encoding) := [
  ([0x00, 0x00, 0xfe, 0xff], utf32 .big), ([0xff, 0xfe, 0x00, 0x00], utf32 .little),
  ([0xfe, 0xff], utf16 .big), ([0xff, 0xfe], utf16 .little), ([0xef, 0xbb, 0xbf], utf8)]

/-- The encoding that the zeros among the first bytes point to. -/
def ofZeros : List UInt8 → Encoding
  | a :: b :: c :: d :: _ =>
    if a = 0 then (if b = 0 then utf32 .big else utf16 .big)
    else if b = 0 then (if c = 0 ∧ d = 0 then utf32 .little else utf16 .little)
    else utf8
  | [a, b] => if a = 0 then utf16 .big else if b = 0 then utf16 .little else utf8
  | _ => utf8

/-- The encoding of bytes, and the bytes without their mark. -/
def detect (bytes : List UInt8) : Encoding × List UInt8 :=
  match marks.find? fun mark => mark.1.isPrefixOf bytes with
  | some mark => (mark.2, bytes.drop mark.1.length)
  | none => (ofZeros bytes, bytes)

def decode : Encoding → List UInt8 → Except Fault (List Char)
  | utf8, bytes => Utf8.decode bytes
  | utf16 order, bytes => Utf16.decode order bytes
  | utf32 order, bytes => Utf32.decode order bytes

def decodeDetected (bytes : List UInt8) : Except Fault (List Char) :=
  decode (detect bytes).1 (detect bytes).2

end BrowserFlow.Text.Encoding
