import BrowserFlow.Json.Reader
import BrowserFlow.Text.Utf8

/-!
# Percent encoding

Addresses write a byte as a percent sign and two hexadecimal digits. Decoding works
on bytes, since the bytes of one character are written one by one; a percent sign
without two digits after it stands for itself. What the bytes spell is then read as
text, with a replacement character for every sequence that is none.
-/

namespace BrowserFlow.Text.Percent

def sign : UInt8 := 0x25

def hexPair? (a b : UInt8) : Option UInt8 := do
  let high ← Json.hexValue? (Char.ofNat a.toNat)
  let low ← Json.hexValue? (Char.ofNat b.toNat)
  return UInt8.ofNat (16 * high + low)

/-- Replaces each sign and the two digits after it by the byte that they write. -/
def decodeBytes : List UInt8 → List UInt8
  | [] => []
  | [a] => [a]
  | [a, b] => [a, b]
  | a :: b :: c :: rest =>
    if a = sign then
      match hexPair? b c with
      | some byte => byte :: decodeBytes rest
      | none => a :: decodeBytes (b :: c :: rest)
    else a :: decodeBytes (b :: c :: rest)

def lenientFrom : (fuel : Nat) → List UInt8 → List Char
  | 0, _ => []
  | fuel + 1, bytes =>
    match Utf8.decode bytes with
    | .ok cs => cs
    | .error fault =>
      let before := ((Utf8.decode (bytes.take fault.start)).toOption).getD []
      before ++ '\ufffd' :: lenientFrom fuel (bytes.drop (fault.start + fault.bytes.length))

/-- Reads bytes as text. Each replacement stands for at least one byte. -/
def lenient (bytes : List UInt8) : List Char := lenientFrom (bytes.length + 1) bytes

def decode (cs : List Char) : List Char := lenient (decodeBytes (Utf8.encode cs))

end BrowserFlow.Text.Percent
