import BrowserFlow.Text.Encoding
import BrowserFlow.Text.Half

/-!
# Text as bytes

`Utf8.encode` writes characters as one to four bytes, `Utf8.decode` reads them
back. Decoding stops at the first byte that cannot continue the sequence begun
before it, and reports where that sequence starts, which of its bytes were
acceptable, and why it failed. The ranges that a second byte may lie in exclude
overlong forms, surrogates and code points that are too large.

A text with halves of pairs has no bytes; `Utf8.unwritable?` finds the first of them.
-/

namespace BrowserFlow.Text.Utf8

/-- A sequence that is not complete: its bytes so far, how many are missing, the
range of the next one and the code point read so far. -/
structure Pending where
  start : Nat
  seen : List UInt8
  missing : Nat
  low : UInt8
  high : UInt8
  code : Nat

def lead? (start : Nat) (b : UInt8) : Option Pending :=
  if b < 0xc2 then none
  else if b < 0xe0 then some ⟨start, [b], 1, 0x80, 0xbf, b.toNat - 0xc0⟩
  else if b < 0xf0 then
    some ⟨start, [b], 2, if b = 0xe0 then 0xa0 else 0x80, if b = 0xed then 0x9f else 0xbf,
      b.toNat - 0xe0⟩
  else if b < 0xf5 then
    some ⟨start, [b], 3, if b = 0xf0 then 0x90 else 0x80, if b = 0xf4 then 0x8f else 0xbf,
      b.toNat - 0xf0⟩
  else none

def fault (start : Nat) (bytes : List UInt8) (reason : Encoding.Reason) : Encoding.Fault :=
  ⟨.utf8, start, bytes, reason⟩

/-- Decodes bytes from position `pos` on, inside a sequence if one is pending. -/
def decodeFrom : (pos : Nat) → Option Pending → List UInt8 → Except Encoding.Fault (List Char)
  | _, none, [] => .ok []
  | _, some p, [] => .error (fault p.start p.seen .endOfData)
  | pos, none, b :: bs =>
    if b < 0x80 then (Char.ofNat b.toNat :: ·) <$> decodeFrom (pos + 1) none bs
    else
      match lead? pos b with
      | none => .error (fault pos [b] .startByte)
      | some p => decodeFrom (pos + 1) (some p) bs
  | pos, some p, b :: bs =>
    if p.low ≤ b ∧ b ≤ p.high then
      let code := p.code * 64 + (b.toNat - 0x80)
      if p.missing = 1 then (Char.ofNat code :: ·) <$> decodeFrom (pos + 1) none bs
      else decodeFrom (pos + 1) (some ⟨p.start, p.seen ++ [b], p.missing - 1, 0x80, 0xbf, code⟩) bs
    else .error (fault p.start p.seen .continuationByte)

def decode (bytes : List UInt8) : Except Encoding.Fault (List Char) := decodeFrom 0 none bytes

/-- The byte that carries the low six bits of `n` after a first byte. -/
def continuation (n : Nat) : UInt8 := UInt8.ofNat (0x80 + n % 64)

def encodeChar (c : Char) : List UInt8 :=
  let n := c.toNat
  if n < 0x80 then [UInt8.ofNat n]
  else if n < 0x800 then [UInt8.ofNat (0xc0 + n / 64), continuation n]
  else if n < 0x10000 then
    [UInt8.ofNat (0xe0 + n / 4096), continuation (n / 64), continuation n]
  else
    [UInt8.ofNat (0xf0 + n / 262144), continuation (n / 4096), continuation (n / 64),
      continuation n]

def encode (cs : List Char) : List UInt8 := cs.flatMap encodeChar

def unwritable? (cs : List Char) : Option Encoding.Unwritable :=
  Encoding.unwritableFrom? .half half? 0 cs

/-- Only texts without halves have bytes. -/
theorem unwritable?_eq_none_iff {cs : List Char} : unwritable? cs = none ↔ isWhole cs = true := by
  simp [unwritable?, Encoding.unwritableFrom?_eq_none_iff, isWhole]

theorem decode_encode_of_ascii {cs : List Char} (h : ∀ c ∈ cs, c.toNat < 0x80) :
    decode (encode cs) = .ok cs := by
  suffices ∀ pos, decodeFrom pos none (encode cs) = .ok cs from this 0
  induction cs with
  | nil => intro pos; rfl
  | cons c cs ih =>
    intro pos
    have hc : c.toNat < 0x80 := h c (by simp)
    have hb : UInt8.ofNat c.toNat < 0x80 := by
      rw [UInt8.lt_iff_toNat_lt, UInt8.toNat_ofNat']
      show c.toNat % 256 < 128
      omega
    have hn : (UInt8.ofNat c.toNat).toNat = c.toNat := by
      rw [UInt8.toNat_ofNat']
      omega
    have hrest := ih (fun d hd => h d (by simp [hd])) (pos + 1)
    have henc : encode (c :: cs) = UInt8.ofNat c.toNat :: encode cs := by
      simp [encode, encodeChar, hc]
    rw [henc, decodeFrom, if_pos hb, hrest, hn, Char.ofNat_toNat]
    rfl

end BrowserFlow.Text.Utf8
