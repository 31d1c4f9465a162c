/-!
# Halves of pairs

A character beyond the basic plane is a pair of surrogates in units of sixteen bits.
What text is read from may name one half of a pair without the other. Such a half is
no character, but it is kept: one of the private characters from U+10D800 to U+10DFFF stands
for it. A half can be written as an escape, and has no bytes.

Texts that have these private characters for themselves are left out: everywhere they are
taken for texts with halves, so they are escaped, joined and refused as those are. What is said
of texts without halves says nothing of them, and what is said of texts with halves is meant of
halves alone.
-/

namespace BrowserFlow.Text

def ofHalf (unit : Nat) : Char := Char.ofNat (0x100000 + unit)

def half? (c : Char) : Option Nat :=
  if 0x10d800 ≤ c.toNat ∧ c.toNat ≤ 0x10dfff then some (c.toNat - 0x100000) else none

def isWhole (cs : List Char) : Bool := cs.all fun c => (half? c).isNone

theorem half?_ofHalf {unit : Nat} (low : 0xd800 ≤ unit) (high : unit ≤ 0xdfff) :
    half? (ofHalf unit) = some unit := by
  have valid : (0x100000 + unit).isValidChar := Or.inr ⟨by omega, by omega⟩
  have number : (ofHalf unit).toNat = 0x100000 + unit := by
    rw [ofHalf, Char.ofNat, dif_pos valid]
    rfl
  rw [half?, number, if_pos (by omega)]
  simp

theorem half?_eq_none_of_lt {c : Char} (h : c.toNat < 0x10d800) : half? c = none :=
  if_neg (by omega)

end BrowserFlow.Text
