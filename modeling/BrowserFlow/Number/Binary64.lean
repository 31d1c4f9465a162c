/-!
# Binary floating-point numbers of 64 bits

`Binary64` is the bit pattern of a double-precision number. The module reads a
pattern as a sign, a magnitude `mantissa * 2 ^ scale` or one of the special
values, and rounds an exact decimal to the nearest pattern, a half going to the
even neighbour. All arithmetic is on natural numbers, so no operation of the
machine enters; powers are written `Nat.pow`, which names the operation itself.
-/

namespace BrowserFlow

/-- A double-precision number, given by its bit pattern. Two numbers are equal
when their patterns are, so a zero differs from its negative and the pattern of
an undefined value equals itself. -/
structure Binary64 where
  bits : UInt64
deriving DecidableEq

namespace Binary64

def fractionWidth : Nat := 52

def minScale : Int := -1074

/-- The pattern of positive infinity, which is also the first pattern above the
largest finite magnitude. -/
def infinityPattern : Nat := 0x7ff * Nat.pow 2 fractionWidth

/-- The pattern of negative zero, the sign bit alone. -/
def signPattern : Nat := Nat.pow 2 63

def magnitude (x : Binary64) : Nat := x.bits.toNat % signPattern

def isNegative (x : Binary64) : Bool := decide (signPattern ≤ x.bits.toNat)

/-- Neither infinite nor undefined. -/
def isFinite (x : Binary64) : Bool := decide (x.magnitude < infinityPattern)

def isNaN (x : Binary64) : Bool := decide (infinityPattern < x.magnitude)

def ofMagnitude (negative : Bool) (magnitude : Nat) : Binary64 :=
  ⟨UInt64.ofNat (if negative then signPattern + magnitude else magnitude)⟩

def infinity (negative : Bool) : Binary64 := ofMagnitude negative infinityPattern

def nan : Binary64 := ofMagnitude false (infinityPattern + Nat.pow 2 51)

def zero (negative : Bool) : Binary64 := ofMagnitude negative 0

/-- A finite magnitude is `mantissa * 2 ^ scale` with these two numbers. The
exponents zero and one share the least scale; only the first lacks the leading
bit. -/
def mantissa (x : Binary64) : Nat :=
  let fraction := x.magnitude % Nat.pow 2 fractionWidth
  if x.magnitude < Nat.pow 2 fractionWidth then fraction else Nat.pow 2 fractionWidth + fraction

def scale (x : Binary64) : Int :=
  minScale + ((x.magnitude / Nat.pow 2 fractionWidth - 1 : Nat) : Int)

/-- The nearest whole number to a quotient; a half goes to the even neighbour. -/
def roundQuotient (num den : Nat) : Nat :=
  let floor := num / den
  let rest := 2 * (num % den)
  if rest < den then floor
  else if den < rest then floor + 1
  else if floor % 2 = 0 then floor else floor + 1

/-- The pair of numbers that `num / den` becomes when divided by `2 ^ q`. -/
def scaleDown (num den : Nat) (q : Int) : Nat × Nat :=
  if 0 ≤ q then (num, den * Nat.pow 2 q.toNat) else (num * Nat.pow 2 (-q).toNat, den)

/-- The power of two that leaves 53 bits before the point of `num / den`, or the
least scale if that is larger. -/
def scaleFor (num den : Nat) : Int :=
  let guess := max ((Nat.log2 num : Int) - (Nat.log2 den : Int) - 53) minScale
  let (a, b) := scaleDown num den guess
  if Nat.pow 2 (fractionWidth + 1) ≤ a / b then guess + 1 else guess

/-- The pattern without sign that is nearest to a positive quotient. Adding the
rounded mantissa to the scale lets a carry move into the exponent by itself. -/
def nearestMagnitude (num den : Nat) : Nat :=
  let q := scaleFor num den
  let (a, b) := scaleDown num den q
  min infinityPattern ((q - minScale).toNat * Nat.pow 2 fractionWidth + roundQuotient a b)

/-- The count of decimal digits of a number, one for zero. -/
def digitCount (n : Nat) : Nat := (Nat.toDigits 10 n).length

/-- The number nearest to `digits * 10 ^ exponent`. A decimal beyond every finite
number, or below half the least positive one, is settled by its size alone, so
that no huge power is built. -/
def ofDecimal (negative : Bool) (digits : Nat) (exponent : Int) : Binary64 :=
  if digits = 0 then zero negative
  else
    let size := (digitCount digits : Int) + exponent
    if 310 < size then infinity negative
    else if size < -330 then zero negative
    else if 0 ≤ exponent then
      ofMagnitude negative (nearestMagnitude (digits * Nat.pow 10 exponent.toNat) 1)
    else
      ofMagnitude negative (nearestMagnitude digits (Nat.pow 10 (-exponent).toNat))

/-- The number nearest to a whole number; `none` when that is too large to be
finite. -/
def ofInt? (n : Int) : Option Binary64 :=
  let x := ofDecimal (decide (n < 0)) n.natAbs 0
  if x.isFinite then some x else none

end Binary64

end BrowserFlow
