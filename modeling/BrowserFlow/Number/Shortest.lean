import BrowserFlow.Number.Binary64

/-!
# The shortest decimal that reads back

A finite double stands for every real number that rounds to it, an interval
around its exact value. `Binary64.shortest` picks, among the decimals of that
interval, one with the fewest digits, and of those the nearest to the exact
value; of two equally near ones the even. `DecimalLayout` then says how digits
and exponent are laid out as text.
-/

namespace BrowserFlow

namespace Binary64

/-- A decimal `digits * 10 ^ exponent`. -/
structure Decimal where
  digits : Nat
  exponent : Int
deriving DecidableEq, Repr

/-- The reals that round to a positive number, as `low / den` to `high / den`
around `value / den`. The ends belong to it when the mantissa is even. -/
structure RoundingInterval where
  low : Nat
  value : Nat
  high : Nat
  den : Nat
  closed : Bool

/-- The rounding interval of the magnitude of `x`. Below a power of two the
neighbour is only half as far, except at the least scale. -/
def roundingInterval (x : Binary64) : RoundingInterval :=
  let m := x.mantissa
  let q := x.scale - 2
  let below := if m = Nat.pow 2 fractionWidth ∧ minScale < x.scale then 1 else 2
  let up := Nat.pow 2 q.toNat
  { low := (4 * m - below) * up
    value := 4 * m * up
    high := (4 * m + 2) * up
    den := Nat.pow 2 (-q).toNat
    closed := m % 2 = 0 }

/-- Whether `digits * 10 ^ exponent` lies in the interval. -/
def RoundingInterval.contains (r : RoundingInterval) (digits : Nat) (exponent : Int) : Bool :=
  let scaled := digits * Nat.pow 10 exponent.toNat * r.den
  let unit := Nat.pow 10 (-exponent).toNat
  if r.closed then decide (r.low * unit ≤ scaled ∧ scaled ≤ r.high * unit)
  else decide (r.low * unit < scaled ∧ scaled < r.high * unit)

/-- The place of the first digit: the value lies in `[10 ^ (p - 1), 10 ^ p)` for
the result `p`. -/
def RoundingInterval.pointPlace (r : RoundingInterval) : Int :=
  if r.den ≤ r.value then (digitCount (r.value / r.den) : Int)
  else 1 - (digitCount ((r.den + r.value - 1) / r.value - 1) : Int)

/-- The better of the two points of the grid `10 ^ exponent` that enclose the
value, if one of them lies in the interval. -/
def RoundingInterval.onGrid? (r : RoundingInterval) (exponent : Int) : Option Nat :=
  let unit := r.den * Nat.pow 10 exponent.toNat
  let scaled := r.value * Nat.pow 10 (-exponent).toNat
  let floor := scaled / unit
  let rest := 2 * (scaled % unit)
  match r.contains floor exponent, r.contains (floor + 1) exponent with
  | true, true =>
    if rest < unit then some floor
    else if unit < rest then some (floor + 1)
    else if floor % 2 = 0 then some floor else some (floor + 1)
  | true, false => some floor
  | false, true => some (floor + 1)
  | false, false => none

def Decimal.trim (d : Decimal) : Nat → Decimal
  | 0 => d
  | fuel + 1 =>
    if d.digits ≠ 0 ∧ d.digits % 10 = 0 then
      Decimal.trim ⟨d.digits / 10, d.exponent + 1⟩ fuel
    else d

/-- Seventeen digits tell any two doubles apart. -/
def digitLimit : Nat := 17

/-- The shortest decimal of a finite magnitude. The search goes from one digit
to `digitLimit`. -/
def shortest (x : Binary64) : Decimal :=
  if x.mantissa = 0 then ⟨0, 0⟩
  else
    let r := x.roundingInterval
    let place := r.pointPlace
    let found := (List.range digitLimit).findSome? fun n =>
      let exponent := place - (n + 1 : Nat)
      (r.onGrid? exponent).map fun digits => Decimal.mk digits exponent
    (found.getD ⟨x.mantissa, x.scale⟩).trim digitLimit

end Binary64

/-- How a decimal is laid out: positional while the exponent of its first digit
lies in `[positionalFrom, positionalBelow)`, and the names of the values that
have no digits. -/
structure DecimalLayout where
  positionalFrom : Int
  positionalBelow : Int
  /-- The least count of digits in an exponent. -/
  exponentWidth : Nat
  undefinedName : String
  infinityName : String

namespace DecimalLayout

def exponentText (layout : DecimalLayout) (exponent : Int) : List Char :=
  let digits := Nat.toDigits 10 exponent.natAbs
  'e' :: (if exponent < 0 then '-' else '+') ::
    (List.replicate (layout.exponentWidth - digits.length) '0' ++ digits)

/-- Digits with the point after `place` of them; zeros fill the gap on either
side, and at least one digit stands after the point. -/
def positionalText (digits : List Char) (place : Int) : List Char :=
  if place ≤ 0 then
    '0' :: '.' :: (List.replicate (-place).toNat '0' ++ digits)
  else if (digits.length : Int) ≤ place then
    digits ++ List.replicate (place.toNat - digits.length) '0' ++ ['.', '0']
  else digits.take place.toNat ++ '.' :: digits.drop place.toNat

/-- One digit, the others after a point if there are any, and the exponent. -/
def scientificText (layout : DecimalLayout) (digits : List Char) (exponent : Int) : List Char :=
  match digits with
  | [] => layout.exponentText exponent
  | [d] => d :: layout.exponentText exponent
  | d :: rest => d :: '.' :: (rest ++ layout.exponentText exponent)

def decimalText (layout : DecimalLayout) (d : Binary64.Decimal) : List Char :=
  let digits := Nat.toDigits 10 d.digits
  let place := (digits.length : Int) + d.exponent
  let exponent := if d.digits = 0 then 0 else place - 1
  if layout.positionalFrom ≤ exponent ∧ exponent < layout.positionalBelow then
    positionalText digits place
  else layout.scientificText digits exponent

def text (layout : DecimalLayout) (x : Binary64) : String :=
  if x.isNaN then layout.undefinedName
  else
    let body := if x.isFinite then layout.decimalText x.shortest else layout.infinityName.toList
    String.ofList (if x.isNegative then '-' :: body else body)

end DecimalLayout

end BrowserFlow
