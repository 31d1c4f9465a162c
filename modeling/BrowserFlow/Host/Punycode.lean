import BrowserFlow.Text.Split

/-!
# Letters of all scripts in letters of ASCII

The form in ASCII of labels, as the HTTP client that sends a request writes and reads it.
A label with characters beyond ASCII is written as its characters of ASCII, a hyphen if
there are any, and a sequence of numbers. Each number tells how many steps lie between
one character and the next, where the steps go through all places of the label for one
code point after the other. A number has its lowest digit first. From a digit below a
threshold on a number is complete; the thresholds adapt to the numbers before.
-/

namespace BrowserFlow.Host.Punycode

def firstCode : Nat := 0x80

def firstBias : Nat := 72

def threshold (place bias : Nat) : Nat := min 26 (max 1 (36 * (place + 1) - bias))

theorem threshold_pos (place bias : Nat) : 0 < threshold place bias := by
  rw [threshold]
  omega

def biasOf (size : Nat) : Nat :=
  if 455 < size then biasOf (size / 35) + 36 else 36 * size / (size + 38)
termination_by size
decreasing_by omega

/-- The bias after a number. `characters` is how many characters the label has by then. -/
def nextBias (number characters : Nat) (first : Bool) : Nat :=
  let size := number / (if first then 700 else 2)
  biasOf (size + size / characters)

def digit? (c : Char) : Option Nat :=
  if 'a' ≤ c ∧ c ≤ 'z' then some (c.toNat - 97)
  else if 'A' ≤ c ∧ c ≤ 'Z' then some (c.toNat - 65)
  else if '0' ≤ c ∧ c ≤ '9' then some (c.toNat - 22)
  else none

def ofDigit (n : Nat) : Char := Char.ofNat (if n < 26 then n + 97 else n + 22)

/-! ## Reading -/

/-- A label whose numbers are read. `code` and `place` are those of the next step; `number`
is what the digits of the present number have given, `digits` how many they are and
`weight` what the next one counts. -/
structure Reader where
  codes : List Nat
  code : Nat := firstCode
  place : Nat := 0
  bias : Nat := firstBias
  first : Bool := true
  number : Nat := 0
  digits : Nat := 0
  weight : Nat := 1

def Reader.place? (r : Reader) (number : Nat) : Option Reader :=
  let places := r.codes.length + 1
  let code := r.code + (r.place + number) / places
  let place := (r.place + number) % places
  if 0x10ffff < code then none
  else
    some {
      codes := r.codes.take place ++ code :: r.codes.drop place
      code
      place := place + 1
      bias := nextBias number places r.first
      first := false }

def Reader.step? (r : Reader) (c : Char) : Option Reader := do
  let digit ← digit? c
  let number := r.number + digit * r.weight
  let t := threshold r.digits r.bias
  if digit < t then r.place? number
  else return { r with number, digits := r.digits + 1, weight := r.weight * (36 - t) }

/-- What stands before and after the last hyphen; all of it stands after where there is
none. -/
def splitLabel (cs : List Char) : List Char × List Char :=
  match cs.reverse.span (· ≠ '-') with
  | (after, _ :: before) => (before.reverse, after.reverse)
  | _ => ([], cs)

def decode? (cs : List Char) : Option (List Nat) := do
  let (plain, numbers) := splitLabel cs
  let r ← numbers.foldlM Reader.step? { codes := plain.map Char.toNat }
  if r.digits = 0 then some r.codes else none

/-! ## Writing -/

def digitsFrom (bias place number : Nat) : List Char :=
  let t := threshold place bias
  if number < t then [ofDigit number]
  else
    ofDigit (t + (number - t) % (36 - t)) :: digitsFrom bias (place + 1) ((number - t) / (36 - t))
termination_by number
decreasing_by
  have hpos := threshold_pos place bias
  exact Nat.lt_of_le_of_lt (Nat.div_le_self _ _) (by omega)

/-- A label whose numbers are written. `steps` is how many steps were made since the last
character, and `done` how many characters the label has so far. -/
structure Writer where
  digits : List Char := []
  steps : Nat := 0
  bias : Nat := firstBias
  done : Nat
  first : Bool := true

/-- Passes the place of a character on the way through a code point. -/
def Writer.pass (code : Nat) (w : Writer) (c : Char) : Writer :=
  if c.toNat < code then { w with steps := w.steps + 1 }
  else if c.toNat = code then
    { digits := w.digits ++ digitsFrom w.bias 0 w.steps
      steps := 0
      bias := nextBias w.steps (w.done + 1) w.first
      done := w.done + 1
      first := false }
  else w

/-- Passes all places for each of some code points in ascending order, of which `code` is
the first that may be met. -/
def Writer.passAll (label : List Char) (w : Writer) : (code : Nat) → List Nat → Writer
  | _, [] => w
  | code, next :: rest =>
    let w := label.foldl (pass next) { w with steps := w.steps + (next - code) * (w.done + 1) }
    passAll label { w with steps := w.steps + 1 } (next + 1) rest

def encode (label : List Char) : List Char :=
  let plain := label.filter fun c => c.toNat < firstCode
  let codes := ((label.map Char.toNat).filter fun n => firstCode ≤ n).mergeSort.eraseDups
  let w := Writer.passAll label { done := plain.length } firstCode codes
  (if plain.isEmpty then [] else plain ++ ['-']) ++ w.digits

end BrowserFlow.Host.Punycode
