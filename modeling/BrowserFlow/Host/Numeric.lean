import BrowserFlow.Text.Split

/-!
# Addresses of hosts in numbers

Addresses in numbers are taken by the HTTP client that sends a request without a look at names.
A host may be given by four numbers with points between them, or by eight groups of
hexadecimal digits with colons between them, where two colons in a row stand for groups
that are zero. The last two groups may be given by four numbers, and a percent sign may
introduce a zone.
-/

namespace BrowserFlow.Host

/-- How far a text is read as four sequences of digits with one character of any kind
between two of them: `2 * n` before a digit of sequence `n`, and one more after it. -/
def numericStep (reached : List Nat) (c : Char) : List Nat :=
  let digits := if c.isDigit then reached.map fun s => if s % 2 = 0 then s + 1 else s else []
  let gaps := (reached.filter fun s => s % 2 = 1 ∧ s < 7).map (· + 1)
  (digits ++ gaps).eraseDups

/-- Whether a text looks like four numbers with one character between two of them. -/
def looksNumeric (cs : List Char) : Bool := (cs.foldl numericStep [0]).contains 7

def decimal (cs : List Char) : Nat := cs.foldl (fun n c => 10 * n + (c.toNat - 48)) 0

def isByte (cs : List Char) : Bool :=
  !cs.isEmpty && cs.all Char.isDigit && cs.length ≤ 3 && (cs == ['0'] || cs.head? != some '0') &&
    decimal cs < 256

def isFourBytes (cs : List Char) : Bool :=
  let parts := Text.splitOn '.' cs
  parts.length = 4 && parts.all isByte

def isHexDigit (c : Char) : Bool :=
  c.isDigit || 'a' ≤ c && c ≤ 'f' || 'A' ≤ c && c ≤ 'F'

def isGroup (cs : List Char) : Bool := !cs.isEmpty && cs.length ≤ 4 && cs.all isHexDigit

/-- How many groups parts stand for. The last part may be four numbers if `isLast` is set. -/
def groupCount? (isLast : Bool) : List (List Char) → Option Nat
  | [] => some 0
  | [part] =>
    if isGroup part then some 1 else if isLast && isFourBytes part then some 2 else none
  | part :: rest => if isGroup part then (groupCount? isLast rest).map (· + 1) else none

def groupsIn? (isLast : Bool) (cs : List Char) : Option Nat :=
  if cs.isEmpty then some 0 else groupCount? isLast (Text.splitOn ':' cs)

/-- What stands before and after the first two colons in a row. -/
def splitGap? : List Char → Option (List Char × List Char)
  | ':' :: ':' :: rest => some ([], rest)
  | [] => none
  | c :: rest => (splitGap? rest).map fun sides => (c :: sides.1, sides.2)

/-- Whether a text is eight groups, of which some may be left out. -/
def isEightGroups (cs : List Char) : Bool :=
  match splitGap? cs with
  | none => groupsIn? true cs = some 8
  | some (before, after) =>
    match groupsIn? false before, groupsIn? true after with
    | some m, some n => m + n < 8
    | _, _ => false

def isGroupsInZone (cs : List Char) : Bool :=
  match cs.span (· ≠ '%') with
  | (groups, _ :: zone) => isEightGroups groups && !zone.isEmpty && !zone.contains '%'
  | (groups, []) => isEightGroups groups

end BrowserFlow.Host
