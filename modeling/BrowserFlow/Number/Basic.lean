import BrowserFlow.Number.Shortest

/-!
# Numbers of a document

A document tells whole numbers, which are unbounded, from floating-point numbers,
and keeps the kind of each. So `1` and `1.0` are different values.
-/

namespace BrowserFlow

/-- A number as it is written in a document. -/
inductive Number where
  | int (n : Int)
  | float (x : Binary64)
deriving DecidableEq

def intText (n : Int) : List Char :=
  if n < 0 then '-' :: Nat.toDigits 10 n.natAbs else Nat.toDigits 10 n.natAbs

/-- The text of a number; `layout` settles that of a floating-point one. -/
def Number.text (layout : DecimalLayout) : Number → List Char
  | .int n => intText n
  | .float x => (layout.text x).toList

end BrowserFlow
