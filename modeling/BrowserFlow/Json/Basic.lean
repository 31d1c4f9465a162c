import BrowserFlow.Number.Basic
import BrowserFlow.Table

/-!
# Document values

`Json` is the type of the values that documents, requests and replies are made
of. Objects keep the order of their keys. Equality is decidable, kind of number
and order of keys included.
-/

namespace BrowserFlow

/-- A value of a document. -/
inductive Json where
  | null
  | bool (b : Bool)
  | number (x : Number)
  | text (s : String)
  | list (items : List Json)
  | object (fields : List (String × Json))

namespace Json

instance : Inhabited Json := ⟨.null⟩

def int (n : Int) : Json := .number (.int n)

def nat (n : Nat) : Json := .int n

mutual

def decEq : (a b : Json) → Decidable (a = b)
  | .null, .null => isTrue rfl
  | .bool a, .bool b => decidable_of_iff (a = b) (by simp)
  | .number a, .number b => decidable_of_iff (a = b) (by simp)
  | .text a, .text b => decidable_of_iff (a = b) (by simp)
  | .list as, .list bs =>
    have := decEqItems as bs
    decidable_of_iff (as = bs) (by simp)
  | .object as, .object bs =>
    have := decEqFields as bs
    decidable_of_iff (as = bs) (by simp)
  | .null, .bool _ | .null, .number _ | .null, .text _ | .null, .list _ | .null, .object _
  | .bool _, .null | .bool _, .number _ | .bool _, .text _ | .bool _, .list _ | .bool _, .object _
  | .number _, .null | .number _, .bool _ | .number _, .text _ | .number _, .list _
  | .number _, .object _
  | .text _, .null | .text _, .bool _ | .text _, .number _ | .text _, .list _ | .text _, .object _
  | .list _, .null | .list _, .bool _ | .list _, .number _ | .list _, .text _ | .list _, .object _
  | .object _, .null | .object _, .bool _ | .object _, .number _ | .object _, .text _
  | .object _, .list _ => isFalse (by simp)

def decEqItems : (as bs : List Json) → Decidable (as = bs)
  | [], [] => isTrue rfl
  | a :: as, b :: bs =>
    have := decEq a b
    have := decEqItems as bs
    decidable_of_iff (a = b ∧ as = bs) (by simp)
  | [], _ :: _ | _ :: _, [] => isFalse (by simp)

def decEqFields : (as bs : List (String × Json)) → Decidable (as = bs)
  | [], [] => isTrue rfl
  | (k, a) :: as, (l, b) :: bs =>
    have := decEq a b
    have := decEqFields as bs
    decidable_of_iff ((k = l ∧ a = b) ∧ as = bs) (by simp)
  | [], _ :: _ | _ :: _, [] => isFalse (by simp)

end

instance : DecidableEq Json := decEq

def text? : Json → Option String
  | .text s => some s
  | _ => none

def isNumber : Json → Bool
  | .number _ => true
  | _ => false

def fields? : Json → Option (Table Json)
  | .object fields => some fields
  | _ => none

def field? (key : String) : Json → Option Json
  | .object fields => Table.get? fields key
  | _ => none

/-- Whether a value counts as absent where any content is asked for: null, false,
zero and everything empty. -/
def isBlank : Json → Bool
  | .null => true
  | .bool b => !b
  | .number (.int n) => decide (n = 0)
  | .number (.float x) => decide (x.magnitude = 0)
  | .text s => s.isEmpty
  | .list items => items.isEmpty
  | .object fields => fields.isEmpty

/-- A value other than null. -/
def isSet : Json → Bool
  | .null => false
  | _ => true

end Json

end BrowserFlow
