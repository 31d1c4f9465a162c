import BrowserFlow.Json.Basic

/-!
# Limits on values

Values are read and written within `Limits`: up to a depth of nesting and up to a
number of digits. A limit that is not set allows everything, so a law about all values is
stated for `{}` or for limits that are high enough. What goes beyond a limit is an
`Excess`, which is no fault of the format.
-/

namespace BrowserFlow.Json

/-- How much is taken. -/
structure Limits where
  /-- How many lists and objects may stand open at a place of a text. -/
  depth : Option Nat := none
  /-- How many digits a whole number may have. -/
  digits : Option Nat := none
  /-- How deep the copying of a whole value may go. -/
  copied : Option Nat := none
deriving DecidableEq, Repr

/-- What goes beyond a limit. -/
inductive Excess where
  /-- A list is opened inside of too many lists and objects. -/
  | listDepth
  /-- An object is opened inside of too many lists and objects. -/
  | objectDepth
  /-- A whole number has `count` digits where `limit` are allowed. -/
  | digits (limit count : Nat)
  /-- A whole number that is to be written has more than `limit` digits. -/
  | written (limit : Nat)
  /-- A value that is to be written as a text is nested too deep. -/
  | nested
  /-- The copying of a value goes too deep. -/
  | copyDepth
deriving DecidableEq, Repr

def Excess.message : Excess → String
  | .listDepth =>
    "maximum recursion depth exceeded while decoding a JSON array from a unicode string"
  | .objectDepth =>
    "maximum recursion depth exceeded while decoding a JSON object from a unicode string"
  | .digits limit count =>
    s!"Exceeds the limit ({limit} digits) for integer string conversion: value has {count} digits; "
      ++ "use sys.set_int_max_str_digits() to increase the limit"
  | .written limit =>
    s!"Exceeds the limit ({limit} digits) for integer string conversion; "
      ++ "use sys.set_int_max_str_digits() to increase the limit"
  | .nested | .copyDepth => "maximum recursion depth exceeded while calling a Python object"

namespace Limits

def allows (limit : Option Nat) (count : Nat) : Bool :=
  match limit with
  | none => true
  | some limit => decide (count ≤ limit)

@[simp] theorem allows_none (count : Nat) : allows none count = true := rfl

@[simp] theorem allows_some (limit count : Nat) :
    allows (some limit) count = decide (count ≤ limit) := rfl

def checkDigits (limits : Limits) (count : Nat) : Except Excess Unit :=
  match limits.digits with
  | none => .ok ()
  | some limit => if count ≤ limit then .ok () else .error (.digits limit count)

def nearer (limits : Limits) : Limits := { limits with copied := limits.copied.map (· + 1) }

@[simp] theorem nearer_unlimited : nearer {} = {} := rfl

def standard : Limits := { depth := some 989, digits := some 4300, copied := some 993 }

end Limits

mutual

/-- How far the deepest place of a value is. One without parts counts `leaf`; a list or
an object counts `step` more than its deepest part, for which at least `least` counts. -/
def extent (leaf least step : Nat) : Json → Nat
  | .list items => step + itemsExtent leaf least step items
  | .object fields => step + fieldsExtent leaf least step fields
  | .null | .bool _ | .number _ | .text _ => leaf

def itemsExtent (leaf least step : Nat) : List Json → Nat
  | [] => least
  | v :: rest => max (v.extent leaf least step) (itemsExtent leaf least step rest)

def fieldsExtent (leaf least step : Nat) : List (String × Json) → Nat
  | [] => least
  | (_, v) :: rest => max (v.extent leaf least step) (fieldsExtent leaf least step rest)

end

/-- How many lists and objects stand open at the deepest place of a value. -/
def depth (v : Json) : Nat := v.extent 0 0 1

/-- The height of a value: one where it has no parts, else one more than that of
its highest part. -/
def height (v : Json) : Nat := v.extent 1 0 1

/-- How deep the copying of a value goes: two steps for each list and object, two for
what stands inside, and one where nothing does. -/
def copyDepth (v : Json) : Nat := v.extent 2 1 2

mutual

theorem extent_mono {leaf leaf' : Nat} (h : leaf ≤ leaf') (least step : Nat) :
    ∀ v : Json, v.extent leaf least step ≤ v.extent leaf' least step
  | .list items => by
    have := itemsExtent_mono h least step items
    simp only [extent]
    omega
  | .object fields => by
    have := fieldsExtent_mono h least step fields
    simp only [extent]
    omega
  | .null | .bool _ | .number _ | .text _ => by simpa only [extent] using h

theorem itemsExtent_mono {leaf leaf' : Nat} (h : leaf ≤ leaf') (least step : Nat) :
    ∀ items : List Json, itemsExtent leaf least step items ≤ itemsExtent leaf' least step items
  | [] => by simp only [itemsExtent, Nat.le_refl]
  | v :: rest => by
    have := extent_mono h least step v
    have := itemsExtent_mono h least step rest
    simp only [itemsExtent]
    omega

theorem fieldsExtent_mono {leaf leaf' : Nat} (h : leaf ≤ leaf') (least step : Nat) :
    ∀ fields : List (String × Json),
      fieldsExtent leaf least step fields ≤ fieldsExtent leaf' least step fields
  | [] => by simp only [fieldsExtent, Nat.le_refl]
  | (_, v) :: rest => by
    have := extent_mono h least step v
    have := fieldsExtent_mono h least step rest
    simp only [fieldsExtent]
    omega

end

mutual

/-- The whole numbers of a value, in the order in which they are written. -/
def wholeNumbers : Json → List Int
  | .number (.int n) => [n]
  | .list items => itemsWholeNumbers items
  | .object fields => fieldsWholeNumbers fields
  | .null | .bool _ | .number (.float _) | .text _ => []

def itemsWholeNumbers : List Json → List Int
  | [] => []
  | v :: rest => v.wholeNumbers ++ itemsWholeNumbers rest

def fieldsWholeNumbers : List (String × Json) → List Int
  | [] => []
  | (_, v) :: rest => v.wholeNumbers ++ fieldsWholeNumbers rest

end

def checkWritten (limits : Limits) (v : Json) : Except Excess Unit :=
  match limits.digits with
  | none => .ok ()
  | some limit =>
    if v.wholeNumbers.all fun n => decide (Binary64.digitCount n.natAbs ≤ limit) then .ok ()
    else .error (.written limit)

/-- Writing is refused just if some whole number has more digits than allowed. -/
theorem checkWritten_eq_error_iff {limits : Limits} {v : Json} {excess : Excess} :
    checkWritten limits v = .error excess ↔ ∃ limit, limits.digits = some limit ∧
      excess = .written limit ∧ ∃ n ∈ v.wholeNumbers, limit < Binary64.digitCount n.natAbs := by
  unfold checkWritten
  cases limits.digits with
  | none => simp
  | some limit =>
    simp only [Option.some.injEq, exists_eq_left']
    split
    · rename_i hall
      simp only [List.all_eq_true, decide_eq_true_eq] at hall
      constructor
      · intro h
        cases h
      · rintro ⟨-, n, hn, hlong⟩
        exact absurd (hall n hn) (Nat.not_le.mpr hlong)
    · rename_i hnot
      simp only [List.all_eq_true, decide_eq_true_eq, Classical.not_forall] at hnot
      obtain ⟨n, hn, hlong⟩ := hnot
      constructor
      · intro h
        exact ⟨(Except.error.inj h).symm, n, hn, Nat.not_le.mp hlong⟩
      · rintro ⟨rfl, -⟩
        rfl

/-- Refuses to write a value as a text that is nested too deep or has a whole number with
too many digits. -/
def checkText (limits : Limits) (v : Json) : Except Excess Unit :=
  if Limits.allows limits.depth v.depth then checkWritten limits v else .error .nested

theorem depth_le_height (v : Json) : v.depth ≤ v.height := extent_mono (Nat.zero_le 1) 0 1 v

end BrowserFlow.Json
