import BrowserFlow.Json.Literal

/-!
# Toggles

A choice between two ways may come as any value: blank values decline it and all
others accept it. The value itself is kept, since records and events show what was
given. A choice made in the program is a `Bool`, which is a toggle of the value
true or false.
-/

namespace BrowserFlow

/-- A choice, given as a value. -/
structure Toggle where
  value : Json
deriving DecidableEq

namespace Toggle

def ofBool (b : Bool) : Toggle := ⟨.bool b⟩

instance : Coe Bool Toggle := ⟨ofBool⟩

def isOn (t : Toggle) : Bool := !t.value.isBlank

def shown (t : Toggle) : String := t.value.shown

@[simp] theorem isOn_ofBool (b : Bool) : (ofBool b).isOn = b := by
  simp [ofBool, isOn, Json.isBlank]

@[simp] theorem value_ofBool (b : Bool) : (ofBool b).value = .bool b := rfl

end Toggle

end BrowserFlow
