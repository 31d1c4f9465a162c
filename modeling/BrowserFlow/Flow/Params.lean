import BrowserFlow.Flow.Kind
import BrowserFlow.Json.Basic

/-!
# Parameters of a step

`Params` has one constructor for each `Shape`. A parameter that is not set holds
null. Outside documents nothing checks what is entered, so a parameter can hold
any value; `Field.Accepts` says which values are proper ones.

Two views are equivalent: reading each field (`get`) and building a record from a
function of the field (`build`).
-/

namespace BrowserFlow

/-- The parameters of a step; null stands for one that is not set. -/
inductive Params where
  | empty
  | navigate (url : Json)
  | click (selector : Json)
  | typing (selector value : Json)
  | select (selector value : Json)
  | wait (mode selector millis timeout : Json)
  | extract (selector : Json)
  | condition (selector : Json)
  | code (text : Json)
deriving DecidableEq

namespace Params

def shape : Params → Shape
  | empty => .empty
  | navigate _ => .navigate
  | click _ => .click
  | typing _ _ => .typing
  | select _ _ => .select
  | wait _ _ _ _ => .wait
  | extract _ => .extract
  | condition _ => .condition
  | code _ => .code

/-- The value of a field; null for a field that the record does not have. -/
def get : Params → Field → Json
  | navigate url, .url => url
  | click selector, .selector => selector
  | typing selector _, .selector => selector
  | typing _ value, .value => value
  | select selector _, .selector => selector
  | select _ value, .value => value
  | wait mode _ _ _, .waitMode => mode
  | wait _ selector _ _, .selector => selector
  | wait _ _ millis _, .waitMillis => millis
  | wait _ _ _ timeout, .timeoutMillis => timeout
  | extract selector, .selector => selector
  | condition selector, .selector => selector
  | code text, .code => text
  | _, _ => .null

def build (f : Field → Json) : Shape → Params
  | .empty => .empty
  | .navigate => .navigate (f .url)
  | .click => .click (f .selector)
  | .typing => .typing (f .selector) (f .value)
  | .select => .select (f .selector) (f .value)
  | .wait => .wait (f .waitMode) (f .selector) (f .waitMillis) (f .timeoutMillis)
  | .extract => .extract (f .selector)
  | .condition => .condition (f .selector)
  | .code => .code (f .code)

@[simp] theorem shape_build (f : Field → Json) (shape : Shape) : (build f shape).shape = shape := by
  cases shape <;> rfl

theorem get_build (f : Field → Json) (shape : Shape) (field : Field) :
    (build f shape).get field = if field ∈ shape.fields then f field else .null := by
  cases shape <;> cases field <;> rfl

@[simp] theorem build_get (p : Params) : build p.get p.shape = p := by
  cases p <;> rfl

theorem ext_get {p q : Params} (hs : p.shape = q.shape) (h : ∀ field, p.get field = q.get field) :
    p = q := by
  rw [← build_get p, ← build_get q, hs, funext h]

/-- The parameters that are set, under their names in documents, in order. -/
def pairs (p : Params) : Table Json :=
  p.shape.fields.filterMap fun field =>
    if (p.get field).isSet then some (field.name, p.get field) else none

/-- The value that named entries give to a field: the last entry counts. -/
def lastNamed (entries : Table Json) (field : Field) : Json :=
  match entries.reverse.find? fun entry => field.isNamed entry.1 with
  | some entry => entry.2
  | none => .null

/-- Builds a record from named entries. Entries that name no field of it are
passed over. -/
def ofPairs (shape : Shape) (entries : Table Json) : Params := build (lastNamed entries) shape

/-- Overlays the parameters that are set by `changes`; null unsets. -/
def merged (p : Params) (changes : Table Json) : Params :=
  ofPairs p.shape (Table.merge p.pairs changes)

@[simp] theorem shape_ofPairs (shape : Shape) (entries : Table Json) :
    (ofPairs shape entries).shape = shape := shape_build _ _

@[simp] theorem shape_merged (p : Params) (changes : Table Json) :
    (p.merged changes).shape = p.shape := shape_ofPairs _ _

end Params

/-- What a parameter asks of its value. -/
inductive ValueType where
  | text
  | millis
  | mode
deriving DecidableEq, Repr

def Field.valueType : Field → ValueType
  | .url | .selector | .value | .code => .text
  | .waitMillis | .timeoutMillis => .millis
  | .waitMode => .mode

/-- A wait ends when an element is there, or after a time. -/
def waitModes : List String := ["element", "time"]

/-- Whether a value that is set suits a type: any text, a whole number that is
not negative, or the name of a mode. -/
def ValueType.accepts : ValueType → Json → Bool
  | .text, .text _ => true
  | .millis, .number (.int n) => decide (0 ≤ n)
  | .mode, .text s => waitModes.contains s
  | _, _ => false

/-- Whether a parameter can hold a value: null, or one that suits its type. -/
def Field.accepts (field : Field) (v : Json) : Bool := !v.isSet || field.valueType.accepts v

end BrowserFlow
