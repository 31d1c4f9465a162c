/-!
# Kinds of steps

A flow is made of steps of eleven kinds. The kind settles which parameters a step
has: each kind belongs to a `Shape`, the record of parameters that kinds such as
start and end share, and a shape lists its `Field`s in order.
-/

namespace BrowserFlow

/-- What a step does. -/
inductive Kind where
  | start
  | navigate
  | click
  | typing
  | select
  | wait
  | screenshot
  | extract
  | condition
  | code
  | finish
deriving DecidableEq, Repr

/-- A parameter of a step. -/
inductive Field where
  | url
  | selector
  | value
  | code
  | waitMode
  | waitMillis
  | timeoutMillis
deriving DecidableEq, Repr

/-- The record of parameters that a kind has. -/
inductive Shape where
  | empty
  | navigate
  | click
  | typing
  | select
  | wait
  | extract
  | condition
  | code
deriving DecidableEq, Repr

namespace Kind

def all : List Kind :=
  [start, navigate, click, typing, select, wait, screenshot, extract, condition, code, finish]

def name : Kind → String
  | start => "start"
  | navigate => "navigate"
  | click => "click"
  | typing => "type"
  | select => "select"
  | wait => "wait"
  | screenshot => "screenshot"
  | extract => "extract"
  | condition => "condition"
  | code => "code"
  | finish => "end"

def ofName? (name : String) : Option Kind := all.find? fun kind => kind.name = name

def color : Kind → String
  | start => "#4CAF50"
  | navigate => "#2196F3"
  | click => "#FF9800"
  | typing => "#9C27B0"
  | select => "#00BCD4"
  | wait => "#607D8B"
  | screenshot => "#E91E63"
  | extract => "#673AB7"
  | condition => "#FF5722"
  | code => "#795548"
  | finish => "#F44336"

def description : Kind → String
  | start => "Start the Selenium script"
  | navigate => "Navigate to a URL"
  | click => "Click on an element"
  | typing => "Type text into an input"
  | select => "Select from a dropdown"
  | wait => "Wait for an element or time"
  | screenshot => "Take a screenshot"
  | extract => "Extract data from the page"
  | condition => "Conditional branching"
  | code => "Custom Python code"
  | finish => "End the Selenium script"

def shape : Kind → Shape
  | start | screenshot | finish => .empty
  | navigate => .navigate
  | click => .click
  | typing => .typing
  | select => .select
  | wait => .wait
  | extract => .extract
  | condition => .condition
  | code => .code

theorem mem_all (kind : Kind) : kind ∈ all := by
  cases kind <;> decide

theorem ofName?_name (kind : Kind) : ofName? kind.name = some kind := by
  cases kind <;> decide

theorem name_of_ofName? {name : String} {kind : Kind} (h : ofName? name = some kind) :
    kind.name = name := by
  simpa using List.find?_some h

theorem name_injective {a b : Kind} (h : a.name = b.name) : a = b := by
  have := ofName?_name a
  rw [h, ofName?_name] at this
  exact (Option.some.inj this).symm

end Kind

namespace Field

def name : Field → String
  | url => "url"
  | selector => "selector"
  | value => "value"
  | code => "code"
  | waitMode => "waitMode"
  | waitMillis => "waitMillis"
  | timeoutMillis => "timeoutMillis"

/-- A second spelling under which a parameter can be given outside documents. -/
def spacedName : Field → String
  | waitMode => "wait_mode"
  | waitMillis => "wait_millis"
  | timeoutMillis => "timeout_millis"
  | field => field.name

def isNamed (field : Field) (key : String) : Bool :=
  key == field.name || key == field.spacedName

theorem name_injective {a b : Field} (h : a.name = b.name) : a = b := by
  revert h
  cases a <;> cases b <;> decide

end Field

namespace Shape

def fields : Shape → List Field
  | empty => []
  | navigate => [.url]
  | click | extract | condition => [.selector]
  | typing | select => [.selector, .value]
  | wait => [.waitMode, .selector, .waitMillis, .timeoutMillis]
  | code => [.code]

def fieldNames (shape : Shape) : List String := shape.fields.map Field.name

def name : Shape → String
  | empty => "EmptyParams"
  | navigate => "NavigateParams"
  | click => "ClickParams"
  | typing => "TypeParams"
  | select => "SelectParams"
  | wait => "WaitParams"
  | extract => "ExtractParams"
  | condition => "ConditionParams"
  | code => "CodeParams"

def field? (shape : Shape) (key : String) : Option Field :=
  shape.fields.find? fun field => field.name = key

end Shape

end BrowserFlow
