import BrowserFlow.Flow.Graph
import BrowserFlow.Json.Limits
import BrowserFlow.Json.Literal
import BrowserFlow.Script.Layout

/-!
# Script fragments

Each step of a flow becomes a few statements of the script language, its
`fragment`, whatever stands around it in the flow. Addresses, selectors and values
are put between single quotes as they are, nothing in them being escaped.

A step cannot always be written: its own statements may be no text, and a whole number
in it may have more digits than the limits let it be written with. `Node.faultWithin?`
tells what stands against it, and `Node.fault?` what does so within any limits.
-/

namespace BrowserFlow

namespace Script

def defaultTimeoutMillis : Int := 10000

/-- A parameter as it stands in a statement; nothing if it is not set. -/
def shownOrEmpty (v : Json) : String := if v.isSet then v.shown else ""

def located (selector : Json) : String :=
  s!"driver.find_element(By.CSS_SELECTOR, '{shownOrEmpty selector}')"

def pauseOf (millis : Json) : Json := if millis.isSet then millis else .int 0

/-- How long a wait for an element is at most. A limit of zero counts as none. -/
def limitOf (timeout : Json) : Json :=
  if timeout.isBlank then .int defaultTimeoutMillis else timeout

/-- A wait for a time, or for an element up to a limit; every mode but `time` is
the second. -/
def waiting (mode selector millis timeout : Json) : String :=
  if mode = .text "time" then s!"time.sleep({(pauseOf millis).shown} / 1000)"
  else
    s!"WebDriverWait(driver, {(limitOf timeout).shown} / 1000).until(" ++
      s!"EC.presence_of_element_located((By.CSS_SELECTOR, '{shownOrEmpty selector}')))"

def waitingValues (mode selector millis timeout : Json) : List Json :=
  if mode = .text "time" then [pauseOf millis] else [limitOf timeout, selector]

/-- The statements of a step of the user's own, line by line. Whatever is no text
counts as none here, and cannot be written at all. -/
def ownStatements (code : Json) : List Writing :=
  match code.text? with
  | none | some "" => [.comment "Custom code"]
  | some text => (Text.boundaryLines text.toList).map fun line => .line (String.ofList line)

/-- Looks whether an element shows. Both outcomes only hold a comment, and the
script goes on with the next step. -/
def visibilityProbe (selector : Json) : List Writing := [
  .blank,
  .line "try:",
  .deeper,
  .line s!"element = {located selector}",
  .line "is_displayed = element.is_displayed()",
  .line "if is_displayed:",
  .deeper,
  .comment "Continue with \"true\" path",
  .line "pass",
  .shallower,
  .line "else:",
  .deeper,
  .comment "Continue with \"false\" path",
  .line "pass",
  .shallower,
  .shallower,
  .line "except Exception:",
  .deeper,
  .comment "Continue with \"false\" path",
  .line "pass",
  .shallower]

/-- What a step of a kind writes. Kinds without parameters write a fixed line. -/
def statements (kind : Kind) (params : Params) : List Writing :=
  match kind with
  | .start => [.comment "Start the Selenium script"]
  | .finish => [.comment "End of Selenium script"]
  | .screenshot => [.line "driver.get_screenshot_as_base64()"]
  | .navigate => [.line s!"driver.get('{shownOrEmpty (params.get .url)}')"]
  | .click => [.line s!"{located (params.get .selector)}.click()"]
  | .typing =>
    [.line (located (params.get .selector) ++ s!".send_keys('{shownOrEmpty (params.get .value)}')")]
  | .select => [
      .blank,
      .line s!"select_element = {located (params.get .selector)}",
      .line ("Select(select_element).select_by_visible_text(" ++
        s!"'{shownOrEmpty (params.get .value)}')")]
  | .wait =>
    [.line (waiting (params.get .waitMode) (params.get .selector) (params.get .waitMillis)
      (params.get .timeoutMillis))]
  | .extract => [
      .blank,
      .line s!"element = {located (params.get .selector)}",
      .line "extracted_value = element.text",
      .line "print('Extracted value:', extracted_value)"]
  | .condition => visibilityProbe (params.get .selector)
  | .code => ownStatements (params.get .code)

/-- The values of the parameters that stand in what a step of a kind writes. Statements of
the user's own are copied and not shown. -/
def shownValues (kind : Kind) (params : Params) : List Json :=
  match kind with
  | .start | .finish | .screenshot | .code => []
  | .navigate => [params.get .url]
  | .click | .extract | .condition => [params.get .selector]
  | .typing | .select => [params.get .selector, params.get .value]
  | .wait =>
    waitingValues (params.get .waitMode) (params.get .selector) (params.get .waitMillis)
      (params.get .timeoutMillis)

/-- Why a step cannot be written. -/
inductive Fault where
  /-- Statements of the user's own are set to a value of another type than text. -/
  | notText (typeName : String)
  /-- A value that the step shows goes beyond a limit. -/
  | beyond (excess : Json.Excess)
deriving DecidableEq, Repr

/-- What keeps own statements from being written: they are neither a text nor blank. -/
def ownStatementsFault? (code : Json) : Option Fault :=
  if code.isBlank || code.text?.isSome then none else some (.notText code.typeName)

theorem ownStatementsFault?_of_accepts {code : Json} (h : Field.code.accepts code = true) :
    ownStatementsFault? code = none := by
  cases code <;> simp_all [Field.accepts, Field.valueType, ValueType.accepts, Json.isSet,
    ownStatementsFault?, Json.isBlank, Json.text?]

def shownFault? (limits : Json.Limits) (values : List Json) : Option Fault :=
  match Json.checkWritten limits (.list values) with
  | .ok () => none
  | .error excess => some (.beyond excess)

end Script

namespace Node

/-- The lines that a step writes. A parameter with a newline in it leaves its
line as one. -/
def fragmentLines (node : Node) : List String :=
  Script.layOut 0 (Script.statements node.kind node.params)

def fragment (node : Node) : String := Script.unlines node.fragmentLines ++ "\n"

def faultWithin? (limits : Json.Limits) (node : Node) : Option Script.Fault :=
  match node.kind with
  | .code => Script.ownStatementsFault? (node.params.get .code)
  | kind => Script.shownFault? limits (Script.shownValues kind node.params)

def fault? (node : Node) : Option Script.Fault := node.faultWithin? {}

theorem fault?_eq_none {node : Node}
    (h : Field.code.accepts (node.params.get .code) = true) : node.fault? = none := by
  unfold fault? faultWithin?
  split
  · exact Script.ownStatementsFault?_of_accepts h
  · rfl

end Node

end BrowserFlow
