import BrowserFlow.Journal
import BrowserFlow.Json.Literal
import BrowserFlow.Number.Reading
import BrowserFlow.Store.Path
import BrowserFlow.Table
import BrowserFlow.Text.Case
import BrowserFlow.Text.Split

/-!
# Settings of the service

The service is configured by variables of its environment. Each setting has a
default for a variable that is not there; two of them are numbers and are refused
if their text is none.
-/

namespace BrowserFlow.Service

structure Settings where
  host : String
  listenPort : Int
  scripts : Store.Path
  runnerUrl : Option String
  runnerTimeout : Binary64
  origins : List String
  logLevel : String

/-- The text of a variable that should be a number. -/
inductive SettingFault where
  | notInt (text : String)
  | notFloat (text : String)
  /-- The number has too many digits. -/
  | beyond (excess : Json.Excess)
deriving DecidableEq, Repr

namespace SettingFault

/-- How much of a text is shown where a whole number was expected. -/
def shownLimit : Nat := 200

def message (fault : SettingFault) : String :=
  let reason := match fault with
    | notInt text =>
      "invalid literal for int() with base 10: "
        ++ String.ofList ((Text.quoted text.toList).take shownLimit)
    | notFloat text =>
      "could not convert string to float: " ++ String.ofList (Text.quoted text.toList)
    | beyond excess => excess.message
  s!"invalid FLOWSCRIPT_* setting: {reason}"

end SettingFault

namespace Settings

def lookUp (environment : Table String) (name default : String) : String :=
  (Table.get? environment s!"FLOWSCRIPT_{name}").getD default

/-- The origins of a list with commas; blanks around them and empty entries are
dropped. -/
def listedOrigins (text : String) : List String :=
  ((Text.splitOn ',' text.toList).map fun part => String.ofList (Text.stripBlanks part)).filter
    fun origin => origin ≠ ""

/-- The number to listen on has to be whole. That it has too many digits is noticed
before anything that is wrong after them. -/
def listenPortOf (limits : Json.Limits) (text : String) : Except SettingFault Int := do
  (limits.checkDigits (Number.leadingDigits text.toList)).mapError .beyond
  match Number.typedInt? text.toList with
  | some n => .ok n
  | none => .error (.notInt text)

def timeoutOf (text : String) : Except SettingFault Binary64 :=
  match Number.typedFloat? text.toList with
  | some x => .ok x
  | none => .error (.notFloat text)

/-- Reads the settings. That there is nowhere to run scripts is worth a warning. -/
def ofVariables (limits : Json.Limits) (environment : Table String) :
    Journaled SettingFault Settings := do
  let get := lookUp environment
  let listenPort ← Journaled.lift (listenPortOf limits (get "PORT" "3001"))
  let timeout ← Journaled.lift (timeoutOf (get "RUNNER_TIMEOUT" "60"))
  let origins := listedOrigins (get "CORS_ORIGINS" "*")
  let url := get "RUNNER_URL" ""
  if url = "" then
    Journaled.note .warning .settings
      "FLOWSCRIPT_RUNNER_URL not set - run requests will be refused"
  return {
    host := get "HOST" "0.0.0.0"
    listenPort := listenPort
    scripts := Store.Path.ofString (get "SCRIPTS_DIR" "scripts")
    runnerUrl := if url = "" then none else some url
    runnerTimeout := timeout
    origins := if origins.isEmpty then ["*"] else origins
    logLevel := String.ofList (Text.upper (get "LOG_LEVEL" "INFO").toList) }

end Settings

end BrowserFlow.Service
