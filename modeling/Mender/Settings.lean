import Mender.Assistant.Client
import Mender.Decimal.Numeral
import Mender.Text.Quoted

/-!
# Settings

What can be set from outside, by variables with a text each (`Settings.ofVariables`).
A variable that is not set leaves the default; a number that cannot be read is an
error, and the first of them in the order of the settings is reported.
-/

namespace Mender

/-- The settings of the program. -/
structure Settings where
  keys : Assistant.Keys
  /-- A model is asked for repairs where there is one. -/
  useModel : Bool
  /-- The number of builds in a session. -/
  maxBuilds : Int
  /-- The directory of a session for which none is named. -/
  target : String
  /-- The path of the report of a session. -/
  reportPath : String
  buildCommand : String
  /-- The seconds that a build may take. -/
  buildTimeout : Int
  /-- How often the start of a build is tried again. -/
  launchRetries : Int
  /-- The number of requests for a prompt. -/
  maxRequests : Int
  /-- The pause after the first request, in seconds. -/
  retryDelay : Double
  temperature : Double
  maxTokens : Int
  /-- The seconds that a request may take. -/
  requestTimeout : Double
  deriving DecidableEq, Repr

/-- Why a variable cannot be read. -/
inductive SettingError
  | notInteger (text : String)
  | tooManyDigits (count : Nat)
  | notReal (text : String)
  deriving DecidableEq, Repr

/-- The most characters of a quoted text that the message on a whole number shows. -/
def shownCharacters : Nat := 200

/-- The text of an error. -/
def SettingError.message : SettingError → String
  | .notInteger text =>
    "invalid literal for int() with base 10: "
      ++ String.ofList ((Text.quoted text.toList).take shownCharacters)
  | .tooManyDigits count => Text.tooManyDigits count
  | .notReal text =>
    "could not convert string to float: " ++ String.ofList (Text.quoted text.toList)

/-- Variables with their texts. -/
abbrev Variables := List (String × String)

namespace Variables

/-- The text of a variable, if it is set. -/
def text? (vs : Variables) (name : String) : Option String := vs.lookup name

/-- The whole number of a variable. -/
def integer (vs : Variables) (name : String) (default : Int) : Except SettingError Int :=
  match vs.text? name with
  | none => .ok default
  | some s =>
    match Numeral.integer s.toList with
    | .ok n => .ok n
    | .error .malformed => .error (.notInteger s)
    | .error (.tooLong count) => .error (.tooManyDigits count)

/-- The double of a variable. -/
def real (vs : Variables) (name : String) (default : Double) : Except SettingError Double :=
  match vs.text? name with
  | none => .ok default
  | some s =>
    match Numeral.real? s.toList with
    | some d => .ok d
    | none => .error (.notReal s)

/-- The text of the first variable, or of the second if the first is not set or
    empty. -/
def either (vs : Variables) (first second : String) : Option String :=
  match vs.text? first with
  | none | some "" => vs.text? second
  | some s => some s

end Variables

namespace Settings

/-- The settings without any variable. -/
def standard : Settings where
  keys := ⟨none, none, none⟩
  useModel := true
  maxBuilds := 3
  target := "./fixtures/target"
  reportPath := "compilation-fix-report.json"
  buildCommand := "npm run build"
  buildTimeout := 300
  launchRetries := 2
  maxRequests := 3
  retryDelay := .ofInt 1
  temperature := .ofDecimal false 1 (-1)
  maxTokens := 4000
  requestTimeout := .ofInt 60

/-- The settings that variables make. -/
def ofVariables (vs : Variables) : Except SettingError Settings := do
  let maxBuilds ← vs.integer "FIX_MAX_RETRIES" standard.maxBuilds
  let buildTimeout ← vs.integer "BUILD_TIMEOUT" standard.buildTimeout
  let launchRetries ← vs.integer "BUILD_SPAWN_RETRIES" standard.launchRetries
  let maxRequests ← vs.integer "LLM_MAX_RETRIES" standard.maxRequests
  let retryDelay ← vs.real "LLM_RETRY_DELAY" standard.retryDelay
  let temperature ← vs.real "LLM_TEMPERATURE" standard.temperature
  let maxTokens ← vs.integer "LLM_MAX_TOKENS" standard.maxTokens
  let requestTimeout ← vs.real "LLM_TIMEOUT" standard.requestTimeout
  return {
    keys := ⟨vs.text? "DEEPSEEK_TOKEN", vs.either "GLM_API_KEY" "GLM_TOKEN",
      vs.text? "OPENAI_API_KEY"⟩
    useModel := ((vs.text? "ENABLE_AI_REPAIR").getD "true").toLower == "true"
    maxBuilds
    target := (vs.text? "TARGET_DIR").getD standard.target
    reportPath := (vs.text? "REPORT_PATH").getD standard.reportPath
    buildCommand := (vs.text? "BUILD_COMMAND").getD standard.buildCommand
    buildTimeout, launchRetries, maxRequests, retryDelay, temperature, maxTokens, requestTimeout }

/-- How prompts are sent. -/
def policy (s : Settings) : Assistant.Policy :=
  ⟨s.maxRequests, .real s.retryDelay, .real s.temperature, .int s.maxTokens⟩

end Settings

end Mender
