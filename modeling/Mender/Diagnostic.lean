import Mender.Json.Intake

/-!
# Diagnostics

A diagnostic is one problem that a build reports at a place in a source file
(`Diagnostic`). Two diagnostics are the same occurrence when file, line and
message agree (`Diagnostic.identity`): a repair elsewhere on the line may move the
column without touching the problem.
-/

namespace Mender

/-- How grave a problem is. -/
inductive Severity
  | error
  | warning
  deriving DecidableEq, Repr

/-- Which of the tools of a build reported a problem. -/
inductive Source
  | lint
  | typeChecker
  deriving DecidableEq, Repr

/-- The names of the severities. -/
def Severity.names : List (String × Severity) := [("error", .error), ("warning", .warning)]

/-- The name of a severity. -/
def Severity.name : Severity → String
  | .error => "error"
  | .warning => "warning"

/-- The names of the sources. -/
def Source.names : List (String × Source) := [("lint", .lint), ("type-checker", .typeChecker)]

/-- The name of a source. -/
def Source.name : Source → String
  | .lint => "lint"
  | .typeChecker => "type-checker"

/-- A problem reported by a build. -/
structure Diagnostic where
  /-- The file, as the tool spells its path. -/
  file : String
  /-- The line, from 1. -/
  line : Int
  /-- The column, from 1. -/
  column : Int
  message : String
  /-- The lint rule; the type checker names none. -/
  ruleId : Option String
  severity : Severity
  source : Source
  deriving DecidableEq, Repr

namespace Diagnostic

/-- File, line and message of a diagnostic. -/
abbrev Identity := String × Int × String

/-- What makes two diagnostics the same occurrence. -/
def identity (d : Diagnostic) : Identity := (d.file, d.line, d.message)

/-- The place of a diagnostic, as messages give it. -/
def location (d : Diagnostic) : String :=
  d.file ++ ":" ++ toString d.line ++ ":" ++ toString d.column

/-- A diagnostic in JSON. -/
def toJson (d : Diagnostic) : Json :=
  .obj [("file", .str d.file), ("line", .int d.line), ("column", .int d.column),
    ("message", .str d.message), ("rule_id", .ofText? d.ruleId),
    ("severity", .str d.severity.name), ("source_format", .str d.source.name)]

/-- The diagnostic that an object describes; only file, line and message must be
    given. -/
def ofJson : Json → Json.Intake Diagnostic :=
  Json.record "Diagnostic" fun ms =>
    Json.Intake.ap (.ap (.ap (.ap (.ap (.ap
      (mk <$> Json.field "file" Json.text ms)
      (Json.field "line" Json.integer ms))
      (Json.fieldOr "column" Json.integer 1 ms))
      (Json.field "message" Json.text ms))
      (Json.fieldOr "rule_id" (Json.optional Json.text) none ms))
      (Json.fieldOr "severity" (Json.choice Severity.names) .error ms))
      (Json.fieldOr "source_format" (Json.choice Source.names) .lint ms)

end Diagnostic

end Mender
