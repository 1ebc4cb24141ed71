import Mender.Json.Writer
import Mender.Session.State

/-!
# Session reports

What a session leaves behind (`Report`). It is written to a file as a JSON document
that carries the time of writing and the lengths of the lists as well
(`Report.document`); there, no errors and an empty list of errors look the same.
-/

namespace Mender.Session

open Repair

/-- The result of a session. -/
structure Report where
  /-- The last build passed. -/
  success : Bool
  /-- The applied repairs, in the order of their application. -/
  fixed : List Record
  /-- The number of builds. -/
  attempts : Int
  /-- The diagnostics that were left when the session stopped; none on success. -/
  errors : Option (List Diagnostic)
  unfixed : List Unfixed
  /-- Why the session stopped. -/
  stopReason : String
  deriving DecidableEq, Repr

namespace Report

/-- A report in JSON. -/
def toJson (r : Report) : Json :=
  .obj [("success", .bool r.success), ("fixed_files", .arr (r.fixed.map Record.toJson)),
    ("attempts", .int r.attempts),
    ("errors",
      match r.errors with
      | none => .null
      | some ds => .arr (ds.map Diagnostic.toJson)),
    ("unfixed", .arr (r.unfixed.map Unfixed.toJson)), ("stop_reason", .str r.stopReason)]

/-- The report that an object describes; only success must be given. -/
def ofJson : Json → Json.Intake Report :=
  Json.record "SessionReport" fun ms =>
    Json.Intake.ap (.ap (.ap (.ap (.ap
      (mk <$> Json.field "success" Json.truth ms)
      (Json.fieldOr "fixed_files" (Json.listOf Record.ofJson) [] ms))
      (Json.fieldOr "attempts" Json.integer 0 ms))
      (Json.fieldOr "errors" (Json.optional (Json.listOf Diagnostic.ofJson)) none ms))
      (Json.fieldOr "unfixed" (Json.listOf Unfixed.ofJson) [] ms))
      (Json.fieldOr "stop_reason" Json.text "" ms)

/-- The document of a report that is written at the given time. -/
def document (timestamp : String) (r : Report) : Json :=
  let errors := r.errors.getD []
  .obj [("timestamp", .str timestamp), ("success", .bool r.success),
    ("attempts", .int r.attempts), ("stop_reason", .str r.stopReason),
    ("fixed_files", .arr (r.fixed.map Record.toJson)),
    ("errors", .arr (errors.map Diagnostic.toJson)),
    ("unfixed", .arr (r.unfixed.map Unfixed.toJson)),
    ("summary",
      .obj [("total_fixed", .int r.fixed.length), ("total_errors", .int errors.length),
        ("total_unfixed", .int r.unfixed.length)])]

end Report

end Mender.Session
