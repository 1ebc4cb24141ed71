import Mender.Diagnostic
import Mender.Repair.Reason
import Mender.Repair.Record

/-!
# The books of a session

A session books every diagnostic it works on, either as fixed, with the record of
the repair, or as unfixed, with a reason (`State`). There is one entry of the
second kind for an occurrence, that of the latest attempt, and a repair removes it.

Two rounds of diagnostics are the same when they hold the same occurrences equally
often (`sameOccurrences`).
-/

namespace Mender.Session

open Repair

/-- A diagnostic that was not repaired. -/
structure Unfixed where
  diagnostic : Diagnostic
  /-- The name of the reason. -/
  reason : String
  detail : String
  deriving DecidableEq, Repr

namespace Unfixed

/-- An entry in JSON. -/
def toJson (u : Unfixed) : Json :=
  .obj [("diagnostic", u.diagnostic.toJson), ("reason", .str u.reason), ("detail", .str u.detail)]

/-- The entry that an object describes. -/
def ofJson : Json → Json.Intake Unfixed :=
  Json.record "UnfixedDiagnostic" fun ms =>
    Json.Intake.ap (.ap
      (mk <$> Json.field "diagnostic" Diagnostic.ofJson ms)
      (Json.field "reason" Json.text ms))
      (Json.fieldOr "detail" Json.text "" ms)

/-- The entry for a reason of any name. A name that is none of the known ones moves
    into the detail. -/
def ofReason (d : Diagnostic) (reason detail : String) : Unfixed :=
  match Reason.ofName? reason with
  | some _ => ⟨d, reason, detail⟩
  | none => ⟨d, Reason.noChange.name, if detail = "" then reason else reason ++ ": " ++ detail⟩

end Unfixed

/-- The books of a session. -/
structure State where
  /-- The applied repairs, in the order of their application. -/
  fixed : List Record
  /-- The occurrences that are not repaired, in the order of their latest attempt. -/
  unfixed : List Unfixed
  deriving DecidableEq, Repr

namespace State

/-- The books at the start. -/
def empty : State := ⟨[], []⟩

/-- The entries without that of an occurrence. -/
def without (identity : Diagnostic.Identity) (us : List Unfixed) : List Unfixed :=
  us.filter (·.diagnostic.identity ≠ identity)

/-- The books after a repair, made for a diagnostic or for none. -/
def bookFixed (s : State) (r : Record) (d? : Option Diagnostic) : State :=
  { s with
    fixed := s.fixed ++ [r]
    unfixed := match d? with
      | none => s.unfixed
      | some d => without d.identity s.unfixed }

/-- The books after a diagnostic was not repaired. -/
def bookUnfixed (s : State) (d : Diagnostic) (reason detail : String) : State :=
  { s with unfixed := without d.identity s.unfixed ++ [.ofReason d reason detail] }

end State

/-- Both lists hold the same occurrences equally often. -/
def sameOccurrences (current previous : List Diagnostic) : Bool :=
  let now := current.map Diagnostic.identity
  let before := previous.map Diagnostic.identity
  (now ++ before).all fun i => now.count i == before.count i

/-- The diagnostics are those of the round before, if there was one. -/
def isStalled (current : List Diagnostic) : (previous : Option (List Diagnostic)) → Bool
  | none => false
  | some previous => sameOccurrences current previous

end Mender.Session
