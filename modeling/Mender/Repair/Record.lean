import Mender.Json.Intake

/-!
# Repair records

The entry of one applied repair in a report (`Record`). The copy of the file from
before the repair is named, so that the repair can be undone.
-/

namespace Mender.Repair

/-- An applied repair. -/
structure Record where
  /-- The file, as the diagnostic spells its path. -/
  file : String
  /-- The message of the diagnostic. -/
  message : String
  /-- The path of the copy from before the repair. -/
  backupPath : String
  /-- How the repair was made. -/
  strategy : String
  /-- The name of the rule that made it. -/
  rule : Option String
  deriving DecidableEq, Repr

namespace Record

/-- A record in JSON. -/
def toJson (r : Record) : Json :=
  .obj [("file", .str r.file), ("message", .str r.message), ("backup_path", .str r.backupPath),
    ("strategy", .str r.strategy), ("rule", .ofText? r.rule)]

/-- The record that an object describes. -/
def ofJson : Json → Json.Intake Record :=
  Json.record "RepairRecord" fun ms =>
    Json.Intake.ap (.ap (.ap (.ap
      (mk <$> Json.field "file" Json.text ms)
      (Json.field "message" Json.text ms))
      (Json.field "backup_path" Json.text ms))
      (Json.fieldOr "strategy" Json.text "" ms))
      (Json.fieldOr "rule" (Json.optional Json.text) none ms)

end Record

end Mender.Repair
