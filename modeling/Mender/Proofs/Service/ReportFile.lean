import Mender.Proofs.Json.Indented
import Mender.Proofs.Neighbours
import Mender.Proofs.Text.Utf8
import Mender.Service.Job

/-!
# Reports in files

The file of a report says all that the report says (`reread_writeReport`): its bytes are a text, the
text is JSON, and in that the report is found again, together with the lengths of its lists. Only
whether there were no errors or an empty list of them is lost.

Each record is found again in its JSON (`Report.ofJson_document`), and the JSON in its text, as it
holds nothing that is not read as it is written (`Report.isPlain_document`).
-/

namespace Mender

open Repair

/-! ## Records -/

/-- A list is read back if its items are. -/
theorem Json.listOf_map {α : Type} {read : Json → Json.Intake α} {write : α → Json}
    (h : ∀ a, read (write a) = .ok a) (as : List α) :
    Json.listOf read (.arr (as.map write)) = .ok as := by
  have hitems (index : Nat) : Json.itemsFrom read index (as.map write) = .ok as := by
    induction as generalizing index with
    | nil => rfl
    | cons a as ih =>
      rw [List.map_cons, Json.itemsFrom, h, ih]
      rfl
  exact hitems 0

/-- A diagnostic is read back as it was written. -/
theorem Diagnostic.ofJson_toJson (d : Diagnostic) : ofJson d.toJson = .ok d := by
  obtain ⟨file, line, column, message, ruleId, severity, source⟩ := d
  cases ruleId <;> cases severity <;> cases source <;> rfl

/-- A record is read back as it was written. -/
theorem Repair.Record.ofJson_toJson (r : Record) : ofJson r.toJson = .ok r := by
  obtain ⟨file, message, backupPath, strategy, rule⟩ := r
  cases rule <;> rfl

namespace Session

/-- A diagnostic that was not fixed is read back as it was written. -/
theorem Unfixed.ofJson_toJson (u : Unfixed) : ofJson u.toJson = .ok u := by
  have hparts : ofJson u.toJson = Json.Intake.ap (.ap
      (mk <$> (Diagnostic.ofJson u.diagnostic.toJson).within (.member "diagnostic"))
      (.ok u.reason)) (.ok u.detail) := rfl
  rw [hparts, Diagnostic.ofJson_toJson]
  rfl

namespace Report

variable {r : Report}

/-- The report is found in its document, with a list of errors also where it has none. -/
theorem ofJson_document (timestamp : String) (r : Report) :
    ofJson (r.document timestamp) = .ok { r with errors := some (r.errors.getD []) } := by
  have hparts : ofJson (r.document timestamp) = Json.Intake.ap (.ap (.ap (.ap (.ap
      (mk <$> (.ok r.success))
      ((Json.listOf Record.ofJson (.arr (r.fixed.map Record.toJson))).within
        (.member "fixed_files")))
      (.ok r.attempts))
      ((some <$> Json.listOf Diagnostic.ofJson
        (.arr ((r.errors.getD []).map Diagnostic.toJson))).within (.member "errors")))
      ((Json.listOf Unfixed.ofJson (.arr (r.unfixed.map Unfixed.toJson))).within
        (.member "unfixed")))
      (.ok r.stopReason) := rfl
  rw [hparts, Json.listOf_map Record.ofJson_toJson, Json.listOf_map Diagnostic.ofJson_toJson,
    Json.listOf_map Unfixed.ofJson_toJson]
  rfl

/-! ## The document -/

end Report

end Session

/-- A text or nothing is read as it is written. -/
theorem Json.isPlain_ofText? {depth : Nat} (s : Option String) : IsPlain depth (ofText? s) := by
  cases s <;> simp [ofText?, IsPlain, Text.Loose.whole?]

theorem Json.isPlain_arr {α : Type} {write : α → Json} {as : List α} {depth : Nat}
    (h : ∀ a ∈ as, IsPlain depth (write a)) : IsPlain (depth + 1) (.arr (as.map write)) := by
  intro v hv
  obtain ⟨a, ha, rfl⟩ := List.mem_map.1 hv
  exact h a ha

/-- Line and column have no more digits than a numeral may have. -/
structure Diagnostic.IsShort (d : Diagnostic) : Prop where
  line : Json.IsShort d.line
  column : Json.IsShort d.column

theorem Diagnostic.isPlain_toJson {d : Diagnostic} {depth : Nat} (h : d.IsShort) :
    Json.IsPlain (depth + 1) d.toJson := by
  -- First the names of the members, which are given, then their values.
  refine ⟨by simp only [List.map_cons, List.map_nil]; decide, ?_⟩
  simp only [List.forall_mem_cons]
  simp [Json.IsPlain, Text.Loose.whole?, h.line, h.column, Json.isPlain_ofText?]

theorem Repair.Record.isPlain_toJson (r : Record) (depth : Nat) :
    Json.IsPlain (depth + 1) r.toJson := by
  refine ⟨by simp only [List.map_cons, List.map_nil]; decide, ?_⟩
  simp only [List.forall_mem_cons]
  simp [Json.IsPlain, Text.Loose.whole?, Json.isPlain_ofText?]

namespace Session

theorem Unfixed.isPlain_toJson {u : Unfixed} {depth : Nat} (h : u.diagnostic.IsShort) :
    Json.IsPlain (depth + 2) u.toJson := by
  refine ⟨by simp only [List.map_cons, List.map_nil]; decide, ?_⟩
  simp only [List.forall_mem_cons]
  simp [Json.IsPlain, Text.Loose.whole?, Diagnostic.isPlain_toJson h]

namespace Report

variable {r : Report}

/-- The whole numbers in the document of a report have no more digits than a numeral may have. The
    lengths of the lists are among them; a list that is too long for that fits into no memory. -/
structure IsShort (r : Report) : Prop where
  attempts : Json.IsShort r.attempts
  errors : ∀ d ∈ r.errors.getD [], d.IsShort
  unfixed : ∀ u ∈ r.unfixed, u.diagnostic.IsShort
  totalFixed : Json.IsShort r.fixed.length
  totalErrors : Json.IsShort (r.errors.getD []).length
  totalUnfixed : Json.IsShort r.unfixed.length

/-- The document of a short report is plain, four levels deep. -/
theorem isPlain_document (timestamp : String) (depth : Nat) (h : r.IsShort) :
    Json.IsPlain (depth + 4) (r.document timestamp) := by
  have hfixed : Json.IsPlain (depth + 3) (.arr (r.fixed.map Record.toJson)) :=
    Json.isPlain_arr fun a _ => a.isPlain_toJson _
  have herrors : Json.IsPlain (depth + 3) (.arr ((r.errors.getD []).map Diagnostic.toJson)) :=
    Json.isPlain_arr fun d hd => Diagnostic.isPlain_toJson (h.errors d hd)
  have hunfixed : Json.IsPlain (depth + 3) (.arr (r.unfixed.map Unfixed.toJson)) :=
    Json.isPlain_arr fun u hu => Unfixed.isPlain_toJson (h.unfixed u hu)
  refine ⟨by simp only [List.map_cons, List.map_nil]; decide, ?_⟩
  simp only [List.forall_mem_cons]
  refine ⟨?_, ?_, ?_, ?_, ⟨rfl, hfixed⟩, ⟨rfl, herrors⟩, ⟨rfl, hunfixed⟩, ?_, nofun⟩
  all_goals simp [Json.IsPlain, Text.Loose.whole?, h.attempts, h.totalFixed, h.totalErrors,
    h.totalUnfixed]

end Report

end Session

namespace Service

open Session

/-- A document from which a report is found again, with a list of errors also where it has none,
    and the lengths of the lists in it. -/
structure Describes (v : Json) (r : Report) : Prop where
  report : Report.ofJson v = .ok { r with errors := some (r.errors.getD []) }
  summary : ∃ ms totals, v = .obj ms ∧ Json.get? ms "summary" = some (.obj totals) ∧
    Json.get? totals "total_fixed" = some (.int r.fixed.length) ∧
    Json.get? totals "total_errors" = some (.int (r.errors.getD []).length) ∧
    Json.get? totals "total_unfixed" = some (.int r.unfixed.length)

/-- The document of a report describes it. -/
theorem describes_document (timestamp : String) (r : Report) :
    Describes (r.document timestamp) r :=
  ⟨r.ofJson_document timestamp, _, _, rfl, rfl, rfl, rfl, rfl⟩

/-- A report is written wherever a file can be, and it is found again in what the file holds. The
    reader must go as deep as the document of a report does. -/
theorem reread_writeReport (timestamp path : String) {r : Report} {t : FileTree} {depth : Nat}
    (hdepth : 4 ≤ depth) (hr : r.IsShort) (hpath : t.IsWritable (reportPlace path t)) :
    ∃ u bytes text v, writeReport timestamp path r t = .ok (some u) ∧
      u.read (reportPlace path t) = .ok bytes ∧ Text.Utf8.decode bytes = .ok text ∧
      Json.read depth (text.map .char) = .ok v ∧ Describes v r := by
  obtain ⟨depth, rfl⟩ := Nat.exists_eq_add_of_le' hdepth
  obtain ⟨u, hwrite, hread⟩ :=
    FileTree.exists_write hpath (Text.Utf8.encode (r.document timestamp).indented.toList)
  refine ⟨u, _, _, _, ?_, hread, Text.Utf8.decode_encode _,
    Json.read_indented (Report.isPlain_document timestamp depth hr), describes_document timestamp r⟩
  -- A path that leads somewhere is one.
  have hnull : '\x00' ∉ (reportPlace path t).toList := by
    obtain ⟨l, hfind, -⟩ := hpath
    exact FileTree.not_mem_of_find hfind
  simp only [writeReport, if_neg hnull, hwrite]
  rfl

/-- A report with texts that are escaped, an optional text that is missing, and no errors. -/
def oddReport : Report where
  success := false
  fixed := [⟨"a.ts", "it's \"odd\" \\ \x07", "/a.ts.backup.1", "rule", none⟩]
  attempts := -3
  errors := none
  unfixed :=
    [⟨⟨"b\r\n.ts", 1, 2, "\u2028 é", some "no-odd", .warning, .typeChecker⟩, "NO_CHANGE", ""⟩]
  stopReason := "stalled"

theorem reread_writeReport_oddReport :
    oddReport.IsShort ∧ (FileTree.mk [] []).IsWritable (reportPlace "report.json" ⟨[], []⟩) ∧
    ∃ u bytes text v, writeReport "now" "report.json" oddReport ⟨[], []⟩ = .ok (some u) ∧
      u.read (reportPlace "report.json" ⟨[], []⟩) = .ok bytes ∧
      Text.Utf8.decode bytes = .ok text ∧ Json.read 4 (text.map .char) = .ok v ∧
      Describes v oddReport := by
  have hunfixed : ∀ u ∈ oddReport.unfixed, u.diagnostic.IsShort := by
    intro u hu
    obtain rfl := List.mem_singleton.1 hu
    exact ⟨by decide, by decide⟩
  have hr : oddReport.IsShort := ⟨by decide, nofun, hunfixed, by decide, by decide, by decide⟩
  have hpath : (FileTree.mk [] []).IsWritable (reportPlace "report.json" ⟨[], []⟩) :=
    ⟨["report.json".toList], rfl, by decide +kernel⟩
  exact ⟨hr, hpath, reread_writeReport "now" "report.json" le_rfl hr hpath⟩

end Service

end Mender
