import Mender.BuildLog
import Mender.Session.Report
import Mender.Session.World

/-!
# Running a session

A session builds, reads the diagnostics off the log, repairs them one after another in
the order of the log, and builds again (`run`). It stops when a build passes, when a
failed build reports no diagnostics or those of the build before, or when it has built
as often as it may. Every stop has a report.

A diagnostic is worked on by `attempt`, which reads the file as it stands at that
moment, so that several repairs of one file add up.

A model may answer with a content that no file can have. A session that is to write one
breaks off without a report.
-/

namespace Mender.Session

open Repair

/-- Why a session stops. -/
inductive Stop
  | success
  | noDiagnostics
  /-- The diagnostics are those of the build before. -/
  | stalled
  | budgetExhausted
  deriving DecidableEq, Repr

/-- The name of a stop in reports. -/
def Stop.name : Stop → String
  | success => "success"
  | noDiagnostics => "no_diagnostics"
  | stalled => "stalled"
  | budgetExhausted => "budget_exhausted"

/-- What comes of the work on one diagnostic. -/
inductive Result
  | fixed (r : Record)
  | unfixed (reason detail : String)
  /-- The selector called a content changed that was not. -/
  | untouched
  deriving DecidableEq, Repr

/-- The result that carries a reason. -/
def Result.because (reason : Reason) (detail : String) : Result := .unfixed reason.name detail

/-- The books after the work on a diagnostic. -/
def State.book (s : State) (d : Diagnostic) : Result → State
  | .fixed r => s.bookFixed r (some d)
  | .unfixed reason detail => s.bookUnfixed d reason detail
  | .untouched => s

/-- The replacement that a decision asks for. -/
def replacement (path : AbsolutePath) (d : Diagnostic) (content : String) (o : Outcome) :
    Replacement :=
  ⟨path.text, o.content, content, d.message, d.file, o.strategy, o.rule.map Rule.name⟩

/-- What comes of work in a session, unless the session breaks off. -/
abbrev Working (α : Type) := Except Breakage α × World

/-- The work on the file of a diagnostic that lies below the build root. -/
def repairFile (path : AbsolutePath) (d : Diagnostic) (w : World) : Working Result :=
  match w.readText path.text with
  | .error why => (.ok (.because .readFailed why), w)
  | .ok content =>
    let (o, w) := w.select d content
    if !o.changed then (.ok (.unfixed o.reason o.detail), w)
    else
      match w.replace (replacement path d content o) with
      | (.error (.broken why), w) => (.error why, w)
      | (.error (.operation e), w) => (.ok (.because .applyFailed e.message), w)
      | (.ok none, w) => (.ok .untouched, w)
      | (.ok (some r), w) => (.ok (.fixed r), w)

/-- The work on one diagnostic. -/
def attempt (root : AbsolutePath) (d : Diagnostic) (w : World) : Working Result :=
  match root.resolve? d.file with
  | none => (.ok (.because .outOfScope ""), w)
  | some path => repairFile path d w

/-- The work on the diagnostics of a round. -/
def repairAll (root : AbsolutePath) : List Diagnostic → State → World → Working State
  | [], s, w => (.ok s, w)
  | d :: ds, s, w =>
    match attempt root d w with
    | (.error why, w) => (.error why, w)
    | (.ok r, w) => repairAll root ds (s.book d r) w

/-- The report at a stop. -/
def report (s : State) (attempts : Nat) (stop : Stop) (errors : List Diagnostic) : Report :=
  let success := stop == .success
  ⟨success, s.fixed, attempts, if success then none else some errors, s.unfixed, stop.name⟩

/-- The rounds of a session: at most `left` of them behind `done` others, the last of
    which left the diagnostics `previous`. -/
def rounds (root : AbsolutePath) :
    (left done : Nat) → (previous : Option (List Diagnostic)) → State → World → Working Report
  | 0, done, previous, s, w => (.ok (report s done .budgetExhausted (previous.getD [])), w)
  | left + 1, done, previous, s, w =>
    let (o, w) := w.build (done + 1)
    if o.success then (.ok (report s (done + 1) .success []), w)
    else
      let ds := BuildLog.read o.output
      -- A build that reports nothing leaves what the build before reported.
      if ds = [] then (.ok (report s (done + 1) .noDiagnostics (previous.getD [])), w)
      else if isStalled ds previous then (.ok (report s (done + 1) .stalled ds), w)
      else
        match repairAll root ds s w with
        | (.error why, w) => (.error why, w)
        | (.ok s, w) => rounds root left (done + 1) (some ds) s w

/-- The number of builds that a session may run. -/
def budget (maxBuilds : Int) : Nat := (max 1 maxBuilds).toNat

/-- Runs a session on a directory, with at most the given number of builds, but one in
    any case. -/
def run (root : AbsolutePath) (maxBuilds : Int) (w : World) : Working Report :=
  rounds root (budget maxBuilds) 0 none .empty w

end Mender.Session
