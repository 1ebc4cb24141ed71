import Mender.Service.Registry
import Mender.Session.Run
import Mender.Settings

/-!
# Jobs

A job is a session on a directory with a build command (`Job`). It is refused while
another session is running on that directory; otherwise the session is run, and its
report is written to a file if that is asked for (`Job.run`). A report that cannot be
written is lost without notice, but a path that is none breaks the job off. A session that
breaks off leaves no report.
-/

namespace Mender.Service

open Session

/-- A session to be run. -/
structure Job where
  directory : String
  maxBuilds : Int
  buildCommand : String
  buildTimeout : Int
  /-- The path of the report; an empty one asks for none. -/
  reportPath : Option String
  client : Assistant.Client

/-- The place where jobs are run. -/
structure Site where
  /-- The number of the process that the jobs are run in. -/
  process : Nat
  tree : FileTree
  clock : Script Int
  processes : Build.SteadyProcesses
  /-- The transport to the providers of models, and what they are going to reply. -/
  wire : Assistant.Wire
  replies : Script Assistant.Reply
  registry : Registry

/-- Why a job yields no report. -/
inductive JobError
  /-- Another session is running on the directory. -/
  | busy (directory : String)
  /-- The session broke off, or its report has no path. -/
  | broken (why : Repair.Breakage)
  deriving DecidableEq, Repr

/-- The text of an error. -/
def JobError.message : JobError → String
  | busy directory => "A repair session is already running on " ++ directory
  | broken why => why.message

/-- The working directory. -/
def Site.home (s : Site) : AbsolutePath := ⟨false, s.tree.home⟩

/-- The client of the provider that is set up, in the place where it is to be used. -/
def Site.client (s : Site) (settings : Settings) : Assistant.Client :=
  .new s.wire (Assistant.Provider.selected? settings.keys) settings.policy s.replies

/-- The path of the file that a report is written to. -/
def reportPlace (path : String) (t : FileTree) : String :=
  ((AbsolutePath.mk false t.home).join path).text

/-- The tree with a report written to a path, if it can be. -/
def writeReport (timestamp path : String) (r : Report) (t : FileTree) :
    Except Repair.Breakage (Option FileTree) :=
  let text := (r.document timestamp).indented
  if '\x00' ∈ (reportPlace path t).toList then .error .nullByte
  else .ok (t.write (reportPlace path t) (Text.Utf8.encode text.toList)).toOption

/-- The result of a session, the report of which is written to a path if that is asked for, and
    the tree then. A report that cannot be written leaves the tree as it is. -/
def filed (timestamp : String) (reportPath : Option String)
    (result : Except Repair.Breakage Report) (t : FileTree) :
    Except Repair.Breakage Report × FileTree :=
  match result, reportPath with
  | .error _, _ | _, none | _, some "" => (result, t)
  | .ok r, some path =>
    match writeReport timestamp path r t with
    | .error why => (.error why, t)
    | .ok u => (.ok r, u.getD t)

namespace Job

/-- The world of the session. -/
def world (j : Job) (settings : Settings) (directory : String) (s : Site) : World where
  process := s.process
  tree := s.tree
  clock := s.clock
  faults := .always .none
  builder := .command ⟨j.buildCommand, directory, j.buildTimeout⟩ settings.launchRetries s.processes
  selector := .standard (some j.client) settings.useModel
  journal := []

/-- The site after a session. -/
def siteAfter (s : Site) (w : World) : Site :=
  { s with
    tree := w.tree
    clock := w.clock
    processes :=
      match w.builder with
      | .command _ _ processes => processes
      | .given _ => s.processes }

/-- The client after a session. -/
def clientAfter (c : Assistant.Client) (w : World) : Assistant.Client :=
  match w.selector with
  | .standard (some c) _ => c
  | _ => c

/-- Runs a job: its report, and the site and the client afterwards. -/
def run (j : Job) (settings : Settings) (timestamp : String) (s : Site) :
    Except JobError Report × Site × Assistant.Client :=
  let root := s.home.join j.directory
  let directory := root.text
  match s.registry.admit? directory with
  | none => (.error (.busy directory), s, j.client)
  | some registry =>
    let s := { s with registry }
    let (result, w) := Session.run root j.maxBuilds (j.world settings directory s)
    let s := siteAfter s w
    let (result, tree) := filed timestamp j.reportPath result s.tree
    (result.mapError .broken, { s with tree, registry := s.registry.release directory },
      clientAfter j.client w)

end Job

end Mender.Service
