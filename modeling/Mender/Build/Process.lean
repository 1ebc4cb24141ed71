import Mender.Build.Outcome
import Mender.Script
import Mender.Text.Lines
import Mender.Text.Utf8

/-!
# Build processes

A build is a process that runs a command in a directory (`Command.run`). Starting it
is tried again when it fails; once it has started, it is waited for and, when it takes
too long, killed together with the processes it started. How the processes behave is
given beforehand (`Processes`), and what was asked of them is written down.

A process may withstand being killed, which breaks the run, and its output may be held open
by others when it is dead, so that the run never comes back (`Ending`). A build that does come
back has an outcome, even if the run broke (`Command.build`).
-/

namespace Mender.Build

open Text

/-- Why a process is not killed. -/
inductive Refusal
  /-- There is no such process. -/
  | missing
  /-- It is somebody else's. -/
  | forbidden
  /-- Another failure of the given kind. -/
  | other (kind text : String)
  deriving DecidableEq, Repr

/-- The name of the kind of a refusal. -/
def Refusal.kind : Refusal → String
  | missing => "ProcessLookupError"
  | forbidden => "PermissionError"
  | other kind _ => kind

/-- The text of a refusal. -/
def Refusal.message : Refusal → String
  | missing => "[Errno 3] No such process"
  | forbidden => "[Errno 1] Operation not permitted"
  | other _ text => text

/-- A way to end a process. -/
inductive Kill
  | group
  /-- The process alone, where the group could not be killed. -/
  | single
  deriving DecidableEq, Repr

/-- How it goes to kill a process. -/
structure Killing where
  /-- Why its group is not killed, if it is not. -/
  group : Option Refusal
  /-- Why the process alone would not be killed. -/
  single : Option Refusal
  /-- Its output comes to an end afterwards: nobody else holds it open. -/
  drains : Bool
  deriving DecidableEq, Repr

namespace Killing

/-- The group is killed, and nobody else holds the output open. -/
def clean : Killing := ⟨none, none, true⟩

/-- The failure of the group after which the process alone is killed. -/
def isFallback : Option Refusal → Bool
  | some .missing | some .forbidden => true
  | _ => false

/-- The kills that are tried. -/
def kills (k : Killing) : List Kill := if isFallback k.group then [.group, .single] else [.group]

/-- The refusal that the killing ends with. That there is no such process anymore is none, if it
    is the process alone that is to be killed. -/
def failure? (k : Killing) : Option Refusal :=
  if isFallback k.group then k.single.filter (· ≠ .missing) else k.group

end Killing

/-- What comes of starting a process. -/
inductive Launch
  /-- It does not start, for the given reason. -/
  | refused (why : String)
  | ended (stdout stderr : Bytes) (exitCode : Int)
  /-- It does not end in time, and is to be killed. -/
  | endless (k : Killing)
  deriving DecidableEq, Repr

/-- A run comes back that comes so far: it does not wait for an output without end. -/
def Launch.comesBack : Launch → Bool
  | refused _ | ended _ _ _ => true
  | endless k => k.failure?.isSome || k.drains

/-- A command to be run in a directory. -/
structure Command where
  text : String
  directory : String
  /-- The seconds it may take. -/
  timeout : Int
  deriving DecidableEq, Repr

/-- A process that was asked for. -/
structure Call where
  command : String
  directory : String
  /-- The seconds that were waited at most; none if it did not start. -/
  timeout : Option Int
  deriving DecidableEq, Repr

/-- The behaviour of the processes to come, and what was asked of those before. -/
structure Processes where
  launches : Script Launch
  calls : List Call
  kills : List Kill

namespace Processes

/-- Processes of the given behaviour, of which none was asked for yet. -/
def ofScript (launches : Script Launch) : Processes := ⟨launches, [], []⟩

/-- The processes after a call with the given limit. -/
def noteCall (p : Processes) (c : Command) (timeout : Option Int) : Processes :=
  { p with calls := p.calls ++ [⟨c.text, c.directory, timeout⟩] }

/-- The processes after kills were tried. -/
def noteKills (p : Processes) (k : Killing) : Processes := { p with kills := p.kills ++ k.kills }

end Processes

/-- The text of an output: spoilt characters replaced, and all line breaks made line
    feeds. -/
def outputText (output : Bytes) : List Char := unixBreaks (Utf8.decodeLossy output)

/-- The outcome of a process that ended. -/
def Outcome.ofEnd (stdout stderr : Bytes) (exitCode : Int) : Outcome :=
  ⟨exitCode == 0, String.ofList (outputText stdout ++ outputText stderr), exitCode, false, none⟩

/-- The outcome of a process that was killed. -/
def Outcome.ofTimeout (seconds : Int) : Outcome :=
  .broken true ("Build timed out after " ++ toString seconds ++ "s")

/-- How the run of a command ends. -/
inductive Ending
  | returned (o : Outcome)
  /-- It breaks, as the process cannot be killed. -/
  | raised (why : Refusal)
  /-- It does not: it waits for an output without end. -/
  | stuck
  deriving DecidableEq, Repr

namespace Ending

/-- The output of the outcome, if there is one. -/
def output : Ending → String
  | returned o => o.output
  | raised _ | stuck => ""

/-- The outcome of a build whose run comes back. One that breaks makes the build a failed one. -/
def outcome : (e : Ending) → e ≠ .stuck → Outcome
  | returned o, _ => o
  | raised why, _ => .broken false why.message
  | stuck, h => absurd rfl h

end Ending

namespace Command

/-- Runs the command, starting it at most `attempts` times; `error` is the failure of
    the attempt before. -/
def attempt (c : Command) : (attempts : Nat) → (error : String) → Processes → Ending × Processes
  | 0, error, p => (.returned (.broken false error), p)
  | attempts + 1, _, p =>
    let (launch, launches) := p.launches.take
    let p := { p with launches }
    match launch with
    | .refused why =>
      c.attempt attempts ("Failed to start build: " ++ why) (p.noteCall c none)
    | .ended stdout stderr exitCode =>
      (.returned (.ofEnd stdout stderr exitCode), p.noteCall c (some c.timeout))
    | .endless k =>
      let p := (p.noteCall c (some c.timeout)).noteKills k
      match k.failure? with
      | some why => (.raised why, p)
      | none => (if k.drains then .returned (.ofTimeout c.timeout) else .stuck, p)

/-- Runs the command; if it does not start, it is tried `retries` times more. A
    negative number leaves no try at all. -/
def run (c : Command) (retries : Int) (p : Processes) : Ending × Processes :=
  c.attempt (retries + 1).toNat "" p

end Command

/-! ## Builds that come back -/

/-- Processes with which every run comes back. -/
structure SteadyProcesses extends Processes where
  comesBack : ∀ n, (launches.answer n).comesBack = true

/-- Steady processes of the given behaviour, of which none was asked for yet. -/
def SteadyProcesses.ofScript (launches : Script {l : Launch // l.comesBack = true}) :
    SteadyProcesses :=
  { toProcesses := .ofScript (launches.map Subtype.val)
    comesBack := fun n => (launches.answer n).property }

namespace Command

/-- A run asks for processes, and makes no others of them. -/
theorem answer_attempt (c : Command) (attempts : Nat) (error : String) (p : Processes) :
    (c.attempt attempts error p).2.launches.answer = p.launches.answer := by
  induction attempts generalizing error p with
  | zero => rfl
  | succ attempts ih =>
    simp only [attempt]
    split
    · exact ih _ _
    · rfl
    · split <;> rfl

theorem attempt_ne_stuck (c : Command) (attempts : Nat) (error : String) {p : Processes}
    (h : ∀ n, (p.launches.answer n).comesBack = true) :
    (c.attempt attempts error p).1 ≠ .stuck := by
  induction attempts generalizing error p with
  | zero => simp [attempt]
  | succ attempts ih =>
    simp only [attempt]
    split
    · exact ih _ h
    · simp
    · next k hk =>
      have hback := h p.launches.taken
      rw [show p.launches.answer p.launches.taken = .endless k from hk, Launch.comesBack] at hback
      split
      · simp
      · next hnone => simpa [hnone] using hback

/-- The outcome of a build, and the processes afterwards. -/
def build (c : Command) (retries : Int) (p : SteadyProcesses) : Outcome × SteadyProcesses :=
  ((c.run retries p.toProcesses).1.outcome (c.attempt_ne_stuck _ _ p.comesBack),
    { toProcesses := (c.run retries p.toProcesses).2
      comesBack := fun n => by
        rw [run, answer_attempt]
        exact p.comesBack n })

end Command

end Mender.Build
