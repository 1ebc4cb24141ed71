import Mender.Build.Process
import Mender.Repair.Replacement
import Mender.Repair.Strategy

/-!
# The world of a session

All that a session acts on and that answers to it (`World`): the file tree, the clock,
the builder and the selector, the number of the process, and the failures of file operations
that do not come from the tree. What the session did is kept in a journal.
-/

namespace Mender.Session

open Repair

/-- Who builds. -/
inductive Builder
  /-- Results given beforehand. A builder may break, for the given reason. -/
  | given (results : Script (Except String Build.Outcome))
  /-- A command, with the number of times that starting it is tried again. -/
  | command (c : Build.Command) (retries : Int) (processes : Build.SteadyProcesses)

/-- The result of a build, and the builder afterwards. A builder that breaks has a
    failed build without output. -/
def Builder.build : Builder → Build.Outcome × Builder
  | given results =>
    match results.take with
    | (.ok o, results) => (o, given results)
    | (.error why, results) => (.broken false why, given results)
  | command c retries processes =>
    let (o, processes) := c.build retries processes
    (o, command c retries processes)

/-- An act of a session. -/
inductive Event
  /-- The build of the given number. -/
  | build (number : Nat)
  | select (d : Diagnostic) (o : Outcome)
  /-- A replacement, with the record of it unless nothing was written. -/
  | replace (path : String) (record : Option Record)
  /-- A replacement that failed, unless it broke. -/
  | replaceFailed (path : String) (error : ReplaceError)

/-- What a session acts on. -/
structure World where
  /-- The number of the process that the session runs in. -/
  process : Nat
  tree : FileTree
  /-- The times at which copies are made. -/
  clock : Script Int
  /-- The failures of every replacement from outside the tree. -/
  faults : Script Faults
  builder : Builder
  selector : Selector
  journal : List Event

namespace World

/-- The world after an event. -/
def note (w : World) (e : Event) : World := { w with journal := w.journal ++ [e] }

/-- A build. -/
def build (w : World) (number : Nat) : Build.Outcome × World :=
  let (o, builder) := w.builder.build
  (o, { w with builder }.note (.build number))

/-- The text of a file, or why it cannot be read. -/
def readText (w : World) (path : String) : Except String String :=
  match w.tree.read path with
  | .error e => .error e.message
  | .ok bytes =>
    match Text.Utf8.decode bytes with
    | .error e => .error e.message
    | .ok s => .ok (String.ofList s)

/-- The decision on the repair of a diagnostic. -/
def select (w : World) (d : Diagnostic) (content : String) : Outcome × World :=
  let (o, selector) := w.selector.select d content
  (o, { w with selector }.note (.select d o))

/-- A replacement. The clock is looked at only if something is written. -/
def replace (w : World) (r : Replacement) : Except ReplaceFailure (Option Record) × World :=
  let (faults, faultsLeft) := w.faults.take
  let (time, clock) := if r.isNeeded then w.clock.take else (0, w.clock)
  let (result, tree) := r.apply w.process faults time w.tree
  let w := { w with tree, clock, faults := faultsLeft }
  (result,
    match result with
    | .ok record => w.note (.replace r.path record)
    | .error (.operation e) => w.note (.replaceFailed r.path e)
    | .error (.broken _) => w)

end World

end Mender.Session
