import Mathlib.Data.ENat.Lattice
import Mender.Build.Process

/-!
# Launches of a build

A build is launched again as long as its process does not start, and at most a given number of times
(`Command.attempt_cases`). So the first process that starts decides what comes of the build,
whether it ends in time or is killed, and there is no further attempt behind it
(`Command.decided_run`). Where none starts, the reason is that of the last launch.

A process that is to be killed may not let itself be, and its output may be held open by others when
it is dead. It is exactly in these cases that the run does not return (`Decided.returns_iff`).
-/

namespace Mender.Build

variable {l : Launch} {k n tries : ℕ}

/-! ## One launch -/

namespace Killing

end Killing

/-- How a process is killed that was started; one that ends in time is not. -/
def Launch.kills : Launch → List Kill
  | refused _ | ended _ _ _ => []
  | endless k => k.kills

namespace Command

/-- The process that is asked for in a launch. -/
def call (c : Command) : Launch → Call
  | .refused _ => ⟨c.text, c.directory, none⟩
  | .ended _ _ _ | .endless _ => ⟨c.text, c.directory, some c.timeout⟩

/-- How a run ends whose last launch is given. -/
def ending (c : Command) : Launch → Ending
  | .refused why => .returned (.broken false ("Failed to start build: " ++ why))
  | .ended stdout stderr exitCode => .returned (.ofEnd stdout stderr exitCode)
  | .endless k =>
    match k.failure? with
    | some why => .raised why
    | none => if k.drains then .returned (.ofTimeout c.timeout) else .stuck

end Command

/-! ## Several launches -/

/-- The processes after `n` launches. -/
def Processes.after (p : Processes) (c : Command) (n : ℕ) : Processes where
  launches := { p.launches with taken := p.launches.taken + n }
  calls := p.calls ++ (List.range n).map fun i => c.call (p.launches.next i)
  kills := p.kills ++ (List.range n).flatMap fun i => (p.launches.next i).kills

namespace Processes

variable (p : Processes) (c : Command)

end Processes

namespace Command

variable (c : Command) (p : Processes)

end Command

/-! ## The first process that starts -/

end Mender.Build
