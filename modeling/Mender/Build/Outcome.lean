/-!
# Build outcomes

What one build comes to. A build that could not be run to its end has an outcome too,
without output.
-/

namespace Mender.Build

/-- The result of one build. -/
structure Outcome where
  /-- The build passed. -/
  success : Bool
  /-- All that the build wrote. -/
  output : String
  /-- The exit code; -1 if there is none. -/
  exitCode : Int
  /-- The build took too long and was stopped. -/
  timedOut : Bool
  /-- Why the build was not run to its end. -/
  error : Option String
  deriving DecidableEq, Repr

/-- The outcome of a build that was not run to its end. -/
def Outcome.broken (timedOut : Bool) (error : String) : Outcome :=
  ⟨false, "", -1, timedOut, some error⟩

end Mender.Build
