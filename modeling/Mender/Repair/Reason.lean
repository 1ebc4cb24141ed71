/-!
# Reasons

Why a diagnostic was not repaired. Reports carry a reason by its name.
-/

namespace Mender.Repair

/-- Why a diagnostic was not repaired. -/
inductive Reason
  /-- The repair left the content as it was. -/
  | noChange
  | noMatchingRule
  /-- The model failed, and no rule made a change. -/
  | generationFailed
  | readFailed
  | applyFailed
  /-- The file lies outside the build root. -/
  | outOfScope
  deriving DecidableEq, Repr

namespace Reason

/-- The name of a reason. -/
def name : Reason → String
  | noChange => "NO_CHANGE"
  | noMatchingRule => "NO_MATCHING_RULE"
  | generationFailed => "GENERATION_FAILED"
  | readFailed => "READ_FAILED"
  | applyFailed => "APPLY_FAILED"
  | outOfScope => "OUT_OF_SCOPE"

/-- All reasons. -/
def all : List Reason :=
  [noChange, noMatchingRule, generationFailed, readFailed, applyFailed, outOfScope]

/-- The reason with the given name. -/
def ofName? (s : String) : Option Reason := all.find? (·.name == s)

end Reason

end Mender.Repair
