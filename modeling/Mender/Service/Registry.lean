/-!
# The registry of sessions

The directories on which a session is running (`Registry`). A directory is admitted
only if no session is running on it, and released when its session ends.
-/

namespace Mender.Service

/-- The directories on which a session is running. -/
structure Registry where
  running : List String
  deriving DecidableEq, Repr

namespace Registry

/-- No session is running. -/
def empty : Registry := ⟨[]⟩

/-- The registry with a session on a directory, unless one is running there. -/
def admit? (r : Registry) (directory : String) : Option Registry :=
  if directory ∈ r.running then none else some ⟨r.running ++ [directory]⟩

/-- The registry without a session on a directory. -/
def release (r : Registry) (directory : String) : Registry :=
  ⟨r.running.filter (· ≠ directory)⟩

/-- The directories in the order of their texts. -/
def sorted (r : Registry) : List String := r.running.mergeSort (· ≤ ·)

end Registry

end Mender.Service
