/-!
# Scripts

What an outside party answers, prepared for as many requests as may come: the clock,
the build processes, a model (`Script`). An answer is taken by `Script.take`.
-/

namespace Mender

/-- The answers to all requests, and the number of requests so far. -/
structure Script (α : Type) where
  answer : (request : Nat) → α
  taken : Nat

namespace Script

/-- The next answer, and the script for the requests after it. -/
def take {α : Type} (s : Script α) : α × Script α :=
  (s.answer s.taken, { s with taken := s.taken + 1 })

/-- The answer to the request that comes after `n` more. -/
def next {α : Type} (s : Script α) (n : Nat) : α := s.answer (s.taken + n)

/-- The script with another answer made of each. -/
def map {α β : Type} (f : α → β) (s : Script α) : Script β := ⟨fun n => f (s.answer n), s.taken⟩

/-- The same answer to every request. -/
def always {α : Type} (a : α) : Script α := ⟨fun _ => a, 0⟩

/-- The answers of a list, the last of them for all later requests; an empty list
    leaves only the default. -/
def ofList {α : Type} (default : α) (as : List α) : Script α :=
  ⟨fun n => (as[n]?).getD (as.getLast?.getD default), 0⟩

/-- The answers of a list, and nothing for later requests. -/
def once {α : Type} (as : List (Option α)) : Script (Option α) := ⟨fun n => (as[n]?).join, 0⟩

end Script

end Mender
