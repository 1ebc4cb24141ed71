import Mender.Assistant.Client

/-!
# Answers and failures

A request is met with an answer, or fails for a reason of some class, and classes stand below
others (`Failure`). The class decides what comes of the request (`Reply.ofFailure`): after some
failures it is sent again, and others end the call.
-/

namespace Mender.Assistant

open Text

/-- Why a request was not answered. -/
structure Failure where
  /-- The name of its class. -/
  kind : String
  /-- The names of the classes above that one. -/
  above : List String
  text : String
  /-- The status of the answer that was refused, where the class is about one. -/
  status : Int
  deriving DecidableEq, Repr

namespace Failure

/-- The failure is of the class, or of one below it. -/
def isA (f : Failure) (name : String) : Bool := f.kind == name || f.above.contains name

/-- No answer came in time. -/
def isTimeout (f : Failure) : Bool := f.isA "TimeoutException"

/-- The answer was refused for its status. -/
def isRefusal (f : Failure) : Bool := f.isA "HTTPStatusError"

/-- The failure may pass. -/
def isPassing (f : Failure) : Bool :=
  ["HTTPError", "ValueError", "KeyError", "IndexError", "TypeError"].any f.isA

/-- What a call comes to that the failure ends. -/
def error (f : Failure) : GenerateError :=
  if f.isA "LLMUnavailableError" then .unavailable f.text else .broken f.kind f.text

end Failure

/-- What comes of a request that fails. Which class is asked for first matters, as a failure may be
    of several. -/
def Reply.ofFailure (f : Failure) : Reply :=
  if f.isTimeout then .timeout
  else if f.isRefusal then .lost f.kind ("HTTP " ++ toString f.status)
  else if f.isPassing then .lost f.kind f.text
  else
    match f.error with
    | .unavailable text => .unavailable text
    | .broken kind text => .broken kind text

/-- What a request is met with. -/
inductive Answer
  | response (status : Int) (body : Bytes)
  | failure (f : Failure)

/-- What comes of the request. -/
def Answer.reply : Answer → Reply
  | response status body => .response status body
  | failure f => .ofFailure f

end Mender.Assistant
