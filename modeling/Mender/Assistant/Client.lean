import Mender.Assistant.Completion
import Mender.Assistant.Provider
import Mender.Decimal.Double
import Mender.Script

/-!
# The client of a provider

`Client.generate` sends a prompt to the provider and yields the text of the answer. A
request that fails in a way that may pass is sent again after a pause, which grows with
the number of requests; other failures end the call at once. What the provider answers
is given beforehand (`Client.replies`), and what was asked of it is written down.

How a request is written, and whether it can be, is left to the transport (`Wire`). A request is
sent to an address that is a path alone as well, but there is no answer that could be taken
from there.
-/

namespace Mender.Assistant

open Text

/-- What comes of a request. -/
inductive Reply
  | response (status : Int) (body : Bytes)
  | timeout
  /-- No answer, for a reason that may pass. -/
  | lost (kind text : String)
  /-- No answer, for a reason that will not pass. -/
  | broken (kind text : String)
  /-- The provider is out of reach for good. -/
  | unavailable (text : String)

/-- Why a call yields no text. -/
inductive GenerateError
  /-- No provider is to be had. -/
  | unavailable (text : String)
  /-- Something else broke. -/
  | broken (kind text : String)
  deriving DecidableEq, Repr

/-- The note of a failure in a report. -/
def GenerateError.note : GenerateError → String
  | .unavailable text => text
  | .broken kind text => kind ++ ": " ++ text

/-- A number of seconds. -/
inductive Delay
  | whole (n : Int)
  | real (d : Double)
  deriving DecidableEq, Repr

/-- The multiple of a number of seconds, rounded once. -/
def Delay.times : Delay → Nat → Double
  | whole n, k => .ofInt (n * k)
  | real d, k => d.times k

/-- How prompts are sent. -/
structure Policy where
  /-- The number of requests for a prompt; less than one counts as one. -/
  maxRetries : Int
  /-- The pause after the first request, in seconds. -/
  retryDelay : Delay
  /-- A number. -/
  temperature : Json
  maxTokens : Json

/-- What is to be sent to a provider. -/
structure Message where
  address : String
  /-- The authorization, unless there is another in the address. -/
  authorization : String
  body : Json

/-- A request to a provider. -/
structure Request where
  url : String
  /-- The address has a scheme and a host. -/
  isAbsolute : Bool
  authorization : String
  body : String
  deriving DecidableEq, Repr

/-- What a client does. -/
inductive Act
  | sent (r : Request)
  | paused (seconds : Double)
  deriving DecidableEq, Repr

/-- The request, if one was sent. -/
def Act.request? : Act → Option Request
  | sent r => some r
  | paused _ => none

/-- The number of seconds, if it was a pause. -/
def Act.pause? : Act → Option Double
  | sent _ => none
  | paused seconds => some seconds

/-- Why a message is not sent. -/
inductive Unsent
  /-- It cannot be written, for the given reason. -/
  | unwritable (why : String)
  /-- Its address is none, for the given reason. -/
  | invalid (why : String)
  deriving DecidableEq, Repr

/-- The transport between a client and a provider. -/
structure Wire where
  /-- The request that a message is written as. -/
  write : Message → Except Unsent Request
  /-- The depth to which lists and objects in an answer are read. -/
  depth : Nat

/-- A client, the answers it is going to get, and what it did so far. -/
structure Client where
  wire : Wire
  provider : Option Provider
  policy : Policy
  replies : Script Reply
  journal : List Act

/-! ## Requests -/

/-- A failure that may pass. -/
inductive Setback
  /-- The request cannot be written, for the given reason. -/
  | unwritable (why : String)
  | timeout
  | status (code : Int)
  | lost (kind text : String)
  /-- An answer from an address that is a path alone. -/
  | unknownPlace (url : String)
  | misfit (why : Misfit)
  | emptyAnswer

/-- The text of a setback. -/
def Setback.message : Setback → String
  | .unwritable why => why
  | .timeout => "timeout"
  | .status code => "HTTP " ++ toString code
  | .lost kind text => if text = "" then kind else text
  | .unknownPlace url => "unknown url type: " ++ String.ofList (quoted url.toList)
  | .misfit why => why.message
  | .emptyAnswer => "empty response"

/-- What comes of one attempt. -/
inductive Attempt
  | answered (text : Loose)
  | setback (why : Setback)
  | failed (why : GenerateError)

/-- What becomes of an attempt whose message is not sent. -/
def Unsent.attempt : Unsent → Attempt
  | unwritable why => .setback (.unwritable why)
  | invalid why => .failed (.broken "InvalidURL" why)

/-- The message with a prompt. -/
def message (p : Provider) (policy : Policy) (prompt : String) : Message where
  address := p.baseUrl ++ "/chat/completions"
  authorization := "Bearer " ++ p.apiKey
  body :=
    .obj [("model", .str p.model),
      ("messages", .arr [.obj [("role", .str "user"), ("content", .str prompt)]]),
      ("temperature", policy.temperature), ("max_tokens", policy.maxTokens)]

/-- The request for a prompt, or what becomes of the attempt without one. -/
def request (wire : Wire) (p : Provider) (policy : Policy) (prompt : String) :
    Except Attempt Request :=
  (wire.write (message p policy prompt)).mapError Unsent.attempt

/-! ## Answers -/

/-- The status of an answer that carries what was asked for. -/
def isSuccess (status : Int) : Bool := 200 ≤ status && status < 300

/-- What comes of a content. -/
def Attempt.ofContent (content : Json) : Attempt :=
  if isEmptyContent content then .setback .emptyAnswer
  else
    match content with
    | .str s => if s.isBlank then .setback .emptyAnswer else .answered s
    | v =>
      .failed (.broken "AttributeError"
        ("'" ++ v.kindName ++ "' object has no attribute 'strip'"))

/-- What comes of the reply to a request, which is read to the given depth. -/
def Attempt.ofReply (depth : Nat) (r : Request) : Reply → Attempt
  | .response status body =>
    if !r.isAbsolute then .setback (.unknownPlace r.url)
    else if isSuccess status then
      match contentOf depth body with
      | .error e =>
        if e.isTooDeep then .failed (.broken "RecursionError" e.message)
        else .setback (.misfit e)
      | .ok content => .ofContent content
    else .setback (.status status)
  | .timeout => .setback .timeout
  | .lost kind text => .setback (.lost kind text)
  | .broken kind text => .failed (.broken kind text)
  | .unavailable text => .failed (.unavailable text)

namespace Client

/-- A client that did nothing so far. -/
def new (wire : Wire) (provider : Option Provider) (policy : Policy) (replies : Script Reply) :
    Client :=
  ⟨wire, provider, policy, replies, []⟩

/-- The requests that were sent. -/
def requests (c : Client) : List Request := c.journal.filterMap Act.request?

/-- The pauses that were made, in seconds. -/
def pauses (c : Client) : List Double := c.journal.filterMap Act.pause?

/-- There is a provider to ask. -/
def isEnabled (c : Client) : Bool := c.provider.isSome

/-- The number of attempts for a prompt. -/
def attempts (c : Client) : Nat := (max 1 c.policy.maxRetries).toNat

/-- A single attempt. -/
def send (c : Client) (request : Except Attempt Request) : Attempt × Client :=
  match request with
  | .error a => (a, c)
  | .ok r =>
    let (reply, replies) := c.replies.take
    (.ofReply c.wire.depth r reply, { c with replies, journal := c.journal ++ [.sent r] })

/-- The client after the pause behind attempt number `n`. -/
def pause (c : Client) (n : Nat) : Client :=
  { c with journal := c.journal ++ [.paused (c.policy.retryDelay.times n)] }

/-- Attempts up to the first that is no setback, `left` of them behind `done` others.
    The last setback is reported where all come to one. -/
def retry (request : Except Attempt Request) (exhausted : Setback → GenerateError) :
    (left done : Nat) → (last : Setback) → Client → Except GenerateError Loose × Client
  | 0, _, last, c => (.error (exhausted last), c)
  | left + 1, done, _, c =>
    match c.send request with
    | (.answered text, c) => (.ok text, c)
    | (.failed e, c) => (.error e, c)
    | (.setback s, c) =>
      retry request exhausted left (done + 1) s (if left = 0 then c else c.pause (done + 1))

/-- The text that the provider answers to a prompt. -/
def generate (c : Client) (prompt : String) : Except GenerateError Loose × Client :=
  match c.provider with
  | none => (.error (.unavailable "No LLM provider configured"), c)
  | some p =>
    let exhausted (s : Setback) : GenerateError :=
      .unavailable (p.name ++ " failed after " ++ toString c.attempts ++ " attempts: " ++ s.message)
    retry (request c.wire p c.policy prompt) exhausted c.attempts 0 .emptyAnswer c

end Client

end Mender.Assistant
