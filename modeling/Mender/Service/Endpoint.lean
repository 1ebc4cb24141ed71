import Mender.Assistant.Url
import Mender.Json.Intake
import Mender.Service.Job

/-!
# The web service

Jobs are ordered over HTTP. An order is a JSON object (`Order`) that is checked in full
before anything is done: the answer to one that cannot be read names every fault in it.
`respond` answers a request, and `Route` lists what can be requested: the jobs, and pages
that describe how to order them, whose text is not part of this library.

How a request comes to its route, what its body says, how the parts of an order are read and
how their faults are told is up to the framework that the service runs in (`Framework`).
-/

namespace Mender.Service

open Text

/-! ## Requests and answers -/

/-- A request. -/
structure HttpRequest where
  method : String
  /-- The address, or only its path and the query behind it. -/
  path : String
  contentType : Option String
  body : Bytes
  deriving Repr

/-- What an answer holds. -/
inductive Content
  | nothing
  | json (v : Json)
  | text (s : String)
  /-- A page that describes the service. -/
  | page
  deriving Repr

/-- An answer. -/
structure HttpResponse where
  status : Nat
  content : Content
  deriving Repr

namespace HttpResponse

/-- An answer that says in words or in full what is wrong. -/
def detail (status : Nat) (what : Json) : HttpResponse := ⟨status, .json (.obj [("detail", what)])⟩

/-- An answer with a content. -/
def success (content : Json) : HttpResponse := ⟨200, .json content⟩

/-- The answer to a request on which the service itself fails. -/
def failure : HttpResponse := ⟨500, .text "Internal Server Error"⟩

/-- The answer without its content. -/
def head (r : HttpResponse) : HttpResponse := { r with content := .nothing }

end HttpResponse

/-! ## Routes -/

/-- What can be requested. -/
inductive Route
  | compileFix
  | status
  | health
  /-- The description of the service for programs. -/
  | schema
  /-- The description of the service for people. -/
  | manual
  /-- Where people come back to from signing in. -/
  | signedIn
  /-- The description of the service for people, in another form. -/
  | reference
  deriving DecidableEq, Repr

namespace Route

/-- The path of a route. -/
def path : Route → String
  | compileFix => "/api/compile-fix"
  | status => "/api/status"
  | health => "/health"
  | schema => "/openapi.json"
  | manual => "/docs"
  | signedIn => "/docs/oauth2-redirect"
  | reference => "/redoc"

/-- The methods of a route. -/
def methods : Route → List String
  | compileFix => ["POST"]
  | status | health => ["GET"]
  | schema | manual | signedIn | reference => ["GET", "HEAD"]

/-- All routes. -/
def all : List Route := [schema, manual, signedIn, reference, health, compileFix, status]

end Route

/-! ## Frameworks -/

/-- Where a request goes. -/
inductive Dispatch
  | to (route : Route)
  /-- Nowhere; it is answered as it is. -/
  | answered (response : HttpResponse)
  deriving Repr

/-- What takes in the requests of a service. -/
structure Framework where
  /-- There is no way for a request whose address is none. -/
  dispatch : HttpRequest → Except Assistant.UrlError Dispatch
  /-- The value of a body, or the answer to a body without value. -/
  body : HttpRequest → Except HttpResponse Json
  text : Json → Json.Intake String
  integer : Json → Json.Intake Int
  truth : Json → Json.Intake Bool
  /-- The answer to an order with faults. -/
  refusal : List Json.Issue → HttpResponse

/-- Every request for a route is led to it, and no answer by which a request is refused says that
    all is well. -/
structure Framework.Lawful (f : Framework) : Prop where
  dispatch : ∀ (route : Route), ∀ method ∈ route.methods, ∀ contentType body,
    f.dispatch ⟨method, route.path, contentType, body⟩ = .ok (.to route)
  body : ∀ r response, f.body r = .error response → response.status ≠ 200
  refusal : ∀ issues, (f.refusal issues).status ≠ 200

/-! ## Orders -/

/-- The order of a job. What is left out is taken from the settings. -/
structure Order where
  target : String
  maxBuilds : Option Int
  buildCommand : Option String
  buildTimeout : Option Int
  writeReport : Bool
  deriving DecidableEq, Repr

/-- The most seconds that may be ordered for a build. -/
def maxTimeout : Int := 1800

/-- An ordered number of builds that is admitted. -/
def isMaxBuilds : Option Int → Bool
  | none => true
  | some n => 1 ≤ n

/-- An ordered timeout that is admitted. -/
def isTimeout : Option Int → Bool
  | none => true
  | some n => 1 ≤ n && n ≤ maxTimeout

namespace Order

/-- The order that an object describes. -/
def ofJson (f : Framework) (settings : Settings) : Json → Json.Intake Order :=
  Json.fieldsOf fun ms =>
    Json.Intake.ap (.ap (.ap (.ap
      (mk <$> Json.fieldOr "target_dir" f.text settings.target ms)
      (Json.fieldOr "max_retries"
        (Json.admitted (Json.optional f.integer) isMaxBuilds
          "max_retries must be at least 1") none ms))
      (Json.fieldOr "build_command" (Json.optional f.text) none ms))
      (Json.fieldOr "timeout_seconds"
        (Json.admitted (Json.optional f.integer) isTimeout
          ("timeout_seconds must be between 1 and " ++ toString maxTimeout)) none ms))
      (Json.fieldOr "write_report" f.truth false ms)

/-- A number, or the default in the place of none and of zero. -/
def orDefault (n : Option Int) (default : Int) : Int :=
  match n with
  | none | some 0 => default
  | some n => n

/-- The job that is ordered, with the client that it is to use. -/
def job (settings : Settings) (client : Assistant.Client) (o : Order) : Job where
  directory := o.target
  maxBuilds := orDefault o.maxBuilds settings.maxBuilds
  buildCommand :=
    match o.buildCommand with
    | none | some "" => settings.buildCommand
    | some c => c
  buildTimeout := orDefault o.buildTimeout settings.buildTimeout
  reportPath := if o.writeReport then some settings.reportPath else none
  client

end Order

/-! ## Answers -/

/-- The answer to the result of a job. -/
def answer : Except JobError Session.Report → HttpResponse
  | .ok report => .success report.toJson
  | .error (.busy directory) => .detail 409 (.str (JobError.busy directory).message)
  | .error (.broken _) => .failure

/-- The answer to an order, and the site afterwards. -/
def order (f : Framework) (settings : Settings) (timestamp : String) (r : HttpRequest) (s : Site) :
    HttpResponse × Site :=
  match f.body r with
  | .error response => (response, s)
  | .ok v =>
    match Order.ofJson f settings v with
    | .error issues => (f.refusal issues, s)
    | .ok o =>
      if !s.tree.isDirectory o.target then
        (.detail 400 (.str ("Target directory not found: " ++ o.target)), s)
      else
        let (result, s, client) := (o.job settings (s.client settings)).run settings timestamp s
        (answer result, { s with replies := client.replies })

/-- The answer of a route, and the site afterwards. -/
def Route.respond (f : Framework) (settings : Settings) (timestamp : String) (r : HttpRequest)
    (s : Site) : Route → HttpResponse × Site
  | .compileFix => order f settings timestamp r s
  | .status =>
    (.success (.obj [("running", .arr (s.registry.sorted.map fun d : String => .str d))]), s)
  | .health => (.success (.obj [("status", .str "ok")]), s)
  | .schema | .manual | .signedIn | .reference => (⟨200, .page⟩, s)

/-- The answer to a request, and the site afterwards. There is none for a request whose
    address is none. -/
def respond (f : Framework) (settings : Settings) (timestamp : String) (r : HttpRequest)
    (s : Site) : Except Assistant.UrlError (HttpResponse × Site) :=
  (f.dispatch r).map fun way =>
    let (response, s) :=
      match way with
      | .to route => route.respond f settings timestamp r s
      | .answered response => (response, s)
    (if r.method = "HEAD" then response.head else response, s)

end Mender.Service
