import Mender.Json.Body
import Mender.Service.Endpoint

/-!
# The framework

The framework that the service runs in (`Framework.standard`). A request goes to the route with
its path, or is sent on if only a slash at the end is amiss. Its body is read as JSON if it is
announced as such. An order is read generously, and all its faults are named.
-/

namespace Mender.Service

open Text

/-! ## Ways -/

namespace Route

/-- The route with the given path, behind which one line break may stand. -/
def ofPath? (path : List Char) : Option Route :=
  all.find? fun r => path == r.path.toList || path == r.path.toList ++ ['\n']

/-- The route that a slash at the end, taken away or added, leads to. -/
def nearby? (path : List Char) : Option Route :=
  if path.getLast? = some '/' then ofPath? ((path.reverse.dropWhile (· == '/')).reverse)
  else ofPath? (path ++ ['/'])

end Route

open Assistant in
/-- The path of an address without query and escapes. -/
def pathOf (address : String) : Except UrlError (List Char) :=
  (Url.rooted <$> Url.ofText address.toList).map fun url =>
    Url.percentDecode (if url.path = [] then ['/'] else Url.normalPath url.path)

/-- The answer that sends the client to another path. -/
def HttpResponse.redirect : HttpResponse := ⟨307, .nothing⟩

/-- Where a request with a method for a path goes. -/
def dispatchAt (method : String) (path : List Char) : Dispatch :=
  match Route.ofPath? path with
  | some route =>
    if route.methods.contains method then .to route
    else .answered (.detail 405 (.str "Method Not Allowed"))
  | none =>
    if (Route.nearby? path).isSome then .answered .redirect
    else .answered (.detail 404 (.str "Not Found"))

/-- Where a request goes. -/
def HttpRequest.dispatch (r : HttpRequest) : Except Assistant.UrlError Dispatch :=
  (pathOf r.path).map (dispatchAt r.method)

/-! ## Faults -/

/-- Where a fault is, and what it is, with what its message speaks of if there is any. -/
def fault (code : String) (path : List Json) (message : String) (input : Json)
    (context : List (Text.Loose × Json)) : Json :=
  let spoken : List (Text.Loose × Json) := if context = [] then [] else [("ctx", .obj context)]
  .obj (("type", .str code) :: ("loc", .arr (.str "body" :: path)) :: ("msg", .str message) ::
    ("input", input) :: spoken)

/-- The answer that names faults. A faulty value that cannot be sent back makes it fail. -/
def unprocessable (faults : List Json) : HttpResponse :=
  if Json.areSendable faults then .detail 422 (.arr faults) else .failure

/-- A fault of a part of an order. -/
def faultOfIssue (e : Json.Issue) : Json :=
  fault e.flaw.code (e.path.map Json.Step.toJson) e.flaw.message e.input
    (match e.flaw with
      | .refused _ => [("error", .obj [])]
      | _ => [])

/-- The answer to an order with faults. -/
def responseToIssues (issues : List Json.Issue) : HttpResponse :=
  unprocessable (issues.map faultOfIssue)

/-! ## Bodies -/

/-- The answer to a body that is no JSON. -/
def responseToBodyError : Json.BodyError → HttpResponse
  | .unreadable _ (.malformed what position) =>
    unprocessable [fault "json_invalid" [.int position] "JSON decode error" (.obj [])
      [("error", .str what.message)]]
  | .unreadable _ (.numberTooLong _) | .unreadable _ (.tooDeep _) | .undecodable _ =>
    .detail 400 (.str "There was an error parsing the body")

/-- A media type that announces JSON, whatever parameters it has. -/
def announcesJson (contentType : String) : Bool :=
  let media := (trim (contentType.toList.takeWhile (· ≠ ';'))).map Char.toLower
  match fields '/' media with
  | [main, sub] =>
    main == "application".toList && (sub == "json".toList || "+json".toList.isSuffixOf sub)
  | _ => false

/-- The value of the body of a request, which is a text if it is not announced as JSON; or the
    answer to a body without value. Lists and objects are read to the given depth. -/
def bodyValue (depth : Nat) (r : HttpRequest) : Except HttpResponse Json :=
  if r.body = [] then
    .error (unprocessable [fault Json.Flaw.missing.code [] Json.Flaw.missing.message .null []])
  else if r.contentType.any announcesJson then
    (Json.ofBody depth r.body).mapError responseToBodyError
  else .ok (.str (String.ofList (Utf8.decodeLossy r.body)))

/-! ## The framework -/

/-- The framework, with bodies read to the given depth. -/
def Framework.standard (depth : Nat) : Framework where
  dispatch := HttpRequest.dispatch
  body := bodyValue depth
  text := Json.text
  integer := Json.integer
  truth := Json.truth
  refusal := responseToIssues

end Mender.Service
