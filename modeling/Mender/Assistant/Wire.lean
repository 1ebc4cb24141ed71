import Mender.Assistant.Client
import Mender.Assistant.Url
import Mender.Json.Writer
import Mender.Text.Base64

/-!
# The transport

A message is sent by HTTP (`Wire.standard`). Its address is put into normal form, a user in the
address goes before the authorization of the message, and the body is written as JSON. Headers
are made of plain characters, and the body of finite numbers.
-/

namespace Mender.Assistant

open Text

/-- Why a header is not written: it may hold no wide characters. -/
def headerError? (value : List Char) : Option Unsent :=
  (asciiError? value).map fun e => .unwritable e.message

/-- The authorization by a name and a password. -/
def userAuthorization (name password : List Char) : String :=
  "Basic " ++ String.ofList (Base64.encode (Utf8.encode (name ++ ':' :: password)))

/-- The authorization of a message to an address; a user in that goes first. -/
def authorizationAt (u : Url) (m : Message) : String :=
  match u.credentials? with
  | some (name, password) => userAuthorization name password
  | none => m.authorization

/-- The request that a message is written as. -/
def Message.written (m : Message) : Except Unsent Request :=
  match Url.rooted <$> Url.ofText m.address.toList with
  | .error e => .error (.invalid e.message)
  | .ok url =>
    match headerError? m.authorization.toList with
    | some e => .error e
    | none =>
      if !m.body.isSendable then
        .error (.unwritable "Out of range float values are not JSON compliant")
      else
        match headerError? url.hostText with
        | some e => .error e
        | none => .ok ⟨url.text, url.isAbsolute, authorizationAt url m, m.body.compact⟩

/-- The transport over HTTP, with answers read to the given depth. -/
def Wire.standard (depth : Nat) : Wire := ⟨Message.written, depth⟩

end Mender.Assistant
