import Mender.Json.Reader
import Mender.Text.Encoding

/-!
# JSON from bytes

The value that the bytes of a message body write, in whatever encoding they are.
-/

namespace Mender.Json

open Text

/-- Why the bytes of a body are no JSON. -/
inductive BodyError
  /-- They are no text, for the given reason. -/
  | undecodable (why : String)
  /-- The text is not read. -/
  | unreadable (text : List Point) (why : ReadError)
  deriving DecidableEq, Repr

/-- The text of an error. -/
def BodyError.message : BodyError → String
  | .undecodable why => why
  | .unreadable text why => why.message text

/-- The text goes too deep to be read. -/
def BodyError.isTooDeep : BodyError → Bool
  | .unreadable _ (.tooDeep _) => true
  | _ => false

/-- The value that the bytes of a body write, with lists and objects at most `depth`
    deep. -/
def ofBody (depth : Nat) (body : Bytes) : Except BodyError Json :=
  match Encoding.decodeBody body with
  | .error why => .error (.undecodable why)
  | .ok s =>
    match read depth s with
    | .error e => .error (.unreadable s e)
    | .ok v => .ok v

end Mender.Json
