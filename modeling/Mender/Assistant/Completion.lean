import Mender.Json.Body

/-!
# Completions

The answer of a provider is a JSON object with the text at
`choices`, first item, `message`, `content`. `contentOf` goes that way and says where
it ended if it did not get through (`Misfit`).
-/

namespace Mender.Assistant

open Text

/-- Why the body of an answer does not lead to a content. -/
inductive Misfit
  /-- The body is no JSON. -/
  | unreadable (why : Json.BodyError)
  /-- An object lacks the member. -/
  | noMember (name : String)
  /-- An object, where a list is expected. -/
  | noFirstMember
  /-- An empty list, or an empty text, where there should be a first item. -/
  | noFirstItem (kind : String)
  /-- A list, where an object is expected. -/
  | listIndexedByName
  /-- A text, where an object is expected. -/
  | textIndexedByName
  /-- A value without parts. -/
  | notIndexable (kind : String)

/-- The body goes too deep to be read. -/
def Misfit.isTooDeep : Misfit → Bool
  | .unreadable why => why.isTooDeep
  | _ => false

/-- The text of a misfit. -/
def Misfit.message : Misfit → String
  | .unreadable why => why.message
  | .noMember name => String.ofList (quoted name.toList)
  | .noFirstMember => "0"
  | .noFirstItem kind => kind ++ " index out of range"
  | .listIndexedByName => "list indices must be integers or slices, not str"
  | .textIndexedByName => "string indices must be integers, not 'str'"
  | .notIndexable kind => "'" ++ kind ++ "' object is not subscriptable"

/-- A member of a value. -/
def member (name : String) : Json → Except Misfit Json
  | .obj ms =>
    match Json.get? ms name with
    | some v => .ok v
    | none => .error (.noMember name)
  | .arr _ => .error .listIndexedByName
  | .str _ => .error .textIndexedByName
  | v => .error (.notIndexable v.kindName)

/-- The first item of a value; that of a text is its first character. -/
def firstItem : Json → Except Misfit Json
  | .arr (v :: _) => .ok v
  | .arr [] => .error (.noFirstItem "list")
  | .str s =>
    match s.points with
    | p :: _ => .ok (.str (.ofPoints [p]))
    | [] => .error (.noFirstItem "string")
  | .obj _ => .error .noFirstMember
  | v => .error (.notIndexable v.kindName)

/-- The content that a value leads to. -/
def contentOfValue (v : Json) : Except Misfit Json :=
  match member "choices" v with
  | .error e => .error e
  | .ok choices =>
    match firstItem choices with
    | .error e => .error e
    | .ok choice =>
      match member "message" choice with
      | .error e => .error e
      | .ok message => member "content" message

/-- The content that the body of an answer leads to, with lists and objects at most `depth`
    deep. -/
def contentOf (depth : Nat) (body : Bytes) : Except Misfit Json :=
  match Json.ofBody depth body with
  | .error e => .error (.unreadable e)
  | .ok v => contentOfValue v

/-- A value that stands for no content at all. -/
def isEmptyContent : Json → Bool
  | .null => true
  | .bool b => !b
  | .int n => n == 0
  | .real d => d.isZero
  | .str s => s.isEmpty
  | .arr vs => vs.isEmpty
  | .obj ms => ms.isEmpty

end Mender.Assistant
