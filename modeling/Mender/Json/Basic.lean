import Mender.Decimal.Double
import Mender.Text.Loose

/-!
# JSON values

A JSON value (`Json`), whole numbers apart from doubles. The members of an object
stand in the order in which their names first appeared; a name that appears again
keeps its place and takes the later value (`Json.put`). Texts and names are loose, as an
escape may write half a pair of surrogates.
-/

namespace Mender

open Text (Loose)

/-- A JSON value. -/
inductive Json
  | null
  | bool (b : Bool)
  | int (n : Int)
  | real (d : Double)
  | str (s : Loose)
  | arr (items : List Json)
  | obj (members : List (Loose × Json))
  deriving Repr, Inhabited, BEq

namespace Json

/-- The members with the value of `name` set. -/
def put (name : Loose) (v : Json) : List (Loose × Json) → List (Loose × Json)
  | [] => [(name, v)]
  | (k, w) :: ms => if k = name then (k, v) :: ms else (k, w) :: put name v ms

/-- The value of the member `name`. -/
def get? (members : List (Loose × Json)) (name : String) : Option Json :=
  (members.find? (·.1 == .whole name)).map (·.2)

/-- The text, or null for none. -/
def ofText? : Option String → Json
  | none => .null
  | some s => .str s

/-- The name of a kind of value in messages. -/
def kindName : Json → String
  | .null => "NoneType"
  | .bool _ => "bool"
  | .int _ => "int"
  | .real _ => "float"
  | .str _ => "str"
  | .arr _ => "list"
  | .obj _ => "dict"

mutual

/-- Every double in the value is a number and every text in it has bytes. -/
def isSendable : Json → Bool
  | .real d => d.isFinite
  | .str s => s.whole?.isSome
  | .arr vs => areSendable vs
  | .obj ms => membersSendable ms
  | _ => true

/-- The same for items. -/
def areSendable : List Json → Bool
  | [] => true
  | v :: vs => isSendable v && areSendable vs

/-- The same for members. -/
def membersSendable : List (Loose × Json) → Bool
  | [] => true
  | (k, v) :: ms => k.whole?.isSome && isSendable v && membersSendable ms

end

end Json

end Mender
