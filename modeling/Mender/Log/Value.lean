import Mender.Decimal.Shortest
import Mender.Json.Basic

/-!
# Values in log messages

The text of a value that stands in a message by itself (`valueText`) or inside another
(`innerText`), where texts are quoted.
-/

namespace Mender.Log

open Text (Loose)

mutual

/-- A value as it stands inside another. -/
def innerText : Json → List Char
  | .null => "None".toList
  | .bool true => "True".toList
  | .bool false => "False".toList
  | .int n => (toString n).toList
  | .real d => d.text.toList
  | .str s => s.quoted
  | .arr vs => '[' :: itemTexts vs ++ [']']
  | .obj ms => '{' :: memberTexts ms ++ ['}']

/-- Items with a comma between two of them. -/
def itemTexts : List Json → List Char
  | [] => []
  | [v] => innerText v
  | v :: w :: vs => innerText v ++ ',' :: ' ' :: itemTexts (w :: vs)

/-- Members with a comma between two of them. -/
def memberTexts : List (Loose × Json) → List Char
  | [] => []
  | [(k, v)] => k.quoted ++ ':' :: ' ' :: innerText v
  | (k, v) :: m :: ms =>
    k.quoted ++ ':' :: ' ' :: innerText v ++ ',' :: ' ' :: memberTexts (m :: ms)

end

/-- A value as text. -/
def valueText : Json → List Char
  | .str s => s.patched
  | v => innerText v

/-- A value as it stands inside another, every wide character escaped. -/
def narrowText (v : Json) : List Char :=
  (innerText v).flatMap fun c => if Text.isWide c then Text.escaped c.toNat else [c]

end Mender.Log
