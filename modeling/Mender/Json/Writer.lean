import Mender.Decimal.Shortest
import Mender.Json.Basic
import Mender.Text.Quoted

/-!
# Writing JSON

A value as JSON text, without any space (`compact`) or over several lines, each
level indented by two spaces (`indented`). Characters beyond U+007F are written as
they are; of the others only the quote, the backslash and the control characters
are escaped, and so is a surrogate that stands alone.
-/

namespace Mender.Json

open Text (Loose)

/-- A character inside a JSON string. -/
def stringChar (c : Char) : List Char :=
  if c = '"' ∨ c = '\\' then ['\\', c]
  else if c = '\n' then ['\\', 'n']
  else if c = '\r' then ['\\', 'r']
  else if c = '\t' then ['\\', 't']
  else if c = '\x08' then ['\\', 'b']
  else if c = '\x0c' then ['\\', 'f']
  else if c < ' ' then '\\' :: 'u' :: Text.hex 4 c.toNat
  else [c]

/-- A code point inside a JSON string. -/
def stringPoint : Text.Point → List Char
  | .char c => stringChar c
  | .lone n => Text.escaped n

/-- A text as a JSON string. -/
def stringText : Loose → List Char
  | .whole s => '"' :: s.toList.flatMap stringChar ++ ['"']
  | .torn ps => '"' :: ps.flatMap stringPoint ++ ['"']

/-- A double as a JSON number, or as the word for what is no number. -/
def realText (d : Double) : List Char :=
  if d.isNaN then "NaN".toList
  else if d.isFinite then d.text.toList
  else if d.isNegative then "-Infinity".toList
  else "Infinity".toList

/-- A value that holds no other value. -/
def scalarText : Json → List Char
  | .null => "null".toList
  | .bool true => "true".toList
  | .bool false => "false".toList
  | .int n => (toString n).toList
  | .real d => realText d
  | .str s => stringText s
  | .arr _ | .obj _ => []

/-! ## Without spaces -/

mutual

/-- The text of a value without spaces. -/
def compactText : Json → List Char
  | .arr vs => '[' :: compactItems vs ++ [']']
  | .obj ms => '{' :: compactMembers ms ++ ['}']
  | v => scalarText v

/-- Items with a comma between two of them. -/
def compactItems : List Json → List Char
  | [] => []
  | [v] => compactText v
  | v :: w :: vs => compactText v ++ ',' :: compactItems (w :: vs)

/-- Members with a comma between two of them. -/
def compactMembers : List (Loose × Json) → List Char
  | [] => []
  | [(k, v)] => stringText k ++ ':' :: compactText v
  | (k, v) :: m :: ms => stringText k ++ ':' :: compactText v ++ ',' :: compactMembers (m :: ms)

end

/-- The text of a value without spaces. -/
def compact (v : Json) : String := String.ofList (compactText v)

/-! ## Over several lines -/

/-- A new line at a level. -/
def newLine (level : Nat) : List Char := '\n' :: List.replicate (2 * level) ' '

mutual

/-- The text of a value at a level, from the place where it stands on. -/
def indentedText (level : Nat) : Json → List Char
  | .arr [] => ['[', ']']
  | .arr (v :: vs) =>
    '[' :: newLine (level + 1) ++ indentedItems (level + 1) (v :: vs) ++ newLine level ++ [']']
  | .obj [] => ['{', '}']
  | .obj (m :: ms) =>
    '{' :: newLine (level + 1) ++ indentedMembers (level + 1) (m :: ms) ++ newLine level ++ ['}']
  | v => scalarText v

/-- Items on a line each. -/
def indentedItems (level : Nat) : List Json → List Char
  | [] => []
  | [v] => indentedText level v
  | v :: w :: vs => indentedText level v ++ ',' :: newLine level ++ indentedItems level (w :: vs)

/-- Members on a line each. -/
def indentedMembers (level : Nat) : List (Loose × Json) → List Char
  | [] => []
  | [(k, v)] => stringText k ++ ':' :: ' ' :: indentedText level v
  | (k, v) :: m :: ms =>
    stringText k ++ ':' :: ' ' :: indentedText level v ++ ',' :: newLine level
      ++ indentedMembers level (m :: ms)

end

/-- The text of a value over several lines. -/
def indented (v : Json) : String := String.ofList (indentedText 0 v)

end Mender.Json
