import Mender.Text.Blank
import Mender.Text.Lines
import Mender.Text.Scan
import Mender.Text.Word

/-!
# Explicit any

The type `any` is narrowed to `unknown` wherever the reported line names it as a
type: behind a colon, behind the keyword of a cast, or right behind an angle bracket.
-/

namespace Mender.Repair.ExplicitAny

open Text

/-- A word ends where `s` begins. -/
def endsWord (s : List Char) : Bool := !s.head?.any isWord

/-- A type is expected behind the text `before`, which is given backwards. -/
def expectsType (before : List Char) : Bool :=
  let shown := trimStart before
  before.head? == some '<' || shown.head? == some ':' ||
    (shown.length < before.length &&
      match shown with
      | 's' :: 'a' :: r => endsWord r
      | _ => false)

/-- The text with `any` narrowed where it is a type. The text behind which it stands
    is given backwards, and the first `skip` characters belong to a type. -/
def narrow : (skip : Nat) → (before s : List Char) → List Char
  | _, _, [] => []
  | skip + 1, before, c :: s => narrow skip (c :: before) s
  | 0, before, c :: s =>
    match word? "any".toList (c :: s) with
    | some r =>
      if endsWord r && expectsType before then "unknown".toList ++ narrow 2 (c :: before) s
      else c :: narrow 0 (c :: before) s
    | none => c :: narrow 0 (c :: before) s

/-- The content with the types on a line narrowed. -/
def repair (line : Int) (content : List Char) : List Char :=
  modifyLine line (narrow 0 []) content

end Mender.Repair.ExplicitAny
