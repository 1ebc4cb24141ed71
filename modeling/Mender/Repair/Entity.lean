import Mender.Text.Lines
import Mender.Text.Scan

/-!
# Unescaped entities

Quotes in the text of an element are written as entities. On the reported line a tag,
from an opening angle bracket to the first closing one, and an expression, from an
opening brace to the first closing one, are code and stay as they are; what stands
between them is text (`escape`). An opening bracket or brace that nothing closes is
text too.
-/

namespace Mender.Repair.Entity

open Text

/-- Which of the quotes are written as entities. -/
structure Quotes where
  double : Bool
  single : Bool
  deriving DecidableEq, Repr

/-- The quotes that a message names; both, if it names none. -/
def Quotes.ofMessage (message : List Char) : Quotes :=
  let double := occurs ['\x60', '"', '\x60'] message
  let single := occurs ['\x60', '\'', '\x60'] message
  if double || single then ⟨double, single⟩ else ⟨true, true⟩

/-- A character of a text. -/
def Quotes.entity (q : Quotes) (c : Char) : List Char :=
  if c = '"' ∧ q.double then "&quot;".toList
  else if c = '\'' ∧ q.single then "&apos;".toList
  else [c]

/-- The number of characters of a piece of code behind the character that opens it,
    if the text starts with one. -/
def codeLength? : List Char → Option Nat
  | '<' :: s => (s.findIdx? (· == '>')).map (· + 1)
  | '{' :: s => (s.findIdx? (· == '}')).map (· + 1)
  | _ => none

/-- The line with the quotes of its text as entities; the first `skip` characters
    are code. -/
def escape (q : Quotes) : (skip : Nat) → (line : List Char) → List Char
  | _, [] => []
  | skip + 1, c :: s => c :: escape q skip s
  | 0, c :: s =>
    match codeLength? (c :: s) with
    | some n => c :: escape q n s
    | none => q.entity c ++ escape q 0 s

/-- The content with the quotes of a line as entities. -/
def repair (line : Int) (message content : List Char) : List Char :=
  modifyLine line (escape (.ofMessage message) 0) content

end Mender.Repair.Entity
