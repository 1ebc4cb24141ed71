import Mender.Decimal.Double
import Mender.Text.Digit

/-!
# Numerals in settings

The numbers that a person writes: white space around them, a sign, digits of any
script, an underscore between two digits. `integer` reads a whole number, and
`real?` also a fraction, an exponent, and the names of infinity and of no number.
-/

namespace Mender.Numeral

open Text

/-- The text without the white space around it. -/
def core (s : List Char) : List Char :=
  ((s.dropWhile isWhite).reverse.dropWhile isWhite).reverse

/-- The sign in front of a numeral, and the numeral. -/
def signed : List Char → Bool × List Char
  | '-' :: s => (true, s)
  | '+' :: s => (false, s)
  | s => (false, s)

/-- The text without its underscores, each of which must stand between two
    digits; `afterDigit` tells whether a digit stands before the text. -/
def ungrouped : (afterDigit : Bool) → List Char → Option (List Char)
  | _, [] => some []
  | afterDigit, c :: s =>
    if c = '_' then
      if afterDigit && (s.head?.any isDigit) then ungrouped false s else none
    else (c :: ·) <$> ungrouped (isDigit c) s

/-- Why a text is no whole number. -/
inductive Fault
  | malformed
  /-- It has more digits than a numeral may have. -/
  | tooLong (digits : Nat)
  deriving DecidableEq, Repr

/-- The whole number that a text writes. Too many digits are reported before
    whatever follows them is looked at. -/
def integer (s : List Char) : Except Fault Int :=
  let (negative, body) := signed (core s)
  let (run, rest) := body.span fun c => isDigit c || c == '_'
  match ungrouped false run with
  | none | some [] => .error .malformed
  | some ds =>
    if maxDigits < ds.length then .error (.tooLong ds.length)
    else if rest ≠ [] then .error .malformed
    else .ok (if negative then -(natural ds : Int) else natural ds)

/-- The exponent that a text writes behind a number: none at all, or a mark, a
    sign and digits. -/
def exponent? : List Char → Option Int
  | [] => some 0
  | c :: s =>
    if c = 'e' ∨ c = 'E' then
      let (negative, ds) := signed s
      if ds ≠ [] && ds.all isDigit then
        some (if negative then -(natural ds : Int) else natural ds)
      else none
    else none

/-- The double nearest to a numeral without sign and underscores. -/
def unsigned? (negative : Bool) (s : List Char) : Option Double :=
  let name := s.map Char.toLower
  if name = "inf".toList ∨ name = "infinity".toList then some (.infinity negative)
  else if name = "nan".toList then some (.nan negative)
  else
    let (whole, rest) := digits s
    let (part, rest) :=
      match rest with
      | '.' :: rest => digits rest
      | rest => ([], rest)
    if whole = [] ∧ part = [] then none
    else
      (exponent? rest).map fun e =>
        Double.ofDecimal negative (natural (whole ++ part)) (e - part.length)

/-- The double nearest to the number that a text writes. -/
def real? (s : List Char) : Option Double :=
  let (negative, body) := signed (core s)
  (ungrouped false body).bind (unsigned? negative)

end Mender.Numeral
