import Mender.Decimal.Numeral

/-!
# Numerals in records

The whole numbers that texts write where a record asks for one (`Numeral.lenient`).
A plain numeral is a sign and ASCII digits without leading zeros (`Numeral.plain`).
Any other text is brought to that form first (`Numeral.plainForm?`): the white space
around it, a plus, leading zeros, a fraction of zeros and single underscores between
digits are taken away.

The limit on the number of digits is told apart only for a text that starts as a
plain numeral by itself; behind zeros or a plus, too long a numeral is no numeral.
-/

namespace Mender.Numeral

open Text

/-- An ASCII digit other than zero. -/
def isLeadingDigit (c : Char) : Bool := '1' ≤ c && c ≤ '9'

/-- The whole number of plain digits. A number with too many digits is refused before
    what follows it is looked at. -/
def plainMagnitude (s : List Char) : Except Fault Nat :=
  if s = ['0'] then .ok 0
  else if s.head?.any isLeadingDigit then
    let (ds, rest) := s.span Char.isDigit
    if maxDigits < ds.length then .error (.tooLong ds.length)
    else if rest = [] then .ok (natural ds)
    else .error .malformed
  else .error .malformed

/-- The whole number of a plain numeral. -/
def plain : List Char → Except Fault Int
  | '-' :: s => (plainMagnitude s).map fun n => -(n : Int)
  | s => (plainMagnitude s).map fun n => (n : Int)

/-- The numeral behind its leading zeros, which underscores may separate; `last`
    is the last character dropped. A zero stays in front of a point, and at the
    end. -/
def behindZeros (last : Char) : List Char → Option (List Char)
  | [] => some [last]
  | c :: s =>
    if c = '0' ∨ c = '_' then behindZeros c s
    else if isLeadingDigit c ∨ c = '-' then some (c :: s)
    else if c = '.' then some (last :: c :: s)
    else none

/-- The numeral without leading zeros. -/
def dropLeadingZeros : List Char → Option (List Char)
  | [] => none
  | c :: s =>
    if c = '0' then behindZeros c s
    else if isLeadingDigit c ∨ c = '-' then some (c :: s)
    else none

/-- The numeral without a point and the zeros behind it, one at least. Any other
    fraction stays. -/
def dropZeroFraction (s : List Char) : List Char :=
  match s.span (· ≠ '.') with
  | (whole, _ :: zeros) => if zeros ≠ [] ∧ zeros.all (· == '0') then whole else s
  | (_, []) => s

/-- Two underscores stand side by side. -/
def hasDoubleUnderscore : List Char → Bool
  | '_' :: '_' :: _ => true
  | _ :: s => hasDoubleUnderscore s
  | [] => false

/-- The numeral without its underscores, none of which may stand first, last or
    beside another. -/
def dropUnderscores (s : List Char) : Option (List Char) :=
  if s.head? = some '_' ∨ s.getLast? = some '_' ∨ hasDoubleUnderscore s then none
  else some (s.filter (· ≠ '_'))

/-- A numeral behind its sign in plain form. -/
def plainDigits? (s : List Char) : Option (List Char) :=
  (dropLeadingZeros s).bind fun s => dropUnderscores (dropZeroFraction s)

/-- A numeral in plain form. -/
def plainForm? (s : List Char) : Option (List Char) :=
  match core s with
  | '+' :: '-' :: _ => none
  | '+' :: s => plainDigits? s
  | '-' :: s => (plainDigits? s).map ('-' :: ·)
  | s => plainDigits? s

/-- The whole number that a text in a record writes. -/
def lenient (s : List Char) : Except Fault Int :=
  match plain s with
  | .ok n => .ok n
  | .error (.tooLong digits) => .error (.tooLong digits)
  | .error .malformed =>
    match (plainForm? s).map plain with
    | some (.ok n) => .ok n
    | _ => .error .malformed

end Mender.Numeral
