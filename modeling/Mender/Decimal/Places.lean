import Mender.Decimal.Shortest

/-!
# Doubles with a set number of digits

The magnitude of a double in digits, as many as are asked for: a number of places behind
the point (`fixedText`), a number of places and an exponent (`scientificText`), or a number
of significant digits in whichever of the two forms suits (`generalText`). The exact value
is rounded once, a half to the even digit.

A point with nothing behind it is left out, and so are the zeros at the end of the general
form, unless the text is asked for in full.
-/

namespace Mender.Double

/-- The magnitude of a finite double in units of a power of ten, rounded. -/
def inUnitsOf (d : Double) (scale : Int) : Nat :=
  let (m, e) := d.significand
  let (num, den) := shifted m 1 e
  let (v, p) := comparable num den scale 1
  roundEven v p

/-- The magnitude of a finite double in exactly `count` significant digits, of which there
    is one at least. -/
def significant (d : Double) (count : Nat) : Decimal :=
  if d.isZero then (0, 1 - (count : Int))
  else
    let (m, e) := d.significand
    let (num, den) := shifted m 1 e
    let scale := decimalExponent num den + 1 - count
    let n := d.inUnitsOf scale
    -- Nines may round up to one digit more.
    if n = Nat.pow 10 count then (n / 10, scale + 1) else (n, scale)

/-- The digits of a number, behind zeros that make them `width` at least. -/
def paddedDigits (width n : Nat) : List Char :=
  let ds := Nat.toDigits 10 n
  List.replicate (width - ds.length) '0' ++ ds

/-- A fraction behind its point; one without digits has a point only if asked for in full. -/
def pointed (full : Bool) (fraction : List Char) : List Char :=
  if fraction = [] ∧ !full then [] else '.' :: fraction

/-- A finite magnitude with the given number of places. -/
def fixedText (full : Bool) (places : Nat) (d : Double) : List Char :=
  let ds := paddedDigits (places + 1) (d.inUnitsOf (-(places : Int)))
  ds.take (ds.length - places) ++ pointed full (ds.drop (ds.length - places))

/-- An exponent, of two digits at least. -/
def exponentText (e : Int) : List Char :=
  'e' :: (if e < 0 then '-' else '+') :: paddedDigits 2 e.natAbs

/-- Digits with a point behind the first and an exponent. -/
def withExponent (full : Bool) (digits : List Char) (e : Int) : List Char :=
  digits.take 1 ++ pointed full (digits.drop 1) ++ exponentText e

/-- A finite magnitude with an exponent and the given number of places. -/
def scientificText (full : Bool) (places : Nat) (d : Double) : List Char :=
  let (n, scale) := d.significant (places + 1)
  withExponent full (paddedDigits (places + 1) n) (scale + places)

/-- Digits of which the first has the given exponent, with a point where it falls. -/
def positional (full : Bool) (digits : List Char) (e : Int) : List Char :=
  if e < 0 then '0' :: '.' :: List.replicate (-e - 1).toNat '0' ++ digits
  else
    let whole := e.toNat + 1
    digits.take whole ++ List.replicate (whole - digits.length) '0'
      ++ pointed full (digits.drop whole)

/-- A finite magnitude with the given number of significant digits, of which there is one
    at least. It has an exponent if the first digit stands more than four places behind
    the point, or the last in front of it. -/
def generalText (full : Bool) (count : Nat) (d : Double) : List Char :=
  let count := max 1 count
  let (n, scale) := d.significant count
  let e := scale + count - 1
  let all := paddedDigits count n
  let digits := if full then all else
    match dropZeros all with
    | [] => ['0']
    | ds => ds
  if e < -4 ∨ (count : Int) ≤ e then withExponent full digits e else positional full digits e

/-- The integer next to a finite double on the side of zero; zero for the others. -/
def truncate (d : Double) : Int :=
  if !d.isFinite then 0
  else
    let (m, e) := d.significand
    let (num, den) := shifted m 1 e
    if d.isNegative then -((num / den : Nat) : Int) else (num / den : Nat)

end Mender.Double
