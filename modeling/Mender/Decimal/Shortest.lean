import Mender.Decimal.Double

/-!
# Shortest decimal text of a double

The digits that write a double are the fewest that read back as that double, and
the nearest to it among those (`Double.shortest`). For a given number of digits
only the two decimals next to the value need a test: if any decimal of that
length rounds to the double, one of these two does.

The text is positional while the point lies between the fourth place left of the
digits and the sixteenth place right of their start, and has an exponent of at
least two digits beyond; a whole number keeps `.0` (`Double.text`).
-/

namespace Mender.Double

/-- The digits of a decimal as a number, and its scale: the decimal is
    `digits * 10 ^ scale`. -/
abbrev Decimal := Nat × Int

/-- `num / den` against `digits * 10 ^ scale`, both brought to natural numbers. -/
def comparable (num den : Nat) (scale : Int) (digits : Nat) : Nat × Nat :=
  if 0 ≤ scale then (num, digits * Nat.pow 10 scale.toNat * den)
  else (num * Nat.pow 10 (-scale).toNat, digits * den)

/-- The greatest power of ten not above a positive quotient: `fuel` steps up from
    an estimate that is too low. -/
def decimalExponentFrom (num den : Nat) (estimate : Int) : (fuel : Nat) → Int
  | 0 => estimate
  | fuel + 1 =>
    let (v, p) := comparable num den (estimate + 1) 1
    if p ≤ v then decimalExponentFrom num den (estimate + 1) fuel else estimate

/-- The exponent of the greatest power of ten not above a positive quotient. -/
def decimalExponent (num den : Nat) : Int :=
  decimalExponentFrom num den
    (Int.fdiv (((num.log2 : Int) - den.log2 - 1) * 30103) 100000 - 1) 5

/-- The reals that round to a double `m * 2 ^ e`, as quotients by a common
    denominator: the value, the ends of the interval, and whether the ends belong
    to it. -/
structure Interval where
  low : Nat
  value : Nat
  high : Nat
  den : Nat
  closed : Bool

/-- The reals that round to a positive double. Below a power of two the doubles
    are twice as dense. -/
def interval (d : Double) : Interval :=
  let (m, e) := d.significand
  let (n, den) := shifted 1 4 e
  let below := if m = leadingBit ∧ -1074 < e then 1 else 2
  ⟨(4 * m - below) * n, 4 * m * n, (4 * m + 2) * n, den, m % 2 == 0⟩

/-- A decimal lies in the interval. -/
def Interval.has (i : Interval) (scale : Int) (digits : Nat) : Bool :=
  let (low, x) := comparable i.low i.den scale digits
  let (high, y) := comparable i.high i.den scale digits
  if i.closed then low ≤ x && y ≤ high else low < x && y < high

/-- Of the decimals `digits` and `digits + 1` the one in the interval; of two the
    nearer to the value, and of two equally near the even one. -/
def Interval.pick? (i : Interval) (scale : Int) (digits : Nat) : Option Nat :=
  match i.has scale digits, i.has scale (digits + 1) with
  | false, false => none
  | true, false => some digits
  | false, true => some (digits + 1)
  | true, true =>
    let (v, x) := comparable i.value i.den scale digits
    let (w, y) := comparable i.value i.den scale (digits + 1)
    if v - x < y - w ∨ (v - x = y - w ∧ digits % 2 = 0) then some digits else some (digits + 1)

/-- The shortest decimal in the interval with at least `17 - fuel` digits, `top`
    being the exponent of the first digit. -/
def Interval.search (i : Interval) (top : Int) : (fuel : Nat) → Decimal
  | 0 =>
    let (v, p) := comparable i.value i.den (top - 16) 1
    (v / p, top - 16)
  | fuel + 1 =>
    let scale := top - (16 - fuel : Nat)
    let (v, p) := comparable i.value i.den scale 1
    match i.pick? scale (v / p) with
    | some digits => (digits, scale)
    | none => i.search top fuel

/-- The shortest decimal that reads back as a positive finite double, the nearest
    to it among those. -/
def shortest (d : Double) : Decimal :=
  let i := d.interval
  i.search (decimalExponent i.value i.den) 17

/-- The digits without the zeros they end with. -/
def dropZeros (digits : List Char) : List Char :=
  (digits.reverse.dropWhile (· == '0')).reverse

/-- The magnitude of a finite double in digits. -/
def digitsText (d : Double) : List Char :=
  if d.isZero then "0.0".toList
  else
    let (n, scale) := d.shortest
    let all := Nat.toDigits 10 n
    -- The point stands `point` places to the right of the first digit.
    let point : Int := scale + all.length
    let digits := dropZeros all
    if -4 < point ∧ point ≤ 16 then
      if point ≤ 0 then '0' :: '.' :: List.replicate (-point).toNat '0' ++ digits
      else if digits.length ≤ point.toNat then
        digits ++ List.replicate (point.toNat - digits.length) '0' ++ ['.', '0']
      else digits.take point.toNat ++ '.' :: digits.drop point.toNat
    else
      let e := point - 1
      let exponent := Nat.toDigits 10 e.natAbs
      let padded := if exponent.length < 2 then '0' :: exponent else exponent
      let mantissa :=
        match digits with
        | [] => []
        | [c] => [c]
        | c :: rest => c :: '.' :: rest
      mantissa ++ 'e' :: (if e < 0 then '-' else '+') :: padded

/-- The text of a double. -/
def text (d : Double) : String :=
  if d.isNaN then "nan"
  else
    let magnitude := if d.isFinite then String.ofList d.digitsText else "inf"
    if d.isNegative then "-" ++ magnitude else magnitude

end Mender.Double
