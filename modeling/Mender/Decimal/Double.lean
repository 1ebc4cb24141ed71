/-!
# Doubles

Numbers in the binary format of 64 bits, as those bits (`Double`). Every
operation is exact rational arithmetic followed by one rounding: `ofRatio` takes
a quotient of natural numbers to the nearest double, of two equally near ones to
the one whose last bit is zero. A decimal numeral (`ofDecimal`) and a multiple of
a double (`times`) are such quotients.
-/

namespace Mender

/-- A double, by its bits. -/
structure Double where
  bits : UInt64
  deriving DecidableEq, Repr, Inhabited

namespace Double

/-- The bits of infinity, which are also the bits above every finite double. -/
def infinityBits : Nat := 0x7ff0000000000000

/-- The sign bit as a number. -/
def signBit (negative : Bool) : Nat := if negative then 0x8000000000000000 else 0

/-- A double of the given sign and magnitude bits. -/
def ofParts (negative : Bool) (magnitude : Nat) : Double :=
  ⟨UInt64.ofNat (signBit negative + magnitude)⟩

/-- Infinity. -/
def infinity (negative : Bool) : Double := ofParts negative infinityBits

/-- No number. -/
def nan (negative : Bool) : Double := ofParts negative 0x7ff8000000000000

/-- The bits that hold the magnitude. -/
def magnitude (d : Double) : Nat := d.bits.toNat % 0x8000000000000000

/-- The sign bit is set; so it may be for a zero. -/
def isNegative (d : Double) : Bool := 0x8000000000000000 ≤ d.bits.toNat

/-- A number, neither infinite nor no number. -/
def isFinite (d : Double) : Bool := d.magnitude < infinityBits

/-- No number. -/
def isNaN (d : Double) : Bool := infinityBits < d.magnitude

/-- Zero, of either sign. -/
def isZero (d : Double) : Bool := d.magnitude == 0

/-- The bit of a significand that is not kept, as it leads all significands but those of the
    smallest doubles. -/
def leadingBit : Nat := 0x10000000000000

/-- The significand and the binary exponent of a finite double: its magnitude is
    `significand * 2 ^ exponent`. -/
def significand (d : Double) : Nat × Int :=
  let field : Nat := d.magnitude / leadingBit
  let fraction : Nat := d.magnitude % leadingBit
  if field = 0 then (fraction, -1074) else (leadingBit + fraction, (field : Int) - 1075)

/-- `num * 2 ^ e / den` as a quotient of natural numbers. -/
def shifted (num den : Nat) (e : Int) : Nat × Nat :=
  if 0 ≤ e then (num * Nat.pow 2 e.toNat, den) else (num, den * Nat.pow 2 (-e).toNat)

/-- A quotient rounded to the nearest natural number, a half to the even one. -/
def roundEven (num den : Nat) : Nat :=
  let q := num / den
  let r := num % den
  if 2 * r > den ∨ (2 * r = den ∧ q % 2 = 1) then q + 1 else q

/-- The exponent of the greatest power of two not above a positive quotient. -/
def binaryExponent (num den : Nat) : Int :=
  let e : Int := (num.log2 : Int) - den.log2
  let (n, d) := shifted num den (-e)
  if d ≤ n then e else e - 1

/-- The double nearest to a quotient of natural numbers, infinity if it is beyond
    all finite doubles. -/
def ofRatio (negative : Bool) (num den : Nat) : Double :=
  if num = 0 then ofParts negative 0
  else
    let e := max (binaryExponent num den - 52) (-1074)
    let (n, d) := shifted num den (-e)
    -- The significand's top bit carries into the exponent, also when rounding adds one.
    let magnitude := (e + 1074).toNat * leadingBit + roundEven n d
    ofParts negative (min magnitude infinityBits)

/-- The double nearest to a decimal numeral, the digits read as a number and
    scaled by a power of ten. -/
def ofDecimal (negative : Bool) (digits : Nat) (exponent : Int) : Double :=
  let size : Int := (Nat.toDigits 10 digits).length
  if digits = 0 ∨ exponent + size < -330 then ofParts negative 0
  else if 310 < exponent + size then infinity negative
  else if 0 ≤ exponent then ofRatio negative (digits * Nat.pow 10 exponent.toNat) 1
  else ofRatio negative digits (Nat.pow 10 (-exponent).toNat)

/-- The double nearest to an integer. -/
def ofInt (n : Int) : Double := ofRatio (n < 0) n.natAbs 1

/-- The multiple of a double by a natural number, rounded once. -/
def times (d : Double) (n : Nat) : Double :=
  if d.isNaN then d
  else if !d.isFinite then (if n = 0 then nan true else d)
  else
    let (m, e) := d.significand
    let (num, den) := shifted (m * n) 1 e
    ofRatio d.isNegative num den

/-- The integer a finite double is equal to, if there is one. -/
def toInt? (d : Double) : Option Int :=
  if !d.isFinite then none
  else
    let (m, e) := d.significand
    let (num, den) := shifted m 1 e
    if num % den = 0 then
      some (if d.isNegative then -((num / den : Nat) : Int) else (num / den : Nat))
    else none

/-- The greatest integer not above a finite double; zero for the others. -/
def floor (d : Double) : Int :=
  if !d.isFinite then 0
  else
    let (m, e) := d.significand
    let (num, den) := shifted m 1 e
    Int.fdiv (if d.isNegative then -(num : Int) else num) den

end Double

end Mender
