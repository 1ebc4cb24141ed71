/-!
# Wide characters in host names

A label with wide characters is written with letters, digits and hyphens alone: the plain
characters first, then, behind a hyphen, where the wide ones go (`encode`). They are told
in the order of their code points and, for each, of their positions, as the numbers of
places passed over, so that every step is one number. The digits of a number have a
variable length: a digit below the threshold of its place ends the number, and the
thresholds follow the size of the numbers before (`adapted`).

`decode?` reads such a text back.
-/

namespace Mender.Host.Bootstring

/-- A digit: the letters stand for 0 to 25, the decimal digits for 26 to 35. -/
def digit (n : Nat) : Char := if n < 26 then Char.ofNat (97 + n) else Char.ofNat (22 + n)

/-- The value of a digit. -/
def digitValue? (c : Char) : Option Nat :=
  if 'a' ≤ c ∧ c ≤ 'z' then some (c.toNat - 97)
  else if 'A' ≤ c ∧ c ≤ 'Z' then some (c.toNat - 65)
  else if '0' ≤ c ∧ c ≤ '9' then some (c.toNat - 22)
  else none

/-- The threshold of a place, counted from zero. -/
def threshold (place bias : Nat) : Nat := min 26 (max 1 (36 * (place + 1) - bias))

theorem one_le_threshold (place bias : Nat) : 1 ≤ threshold place bias := by
  unfold threshold
  omega

/-- The bias for numbers of the size of `delta`, which is first brought below 456; `places`
    is the bias gathered in doing so. -/
def settled (delta places : Nat) : Nat :=
  if 455 < delta then settled (delta / 35) (places + 36) else places + 36 * delta / (delta + 38)
termination_by delta
decreasing_by omega

/-- The bias after a number, the `count`-th character being placed by it. -/
def adapted (delta : Nat) (isFirst : Bool) (count : Nat) : Nat :=
  let delta := if isFirst then delta / 700 else delta / 2
  settled (delta + delta / count) 0

/-- The bias before the first number. -/
def initialBias : Nat := 72

/-! ## Writing -/

/-- The digits of a number from a place on. -/
def digitsFrom (bias place n : Nat) : List Char :=
  let t := threshold place bias
  if n < t then [digit n]
  else digit (t + (n - t) % (36 - t)) :: digitsFrom bias (place + 1) ((n - t) / (36 - t))
termination_by n
decreasing_by
  have := one_le_threshold place bias
  have := Nat.div_le_self (n - threshold place bias) (36 - threshold place bias)
  omega

/-- What is written so far. -/
structure Writing where
  /-- The numbers, in digits. -/
  out : List Char
  /-- The places passed over since the last number. -/
  passed : Nat
  bias : Nat
  /-- The characters that have their place. -/
  placed : Nat

/-- A character of the text passed over, or placed if it has the code point `point`;
    `plain` characters were there from the start. -/
def Writing.pass (plain point : Nat) (w : Writing) (c : Char) : Writing :=
  if c.toNat < point then { w with passed := w.passed + 1 }
  else if c.toNat = point then
    ⟨w.out ++ digitsFrom w.bias 0 w.passed, 0,
      adapted w.passed (w.placed == plain) (w.placed + 1), w.placed + 1⟩
  else w

/-- The numbers for the code points `points`, in increasing order and none of them below
    `next`. -/
def Writing.finish (plain : Nat) (s : List Char) : (next : Nat) → List Nat → Writing → Writing
  | _, [], w => w
  | next, point :: points, w =>
    let w := { w with passed := w.passed + (point - next) * (w.placed + 1) }
    let w := s.foldl (Writing.pass plain point) w
    Writing.finish plain s (point + 1) points { w with passed := w.passed + 1 }

/-- A plain character. -/
def isPlain (c : Char) : Bool := c.toNat < 0x80

/-- The code points of the wide characters of a text, in increasing order. -/
def widePoints (s : List Char) : List Nat :=
  (((s.filter (!isPlain ·)).map Char.toNat).mergeSort (· ≤ ·)).eraseDups

/-- The text written with plain characters alone. -/
def encode (s : List Char) : List Char :=
  let plain := s.filter isPlain
  let w := Writing.finish plain.length s 0x80 (widePoints s) ⟨[], 0, initialBias, plain.length⟩
  plain ++ (if plain = [] then [] else ['-']) ++ w.out

/-! ## Reading -/

/-- What is read so far. -/
structure Reading where
  /-- The text with the characters placed so far. -/
  out : List Char
  /-- The code point to be placed next, unless places are passed over. -/
  point : Nat
  /-- The place behind the last one. -/
  next : Nat
  bias : Nat
  /-- No number has been read. -/
  isFirst : Bool
  /-- The place of the digit in its number. -/
  place : Nat
  /-- The weight of the digit. -/
  weight : Nat
  /-- The digits of the number so far. -/
  sum : Nat

/-- The reading after a number. -/
def Reading.insert (r : Reading) (delta : Nat) : Option Reading :=
  let size := r.out.length + 1
  let point := r.point + (r.next + delta) / size
  let at_ := (r.next + delta) % size
  if h : point.isValidChar then
    some ⟨r.out.take at_ ++ Char.ofNatAux point h :: r.out.drop at_, point, at_ + 1,
      adapted delta r.isFirst size, false, 0, 1, 0⟩
  else none

/-- The text after the digits of the remaining numbers. -/
def Reading.finish (r : Reading) : List Char → Option (List Char)
  | [] => if r.place = 0 then some r.out else none
  | c :: s =>
    match digitValue? c with
    | none => none
    | some d =>
      let t := threshold r.place r.bias
      let sum := r.sum + d * r.weight
      if d < t then (r.insert sum).bind fun r => r.finish s
      else
        Reading.finish { r with place := r.place + 1, weight := r.weight * (36 - t), sum } s

/-- The text that plain characters write. -/
def decode? (s : List Char) : Option (List Char) :=
  let digits := (s.reverse.takeWhile (· ≠ '-')).reverse
  let plain := (s.take (s.length - digits.length)).dropLast
  Reading.finish ⟨plain, 0x80, 0, initialBias, true, 0, 1, 0⟩ digits

end Mender.Host.Bootstring
