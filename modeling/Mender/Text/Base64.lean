import Mender.Text.Utf8

/-!
# Base 64

Bytes as a text of letters, digits, `+` and `/`: three bytes are four characters, and
equals signs fill up the last four.
-/

namespace Mender.Text.Base64

/-- The character of a number below 64. -/
def digit (n : Nat) : Char :=
  if n < 26 then Char.ofNat (65 + n)
  else if n < 52 then Char.ofNat (71 + n)
  else if n < 62 then Char.ofNat (n - 4)
  else if n = 62 then '+'
  else '/'

/-- The characters of a number of 24 bits, the first `count` of them. -/
def digits (count n : Nat) : List Char :=
  [digit (n / 262144 % 64), digit (n / 4096 % 64), digit (n / 64 % 64), digit (n % 64)].take count

/-- The text of bytes. -/
def encode : Bytes → List Char
  | [] => []
  | [a] => digits 2 (a.toNat * 65536) ++ ['=', '=']
  | [a, b] => digits 3 (a.toNat * 65536 + b.toNat * 256) ++ ['=']
  | a :: b :: c :: s => digits 4 (a.toNat * 65536 + b.toNat * 256 + c.toNat) ++ encode s

end Mender.Text.Base64
