import Mender.Text.Quoted

/-!
# Texts that cannot be written as bytes

Why the characters of a text have no place in an encoding (`EncodeError`). The first run of
such characters is reported: a single one is shown, several are counted.
-/

namespace Mender.Text

/-- A code point as an escape. -/
def escaped (n : Nat) : List Char :=
  if n < 0x100 then '\\' :: 'x' :: hex 2 n
  else if n < 0x10000 then '\\' :: 'u' :: hex 4 n
  else '\\' :: 'U' :: hex 8 n

/-- The first run of code points that an encoding has no bytes for. -/
structure EncodeError where
  /-- The name of the encoding. -/
  encoding : String
  /-- The position of the first of them. -/
  position : Nat
  /-- The code points. -/
  run : List Nat
  why : String
  deriving DecidableEq, Repr

/-- The text of an error. -/
def EncodeError.message (e : EncodeError) : String :=
  let place :=
    match e.run with
    | [n] => "character '" ++ String.ofList (escaped n) ++ "' in position " ++ toString e.position
    | ns =>
      "characters in position " ++ toString e.position ++ "-"
        ++ toString (e.position + ns.length - 1)
  "'" ++ e.encoding ++ "' codec can't encode " ++ place ++ ": " ++ e.why

/-- A character beyond U+007F. -/
def isWide (c : Char) : Bool := 0x80 ≤ c.toNat

/-- Why a text cannot be written with characters below U+0080 alone. -/
def asciiError? (s : List Char) : Option EncodeError :=
  (s.findIdx? isWide).map fun i =>
    ⟨"ascii", i, ((s.drop i).takeWhile isWide).map Char.toNat, "ordinal not in range(128)"⟩

end Mender.Text
