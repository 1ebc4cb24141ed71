import Mender.Decimal.Places
import Mender.Log.FillError
import Mender.Log.Value

/-!
# Conversions of values in log messages

How a value is written in a place (`convert`). The mark of the place names the conversion
(`Conversion.ofMark?`); its layout says how many digits there are at least and how the
text is brought to a width (`Layout.align`): a number may be filled with zeros between its
sign and its digits, everything else with blanks.
-/

namespace Mender.Log

/-- How a value in a place is laid out. -/
structure Layout where
  /-- Blanks follow the text rather than stand in front of it. -/
  alignLeft : Bool
  /-- A number is filled with zeros. -/
  fillZeros : Bool
  /-- A number that is not negative has a plus. -/
  showPlus : Bool
  /-- A number that is not negative has a blank. -/
  showBlank : Bool
  /-- A number shows its base, or its point. -/
  full : Bool
  width : Nat
  precision : Option Nat
  deriving DecidableEq, Repr

/-- How a value is written. -/
inductive Conversion
  | text
  | quoted
  /-- In quotes and with wide characters escaped. -/
  | narrow
  | decimal
  | octal
  | hexadecimal (upper : Bool)
  | scientific (upper : Bool)
  | fixed (upper : Bool)
  | general (upper : Bool)
  | character
  deriving DecidableEq, Repr

/-- The conversion that a mark names. -/
def Conversion.ofMark? (c : Char) : Option Conversion :=
  [('s', text), ('r', quoted), ('a', narrow), ('d', decimal), ('i', decimal), ('u', decimal),
   ('o', octal), ('x', hexadecimal false), ('X', hexadecimal true), ('e', scientific false),
   ('E', scientific true), ('f', fixed false), ('F', fixed true), ('g', general false),
   ('G', general true), ('c', character)].lookup c

/-! ## Values as numbers -/

/-- The whole number that a value is cut to. -/
def wholeOf (mark : Char) : Json → Except FillError Int
  | .int n => .ok n
  | .bool b => .ok (if b then 1 else 0)
  | .real d =>
    if d.isNaN then .error .undefined
    else if d.isFinite then .ok d.truncate
    else .error .infinite
  | v => .error (.notNumber mark v.kindName)

/-- The whole number that a value is. -/
def exactWholeOf (mark : Char) : Json → Except FillError Int
  | .int n => .ok n
  | .bool b => .ok (if b then 1 else 0)
  | v => .error (.notWhole mark v.kindName)

/-- The double that a value is. -/
def realOf : Json → Except FillError Double
  | .int n =>
    let d := Double.ofInt n
    if d.isFinite then .ok d else .error .beyondDoubles
  | .bool b => .ok (.ofInt (if b then 1 else 0))
  | .real d => .ok d
  | v => .error (.notReal v.kindName)

/-- The character of a number. -/
def characterOfNumber (n : Int) : Except FillError Char :=
  if 0 ≤ n ∧ n < 0x110000 then .ok ((Text.Point.ofNat n.toNat).char?.getD '\uFFFD')
  else .error .beyondCharacters

/-- The character that a value is: a text of one, or its number. -/
def characterOf : Json → Except FillError Char
  | .int n => characterOfNumber n
  | .bool b => characterOfNumber (if b then 1 else 0)
  | .str s =>
    match s.patched with
    | [c] => .ok c
    | _ => .error .notCharacter
  | _ => .error .notCharacter

/-! ## Layout -/

/-- The most characters that a text is brought to. -/
def memoryLimit : Nat := 0x40000000

/-- Some blanks. -/
def blanks (n : Nat) : List Char := List.replicate n ' '

/-- A text with a head, brought to the width of a layout. -/
def Layout.align (l : Layout) (isNumber : Bool) (head body : List Char) :
    Except FillError (List Char) :=
  let gap := l.width - (head.length + body.length)
  if memoryLimit < gap then .error .tooWide
  else if l.alignLeft then .ok (head ++ body ++ blanks gap)
  else if isNumber && l.fillZeros then .ok (head ++ List.replicate gap '0' ++ body)
  else .ok (blanks gap ++ head ++ body)

/-- The sign of a number. -/
def Layout.sign (l : Layout) (isNegative : Bool) : List Char :=
  if isNegative then ['-'] else if l.showPlus then ['+'] else if l.showBlank then [' '] else []

/-- A text, cut to the precision. -/
def Layout.text (l : Layout) (s : List Char) : Except FillError (List Char) :=
  l.align false [] (match l.precision with
    | none => s
    | some n => s.take n)

/-- The greatest precision of a whole number. -/
def maxDigitsShown : Nat := 0x7ffffffc

/-- Letters in upper case, if that is asked for. -/
def cased (upper : Bool) (s : List Char) : List Char := if upper then s.map Char.toUpper else s

/-- A whole number in a base, which has a head of its own. -/
def Layout.whole (l : Layout) (base : Nat) (head : List Char) (upper : Bool) (n : Int) :
    Except FillError (List Char) :=
  let digits := l.precision.getD 0
  if maxDigitsShown < digits then .error .digitsBeyondLimit
  else if memoryLimit < digits then .error .tooWide
  else
    let ds := Nat.toDigits base n.natAbs
    let ds := List.replicate (digits - ds.length) '0' ++ ds
    l.align true (l.sign (n < 0) ++ (if l.full then cased upper head else [])) (cased upper ds)

/-- The precision of a double where none is given. -/
def usualPrecision : Nat := 6

/-- A double, the magnitude of a finite one as given. -/
def Layout.real (l : Layout) (upper : Bool) (magnitude : Nat → Double → List Char) (d : Double) :
    Except FillError (List Char) :=
  let precision := l.precision.getD usualPrecision
  if memoryLimit < precision then .error .tooWide
  else
    let body :=
      if d.isNaN then "nan".toList
      else if d.isFinite then magnitude precision d
      else "inf".toList
    l.align true (l.sign (d.isNegative && !d.isNaN)) (cased upper body)

/-- A value in a place with the given mark. -/
def Conversion.write (mark : Char) (l : Layout) (v : Json) :
    Conversion → Except FillError (List Char)
  | text => l.text (valueText v)
  | quoted => l.text (innerText v)
  | narrow => l.text (narrowText v)
  | decimal => do l.whole 10 [] false (← wholeOf mark v)
  | octal => do l.whole 8 ['0', 'o'] false (← exactWholeOf mark v)
  | hexadecimal upper => do l.whole 16 ['0', 'x'] upper (← exactWholeOf mark v)
  | scientific upper => do l.real upper (Double.scientificText l.full) (← realOf v)
  | fixed upper => do l.real upper (Double.fixedText l.full) (← realOf v)
  | general upper => do l.real upper (Double.generalText l.full) (← realOf v)
  | character => do l.align false [] [← characterOf v]

/-- A value in a place whose mark stands at a position of the pattern. -/
def convert (mark : Char) (position : Nat) (l : Layout) (v : Json) :
    Except FillError (List Char) :=
  match Conversion.ofMark? mark with
  | some c => c.write mark l v
  | none => .error (.unknownPlace mark position)

end Mender.Log
