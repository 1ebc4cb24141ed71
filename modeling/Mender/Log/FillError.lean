import Mender.Text.Quoted

/-!
# Patterns and values that do not go together

Why a log pattern cannot be filled with values (`FillError`): the pattern is no pattern, a
place lacks a value or a value a place, or a value is of a kind that its place does not
take.
-/

namespace Mender.Log

/-- Why a pattern and values do not go together. -/
inductive FillError
  | tooFewValues
  | tooManyValues
  /-- A place names its value, but the values have no names. -/
  | unnamedValues
  /-- No value has the name. -/
  | noSuchName (name : String)
  /-- The name of a value is not closed. -/
  | unclosedName
  /-- The pattern ends within a place. -/
  | unfinished
  | widthTooBig
  | precisionTooBig
  /-- The width or the precision is taken from a value that is no whole number. -/
  | amountNotWhole
  /-- The width taken from a value is too long a number. -/
  | widthBeyondWord
  /-- The precision taken from a value is too long a number. -/
  | precisionBeyondWord
  /-- So many digits are never written. -/
  | digitsBeyondLimit
  /-- The text would not fit into memory. -/
  | tooWide
  /-- There is no such place. -/
  | unknownPlace (mark : Char) (position : Nat)
  /-- The place takes numbers; `kind` is the kind of the value. -/
  | notNumber (mark : Char) (kind : String)
  /-- The place takes whole numbers. -/
  | notWhole (mark : Char) (kind : String)
  /-- The place takes doubles. -/
  | notReal (kind : String)
  /-- The place takes characters. -/
  | notCharacter
  /-- There is no character of that number. -/
  | beyondCharacters
  /-- An infinite value in the place of a whole number. -/
  | infinite
  /-- No number in the place of a whole number. -/
  | undefined
  /-- A whole number beyond all doubles in the place of one. -/
  | beyondDoubles
  deriving DecidableEq, Repr

/-- The characters that are shown in a message about an unknown place. -/
def isShownMark (c : Char) : Bool := 31 ≤ c.toNat && c.toNat ≤ 126

/-- The text of an error. -/
def FillError.message : FillError → String
  | .tooFewValues => "not enough arguments for format string"
  | .tooManyValues => "not all arguments converted during string formatting"
  | .unnamedValues => "format requires a mapping"
  | .noSuchName name => String.ofList (Text.quoted name.toList)
  | .unclosedName => "incomplete format key"
  | .unfinished => "incomplete format"
  | .widthTooBig => "width too big"
  | .precisionTooBig => "precision too big"
  | .amountNotWhole => "* wants int"
  | .widthBeyondWord => "Python int too large to convert to C ssize_t"
  | .precisionBeyondWord => "Python int too large to convert to C int"
  | .digitsBeyondLimit => "precision too large"
  | .tooWide => ""
  | .unknownPlace mark position =>
    "unsupported format character '" ++ String.singleton (if isShownMark mark then mark else '?')
      ++ "' (0x" ++ String.ofList (Nat.toDigits 16 mark.toNat) ++ ") at index "
      ++ toString position
  | .notNumber mark kind =>
    "%" ++ String.singleton mark ++ " format: a real number is required, not " ++ kind
  | .notWhole mark kind =>
    "%" ++ String.singleton mark ++ " format: an integer is required, not " ++ kind
  | .notReal kind => "must be real number, not " ++ kind
  | .notCharacter => "%c requires int or char"
  | .beyondCharacters => "%c arg not in range(0x110000)"
  | .infinite => "cannot convert float infinity to integer"
  | .undefined => "cannot convert float NaN to integer"
  | .beyondDoubles => "int too large to convert to float"

end Mender.Log
