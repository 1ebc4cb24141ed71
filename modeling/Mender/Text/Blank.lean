/-!
# Blank characters

The characters that separate words: every character with the Unicode property
`White_Space`, and the four information separators U+001C to U+001F. A
zero-width space (U+200B) and a byte order mark (U+FEFF) are no blanks.

A text is trimmed of its blanks at either end (`trimStart`, `trimEnd`, `trim`).
Texts under inspection are lists of characters throughout `Mender.Text`.
-/

namespace Mender.Text

/-- The blanks beyond U+0020. -/
def wideBlanks : List Nat :=
  [0x85, 0xa0, 0x1680, 0x2000, 0x2001, 0x2002, 0x2003, 0x2004, 0x2005, 0x2006, 0x2007, 0x2008,
   0x2009, 0x200a, 0x2028, 0x2029, 0x202f, 0x205f, 0x3000]

/-- A character with the property `White_Space`: tab to carriage return, the
    space, or one of the wide blanks. -/
def isWhite (c : Char) : Bool :=
  (9 ≤ c.toNat && c.toNat ≤ 13) || c.toNat == 0x20 || wideBlanks.contains c.toNat

/-- A blank: white space, or one of the four information separators. -/
def isBlank (c : Char) : Bool := isWhite c || (0x1c ≤ c.toNat && c.toNat ≤ 0x1f)

/-- The text without the blanks it starts with. -/
def trimStart (s : List Char) : List Char := s.dropWhile isBlank

/-- The text without the blanks it ends with. -/
def trimEnd : List Char → List Char
  | [] => []
  | c :: s =>
    match trimEnd s with
    | [] => if isBlank c then [] else [c]
    | t => c :: t

/-- The text without the blanks at either end. -/
def trim (s : List Char) : List Char := trimEnd (trimStart s)

/-- A text of blanks only; the empty text is one. -/
def allBlank (s : List Char) : Bool := s.all isBlank

/-- The rest of the text after at least one blank, and after all that follow it. -/
def blanks? : List Char → Option (List Char)
  | [] => none
  | c :: s => if isBlank c then some (trimStart s) else none

end Mender.Text
