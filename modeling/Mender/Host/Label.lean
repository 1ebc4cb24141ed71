import Mender.Host.Bootstring
import Mender.Host.Context
import Mender.Host.Direction
import Mender.Host.NormalForm
import Mender.Host.Permitted

/-!
# Labels of host names

A label is what stands between two dots of a host name. One that keeps the rules for labels
(`isLabel`) can be written with plain characters (`Label.plain?`); one that is written so
already must keep the rules as well, its wide characters taken into account.
-/

namespace Mender.Host

/-- Every character of the rest of a label may stand where it stands; `before` is what
    stands before it, in reverse. -/
def areInPlace (before : List Char) : List Char → Bool
  | [] => true
  | c :: s => (isPermitted c || isInPlace before c s) && areInPlace (c :: before) s

/-- The hyphens of a label stand where they may: neither first nor last, nor third and
    fourth together. -/
def hasProperHyphens (s : List Char) : Bool :=
  s.head? != some '-' && s.getLast? != some '-' && (s.drop 2).take 2 != ['-', '-']

/-- The greatest number of characters in a host name. -/
def maxLength : Nat := 254

/-- A text keeps the rules for labels. -/
def isLabel (s : List Char) : Bool :=
  s != [] && s.length ≤ maxLength && hasProperHyphens s && !s.head?.any isMark
    && areInPlace [] s && normalForm s == s && isDirected s

namespace Label

/-- What a label with wide characters starts with when it is written with plain ones. -/
def mark : List Char := "xn--".toList

/-- The greatest number of plain characters in a label. -/
def maxPlainLength : Nat := 63

/-- A label of plain characters keeps the rules. -/
def isPlainLabel (s : List Char) : Bool :=
  if mark.isPrefixOf s then
    let digits := s.drop mark.length
    digits != [] && digits.getLast? != some '-' && (Bootstring.decode? digits).any isLabel
  else isLabel s

/-- A label in plain characters. -/
def plain? (s : List Char) : Option (List Char) :=
  let (isProper, plain) :=
    if s.all Bootstring.isPlain then (isPlainLabel s, s)
    else (isLabel s, mark ++ Bootstring.encode s)
  if isProper && plain.length ≤ maxPlainLength then some plain else none

end Label

/-! ## Host names -/

/-- A dot, of which there are several. -/
def isDot (c : Char) : Bool := c == '.' || c == '\u3002' || c == '\uff0e' || c == '\uff61'

/-- The labels of a host name, an empty one behind a dot at its end. -/
def labels : List Char → List (List Char)
  | [] => [[]]
  | c :: s =>
    if isDot c then [] :: labels s
    else
      match labels s with
      | [] => [[c]]
      | l :: ls => (c :: l) :: ls

/-- Labels with a dot between two of them. -/
def dotted : List (List Char) → List Char
  | [] => []
  | [l] => l
  | l :: ls => l ++ '.' :: dotted ls

/-- A host name in lower case in plain characters. A dot at its end stays. -/
def plainName? (s : List Char) : Option (List Char) :=
  if maxLength < s.length then none
  else
    let ls := labels s
    let isClosed := ls.getLast? == some []
    let proper := if isClosed then ls.dropLast else ls
    match proper.mapM Label.plain? with
    | none | some [] => none
    | some ls =>
      let name := dotted (if isClosed then ls ++ [[]] else ls)
      if name.length ≤ (if isClosed then maxLength else maxLength - 1) then some name else none

end Mender.Host
