import Mender.Text.Digit
import Mender.Text.Lines

/-!
# Numbers of hosts

A host may be given by a number instead of a name: four numbers with dots between them
(`isQuad`), or, in square brackets, up to eight groups of hexadecimal digits with colons
between them (`isGroups`). A run of groups that are zero may be left out once, and the last
two groups may be written as four numbers. A zone may follow behind a percent sign.
-/

namespace Mender.Host

open Text

/-- A number of a quad, from 0 to 255 and without leading zeros. -/
def isOctet (s : List Char) : Bool :=
  s != [] && s.all Char.isDigit && s.length ≤ 3 && natural s ≤ 255
    && (s.length == 1 || s.head? != some '0')

/-- Four numbers with dots between them. -/
def isQuad (s : List Char) : Bool :=
  let parts := fields '.' s
  parts.length == 4 && parts.all isOctet

/-- The runs of digits in a text, one before and one behind every other character. -/
def digitRuns : List Char → List Nat
  | [] => [0]
  | c :: s =>
    if c.isDigit then
      match digitRuns s with
      | [] => [1]
      | n :: ns => (n + 1) :: ns
    else 0 :: digitRuns s

/-- A text that looks like a quad: four runs of digits with any one character between two
    of them, which may be a digit as well. -/
def looksLikeQuad (s : List Char) : Bool :=
  let runs := digitRuns s
  -- A run of `n` digits can be taken for `(n - 1) / 2` more separators.
  runs.all (0 < ·) && runs.length ≤ 4 && 4 ≤ runs.foldl (fun k n => k + (n - 1) / 2) runs.length

/-- A hexadecimal digit. -/
def isHex (c : Char) : Bool :=
  c.isDigit || ('a' ≤ c && c ≤ 'f') || ('A' ≤ c && c ≤ 'F')

/-- A group of one to four hexadecimal digits. -/
def isGroup (s : List Char) : Bool := s != [] && s.length ≤ 4 && s.all isHex

/-- The parts of a number, with a quad at the end taken as two groups. -/
def groups? (s : List Char) : Option (List (List Char)) :=
  let parts := fields ':' s
  let last := parts.getLast?.getD []
  if parts.length < 3 then none
  else if last.contains '.' then
    if isQuad last then some (parts.dropLast ++ [['0'], ['0']]) else none
  else some parts

/-- The parts without an empty one at their end, which only a gap may leave. -/
def withoutOuter : List (List Char) → Option (List (List Char))
  | [[]] => some []
  | parts => if parts.head? = some [] then none else some parts

/-- Eight groups, or fewer on either side of one gap. -/
def areGroups (parts : List (List Char)) : Bool :=
  let inner := (parts.drop 1).dropLast
  match inner.findIdx? (· == []) with
  | none => parts.length == 8 && parts.all isGroup
  | some i =>
    -- The gap is an empty part; beside it an empty part may stand at either end.
    let high := parts.take (i + 1)
    let low := (parts.drop (i + 2)).reverse
    parts.length ≤ 9 && inner.count [] == 1
      && (match withoutOuter high, withoutOuter low with
        | some high, some low => high.length + low.length < 8 && (high ++ low).all isGroup
        | _, _ => false)

/-- A zone behind the groups, if it is there, is not empty and has no percent sign. -/
def isZone : List Char → Bool
  | [] => true
  | _ :: zone => zone != [] && !zone.contains '%'

/-- A number in groups. -/
def isGroups (s : List Char) : Bool :=
  !s.contains '/' && isZone (s.dropWhile (· ≠ '%'))
    && (groups? (s.takeWhile (· ≠ '%'))).any areGroups

end Mender.Host
