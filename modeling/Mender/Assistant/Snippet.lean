import Mender.Text.Lines

/-!
# Snippets

The lines of a file around a place, numbered, with the line of the place marked. A
number outside the file shows the nearest lines and marks none.
-/

namespace Mender.Assistant

open Text

/-- A number behind the blanks that make it four characters wide. -/
def lineNumber (n : Nat) : List Char :=
  let ds := (toString n).toList
  List.replicate (4 - ds.length) ' ' ++ ds

/-- A line with its number, marked if it is the one asked for. -/
def numbered (line : Int) (n : Nat) (text : List Char) : List Char :=
  (if (n : Int) = line then ">>> ".toList else "    ".toList)
    ++ lineNumber n ++ " | ".toList ++ text

/-- The index of the line nearest to a line number among `count` lines. -/
def nearest (line : Int) (count : Nat) : Int := max 0 (min (line - 1) (count - 1))

/-- The rows with the indices from `start` up to `stop`, numbered from 1. -/
def excerpt (line : Int) (start stop : Int) (ls : List (List Char)) : List (List Char) :=
  let numberedLines := ls.mapIdx fun i l => numbered line (i + 1) l
  (numberedLines.take stop.toNat).drop start.toNat

/-- The lines around a line number, `context` lines on either side. -/
def snippet (content : List Char) (line context : Int) : List Char :=
  let ls := rows content
  let i := nearest line ls.length
  unlines (excerpt line (i - context) (i + context + 1) ls)

end Mender.Assistant
