/-!
# Scanning

Small scanners over a text, each a function to the rest of the text: a fixed
word (`word?`), the first place where a scanner succeeds (`findMap?`), whether
a text occurs in another (`occurs`), the text with every match of a scanner
replaced (`substitute`), and the pieces of a text between the occurrences of
another (`pieces`).
-/

namespace Mender.Text

/-- The rest of the text after the word `w`. -/
def word? : (w s : List Char) → Option (List Char)
  | [], s => some s
  | _ :: _, [] => none
  | a :: w, b :: s => if a = b then word? w s else none

/-- The text starts with the word `w`. -/
def startsWith (w s : List Char) : Bool := (word? w s).isSome

/-- What `p` yields at the first place of the text where it succeeds, the end
    included. -/
def findMap? {α : Type} (p : List Char → Option α) : List Char → Option α
  | [] => p []
  | c :: s =>
    match p (c :: s) with
    | some a => some a
    | none => findMap? p s

/-- The word `w` occurs in the text. -/
def occurs (w s : List Char) : Bool := (findMap? (word? w) s).isSome

/-- The text with every match of `p` replaced, found from left to right without
    overlap. A match is the number of characters it takes behind the first, and what
    stands in its place. The first `skip` characters belong to a match. -/
def substitute (p : List Char → Option (Nat × List Char)) : (skip : Nat) → List Char → List Char
  | _, [] => []
  | skip + 1, _ :: s => substitute p skip s
  | 0, c :: s =>
    match p (c :: s) with
    | some (n, t) => t ++ substitute p n s
    | none => c :: substitute p 0 s

/-- The pieces of the text between the occurrences of the word `sep`, found from
    left to right without overlap. -/
def pieces (sep : List Char) (s : List Char) : List (List Char) := go 0 [] s
where
  /-- The pieces of `s`, of which the first `skip` characters belong to a
      separator, behind the beginning of a piece, kept backwards. -/
  go : (skip : Nat) → (piece s : List Char) → List (List Char)
    | _, piece, [] => [piece.reverse]
    | skip + 1, piece, _ :: s => go skip piece s
    | 0, piece, c :: s =>
      if startsWith sep (c :: s) then piece.reverse :: go (sep.length - 1) [] s
      else go 0 (c :: piece) s

end Mender.Text
