import Mender.Text.Digit

/-!
# Log patterns

A pattern is a text with places for values (`Piece`, `Place`). A place starts with a
percent sign and ends with the mark of a conversion; between them may stand, in this
order, the name of the value in parentheses, flags, the least width, the precision behind
a point, and a letter for the size of the value, which means nothing. A width and a
precision may be left to a value by an asterisk. Two percent signs are one that is meant.

`pieces` takes any text apart. What is wrong with a place is kept in it
(`Place.mark`), as the values before it are looked at first.
-/

namespace Mender.Log

open Text

/-- A number that a place asks for. -/
inductive Amount
  | absent
  | given (n : Nat)
  /-- The next value is the number. -/
  | drawn
  deriving DecidableEq, Repr

/-- Which value a place takes. -/
inductive Key
  | next
  | named (name : List Char)
  /-- A name that is not closed. -/
  | unclosed
  deriving DecidableEq, Repr

/-- What is wrong with a place. -/
inductive PlaceFault
  | widthTooBig
  | precisionTooBig
  /-- The pattern ends before the mark. -/
  | unfinished
  deriving DecidableEq, Repr

/-- A place for a value. -/
structure Place where
  key : Key
  flags : List Char
  width : Amount
  precision : Amount
  /-- The mark of the conversion and its position. -/
  mark : Except PlaceFault (Char × Nat)

/-- A part of a pattern. -/
inductive Piece
  | char (c : Char)
  | place (p : Place)

/-- The name up to the parenthesis that closes it, behind `depth` others, and what follows
    it. -/
def untilClosed (depth : Nat) : List Char → Option (List Char × List Char)
  | [] => none
  | c :: s =>
    if c = ')' then
      match depth with
      | 0 => some ([], s)
      | depth + 1 => (untilClosed depth s).map fun (name, r) => (c :: name, r)
    else
      (untilClosed (if c = '(' then depth + 1 else depth) s).map fun (name, r) => (c :: name, r)

/-- The name at the head of a text, and what follows it. -/
def Key.read : List Char → Key × List Char
  | '(' :: s =>
    match untilClosed 0 s with
    | some (name, r) => (.named name, r)
    | none => (.unclosed, [])
  | s => (.next, s)

/-- A flag: aligned to the left, with a plus, with a blank, in full, filled with zeros. -/
def isFlag (c : Char) : Bool := c == '-' || c == '+' || c == ' ' || c == '#' || c == '0'

/-- The amount at the head of a text, and what follows it. A number above the limit is
    none. -/
def Amount.read (limit : Nat) : List Char → Option Amount × List Char
  | '*' :: s => (some .drawn, s)
  | s =>
    let ds := s.takeWhile Char.isDigit
    let r := s.dropWhile Char.isDigit
    if ds = [] then (some .absent, r)
    else if limit < natural ds then (none, r)
    else (some (.given (natural ds)), r)

/-- The greatest width. -/
def maxWidth : Nat := 0x7fffffffffffffff

/-- The greatest precision. -/
def maxPrecision : Nat := 0x7fffffff

/-- The precision at the head of a text, and what follows it. A point alone is one of
    zero. -/
def readPrecision : List Char → Option Amount × List Char
  | '.' :: s =>
    match Amount.read maxPrecision s with
    | (some .absent, r) => (some (.given 0), r)
    | p => p
  | s => (some .absent, s)

/-- What follows the letter for a size. -/
def dropSize : List Char → List Char
  | [] => []
  | c :: s => if c = 'h' ∨ c = 'l' ∨ c = 'L' then s else c :: s

/-- The mark at the head of a text, and what follows it. The pattern has `size`
    characters. -/
def readMark (size : Nat) : List Char → Except PlaceFault (Char × Nat) × List Char
  | [] => (.error .unfinished, [])
  | c :: s => (.ok (c, size - s.length - 1), s)

/-- The place whose percent sign stands before a text, and what follows it. -/
def Place.read (size : Nat) (s : List Char) : Place × List Char :=
  let (key, s) := Key.read s
  let flags := s.takeWhile isFlag
  match Amount.read maxWidth (s.dropWhile isFlag) with
  | (none, s) => (⟨key, flags, .absent, .absent, .error .widthTooBig⟩, s)
  | (some width, s) =>
    match readPrecision s with
    | (none, s) => (⟨key, flags, width, .absent, .error .precisionTooBig⟩, s)
    | (some precision, s) =>
      let (mark, s) := readMark size (dropSize s)
      (⟨key, flags, width, precision, mark⟩, s)

/-! ## Lengths -/

theorem length_le_of_untilClosed {depth : Nat} {s name r : List Char}
    (h : untilClosed depth s = some (name, r)) : r.length ≤ s.length := by
  induction s generalizing depth name r with
  | nil => simp [untilClosed] at h
  | cons c s ih =>
    unfold untilClosed at h
    split at h
    · split at h
      · simp only [Option.some.injEq, Prod.mk.injEq] at h
        simp [← h.2]
      · simp only [Option.map_eq_some_iff] at h
        obtain ⟨⟨n, r'⟩, hs, heq⟩ := h
        simp only [Prod.mk.injEq] at heq
        have := ih hs
        simp only [List.length_cons, ← heq.2]
        omega
    · simp only [Option.map_eq_some_iff] at h
      obtain ⟨⟨n, r'⟩, hs, heq⟩ := h
      simp only [Prod.mk.injEq] at heq
      have := ih hs
      simp only [List.length_cons, ← heq.2]
      omega

theorem Key.length_read_le (s : List Char) : (Key.read s).2.length ≤ s.length := by
  unfold Key.read
  split
  · split
    · rename_i h
      have := length_le_of_untilClosed h
      simp only [List.length_cons]
      omega
    · simp
  · simp

theorem Amount.length_read_le (limit : Nat) (s : List Char) :
    (Amount.read limit s).2.length ≤ s.length := by
  unfold Amount.read
  split
  · simp
  · have := (List.dropWhile_sublist (l := s) Char.isDigit).length_le
    dsimp only
    split
    · exact this
    · split <;> exact this

theorem length_readPrecision_le (s : List Char) : (readPrecision s).2.length ≤ s.length := by
  unfold readPrecision
  split
  · rename_i s
    have h := Amount.length_read_le maxPrecision s
    split
    · rename_i r hr
      rw [hr] at h
      simp only [List.length_cons] at h ⊢
      omega
    · simp only [List.length_cons]
      omega
  · simp

theorem length_dropSize_le (s : List Char) : (dropSize s).length ≤ s.length := by
  unfold dropSize
  split
  · simp
  · split <;> simp

theorem length_readMark_le (size : Nat) (s : List Char) :
    (readMark size s).2.length ≤ s.length := by
  unfold readMark
  split <;> simp

/-- A place takes nothing from the pattern that does not stand in it. -/
theorem Place.length_read_le (size : Nat) (s : List Char) :
    (Place.read size s).2.length ≤ s.length := by
  have h₁ := Key.length_read_le s
  have h₂ := (List.dropWhile_sublist (l := (Key.read s).2) isFlag).length_le
  have h₃ := Amount.length_read_le maxWidth ((Key.read s).2.dropWhile isFlag)
  unfold Place.read
  dsimp only
  split
  · rename_i r hr
    rw [hr] at h₃
    dsimp only at h₃ ⊢
    omega
  · rename_i w r hr
    rw [hr] at h₃
    have h₄ := length_readPrecision_le r
    dsimp only at h₃
    split
    · rename_i r' hr'
      rw [hr'] at h₄
      dsimp only at h₄ ⊢
      omega
    · rename_i p r' hr'
      rw [hr'] at h₄
      have h₅ := length_dropSize_le r'
      have h₆ := length_readMark_le size (dropSize r')
      dsimp only at h₄ ⊢
      omega

/-! ## Pieces -/

/-- The parts of what is left of a pattern of `size` characters. -/
def piecesFrom (size : Nat) : List Char → List Piece
  | [] => []
  | '%' :: '%' :: s => .char '%' :: piecesFrom size s
  | '%' :: s =>
    have := Place.length_read_le size s
    .place (Place.read size s).1 :: piecesFrom size (Place.read size s).2
  | c :: s => .char c :: piecesFrom size s
termination_by s => s.length

/-- The parts of a pattern. -/
def pieces (pattern : List Char) : List Piece := piecesFrom pattern.length pattern

end Mender.Log
