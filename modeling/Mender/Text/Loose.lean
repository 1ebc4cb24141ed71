import Mender.Text.Blank
import Mender.Text.EncodeError
import Mender.Text.Utf8

/-!
# Loose texts

A text from outside may hold surrogates that stand alone, one half of a pair each, for
which there is no character. A loose text (`Loose`) is either a text or holds such
surrogates; it is read and compared like any other, but it has no bytes
(`Loose.encode`).
-/

namespace Mender.Text

/-- A code point: a character, or a surrogate that stands alone. -/
inductive Point
  | char (c : Char)
  | lone (n : Nat)
  deriving DecidableEq, Repr

instance : Coe Char Point := ⟨.char⟩

namespace Point

/-- The code point of a number. -/
def ofNat (n : Nat) : Point := if h : n.isValidChar then .char (Char.ofNatAux n h) else .lone n

/-- The number of a code point. -/
def toNat : Point → Nat
  | char c => c.toNat
  | lone n => n

/-- The character, if it is one. -/
def char? : Point → Option Char
  | char c => some c
  | lone _ => none

/-- A surrogate that stands alone. -/
def isLone : Point → Bool
  | char _ => false
  | lone _ => true

/-- A character with a property. -/
def holds (p : Char → Bool) : Point → Bool
  | char c => p c
  | lone _ => false

end Point

/-- A text, in which surrogates may stand alone. -/
inductive Loose
  | whole (s : String)
  /-- Code points among which there is a surrogate. -/
  | torn (points : List Point)
  deriving DecidableEq, Repr

instance : Coe String Loose := ⟨.whole⟩

instance : Inhabited Loose := ⟨.whole ""⟩

namespace Loose

/-- The text of code points. -/
def ofPoints (ps : List Point) : Loose :=
  match ps.mapM Point.char? with
  | some cs => whole (String.ofList cs)
  | none => torn ps

/-- The code points of a text. -/
def points : Loose → List Point
  | whole s => s.toList.map .char
  | torn ps => ps

/-- The text, if no surrogate stands alone in it. -/
def whole? : Loose → Option String
  | whole s => some s
  | torn _ => none

/-- There is nothing in it. -/
def isEmpty : Loose → Bool
  | whole s => s.isEmpty
  | torn ps => ps.isEmpty

/-- A text of blanks only; a surrogate is no blank. -/
def isBlank (s : Loose) : Bool := s.points.all (Point.holds Text.isBlank)

/-- A text that is not blank is not empty. -/
theorem isEmpty_of_not_blank {s : Loose} (h : s.isBlank = false) : s.isEmpty = false := by
  cases s with
  | whole s =>
    rw [isEmpty, Bool.eq_false_iff]
    intro hempty
    simp [isBlank, points, String.isEmpty_iff.1 hempty] at h
  | torn ps =>
    cases ps with
    | nil => simp [isBlank, points] at h
    | cons => rfl

/-- A text in quotes, a surrogate as an escape. -/
def quoted : Loose → List Char
  | whole s => Text.quoted s.toList
  | torn ps =>
    let q := quoteOf (ps.filterMap Point.char?)
    q :: ps.flatMap (fun
      | .char c => quotedChar q c
      | .lone n => escaped n) ++ [q]

/-- The characters of a text, U+FFFD for every surrogate. -/
def patched : Loose → List Char
  | whole s => s.toList
  | torn ps => ps.map fun p => p.char?.getD '\uFFFD'

/-- The bytes of a text, or the first run of surrogates in it. -/
def encode (s : Loose) : Except EncodeError Bytes :=
  match s with
  | whole s => .ok (Utf8.encode s.toList)
  | torn ps =>
    match ps.findIdx? Point.isLone with
    | none => .ok (Utf8.encode (ps.filterMap Point.char?))
    | some i =>
      .error ⟨"utf-8", i, ((ps.drop i).takeWhile Point.isLone).map Point.toNat,
        "surrogates not allowed"⟩

end Loose

end Mender.Text
