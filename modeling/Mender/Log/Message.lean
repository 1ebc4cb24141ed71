import Mender.Log.Conversion
import Mender.Log.Pattern

/-!
# Log messages

A message is a pattern with values in its places (`fill`). The values are a row, taken one
after another, or the members of an object, taken by name (`Supply`). Every value of a row
must have a place and every place a value.
-/

namespace Mender.Log

open Text (Loose)

/-- The values for the places of a pattern. -/
inductive Supply
  /-- The values that are left of a row. -/
  | row (values : List Json)
  /-- Values with names; `pending` is the one that a place is to take. At first it is
      the object itself. -/
  | members (ms : List (Loose × Json)) (pending : Option Json)

namespace Supply

/-- The supply of values: a single object with members is one by name. -/
def ofValues : List Json → Supply
  | [.obj (m :: ms)] => members (m :: ms) (some (.obj (m :: ms)))
  | vs => row vs

/-- The next value, and the supply without it. -/
def take : Supply → Except FillError (Json × Supply)
  | row (v :: vs) => .ok (v, row vs)
  | row [] => .error .tooFewValues
  | members ms (some v) => .ok (v, members ms none)
  | members _ none => .error .tooFewValues

/-- The supply turned to the value that a place takes. -/
def turn (s : Supply) : Key → Except FillError Supply
  | .next => .ok s
  | .named name =>
    match s with
    | row _ => .error .unnamedValues
    | members ms _ =>
      match Json.get? ms (String.ofList name) with
      | some v => .ok (members ms (some v))
      | none => .error (.noSuchName (String.ofList name))
  | .unclosed =>
    match s with
    | row _ => .error .unnamedValues
    | members _ _ => .error .unclosedName

/-- The whole number that an amount is, if there is one. -/
def amount (s : Supply) : Amount → Except FillError (Option Int × Supply)
  | .absent => .ok (none, s)
  | .given n => .ok (some n, s)
  | .drawn => do
    let (v, s) ← s.take
    match v with
    | .int n => return (some n, s)
    | .bool b => return (some (if b then 1 else 0), s)
    | _ => throw .amountNotWhole

/-- No value of a row is left. -/
def isSpent : Supply → Bool
  | row vs => vs.isEmpty
  | members _ _ => true

end Supply

/-- A number of less than `bits` bits and a sign. -/
def isWord (bits : Nat) (n : Int) : Bool :=
  -(Nat.pow 2 bits : Int) ≤ n && n < (Nat.pow 2 bits : Int)

/-- The error for a fault of a place. -/
def PlaceFault.error : PlaceFault → FillError
  | widthTooBig => .widthTooBig
  | precisionTooBig => .precisionTooBig
  | unfinished => .unfinished

/-- The width of a place, and whether it is negative, which aligns to the left. -/
def checkedWidth (n : Int) : Except FillError (Nat × Bool) :=
  if !isWord 63 n then .error .widthBeyondWord
  -- The least word has no counterpart and stands for no width.
  else if n = -0x8000000000000000 then .ok (0, true)
  else .ok (n.natAbs, n < 0)

/-- The precision of a place; a negative one is zero. -/
def checkedPrecision (n : Int) : Except FillError Nat :=
  if isWord 31 n then .ok n.toNat else .error .precisionBeyondWord

/-- The value in a place, and the values after it. -/
def Place.fill (p : Place) (s : Supply) : Except FillError (List Char × Supply) := do
  let s ← s.turn p.key
  let (width, s) ← s.amount p.width
  let (width, isNegative) ← checkedWidth (width.getD 0)
  let (precision, s) ← s.amount p.precision
  let precision ← precision.mapM checkedPrecision
  match p.mark with
  | .error fault => throw fault.error
  | .ok (mark, position) =>
    let (v, s) ← s.take
    let has (flag : Char) : Bool := p.flags.contains flag
    let layout : Layout :=
      ⟨has '-' || isNegative, has '0', has '+', has ' ', has '#', width, precision⟩
    return (← convert mark position layout v, s)

/-- Pieces with values in their places. -/
def fillPieces : Supply → List Piece → Except FillError (List Char)
  | s, [] => if s.isSpent then .ok [] else .error .tooManyValues
  | s, .char c :: ps => (c :: ·) <$> fillPieces s ps
  | s, .place p :: ps => do
    let (t, s) ← p.fill s
    (t ++ ·) <$> fillPieces s ps

/-- The pattern with the values in their places; without values it is a text. -/
def fill (pattern : List Char) (vs : List Json) : Except FillError (List Char) :=
  if vs.isEmpty then .ok pattern else fillPieces (.ofValues vs) (pieces pattern)

end Mender.Log
