import Mender.Text.Loose

/-!
# Encodings of a message body

A body is text in one of the Unicode encodings. A byte order mark names the
encoding; without one, the zero bytes among the first four do, since a body
starts with a character below U+0080 (`Encoding.detect`). A surrogate that stands alone
is admitted (`Point.lone`).
-/

namespace Mender.Text

/-- An encoding of a body, with the order of the bytes of a unit. -/
inductive Encoding
  /-- UTF-8, behind a byte order mark or not. -/
  | utf8 (marked : Bool)
  /-- UTF-16, behind a byte order mark or not. -/
  | utf16 (bigEndian marked : Bool)
  /-- UTF-32, behind a byte order mark or not. -/
  | utf32 (bigEndian marked : Bool)
  deriving DecidableEq, Repr

namespace Encoding

/-- The encoding of a body. -/
def detect : Bytes → Encoding
  | 0x00 :: 0x00 :: 0xfe :: 0xff :: _ => .utf32 true true
  | 0xff :: 0xfe :: 0x00 :: 0x00 :: _ => .utf32 false true
  | 0xfe :: 0xff :: _ => .utf16 true true
  | 0xff :: 0xfe :: _ => .utf16 false true
  | 0xef :: 0xbb :: 0xbf :: _ => .utf8 true
  | a :: b :: c :: d :: _ =>
    if a = 0 then (if b = 0 then .utf32 true false else .utf16 true false)
    else if b = 0 then (if c = 0 ∧ d = 0 then .utf32 false false else .utf16 false false)
    else .utf8 false
  | [a, b] =>
    if a = 0 then .utf16 true false
    else if b = 0 then .utf16 false false
    else .utf8 false
  | _ => .utf8 false

/-- The name of an encoding in a message. -/
def name : Encoding → String
  | .utf8 _ => "utf-8"
  | .utf16 true _ => "utf-16-be"
  | .utf16 false _ => "utf-16-le"
  | .utf32 true _ => "utf-32-be"
  | .utf32 false _ => "utf-32-le"

/-- The text of a fault at the bytes `spoilt`. -/
def faultMessage (e : Encoding) (position : Nat) (spoilt : Bytes) (why : String) : String :=
  "'" ++ e.name ++ "' codec can't decode " ++ Utf8.place position spoilt ++ ": " ++ why

/-- A surrogate written in the manner of a character of three bytes. -/
def surrogate? (b : UInt8) : Bytes → Option Point
  | c :: d :: _ =>
    if b == 0xed && Utf8.isTail c && Utf8.isTail d then
      some (.ofNat (0xd000 + Utf8.tailBits c * 64 + Utf8.tailBits d))
    else none
  | _ => none

/-- The text of bytes in UTF-8, surrogates admitted. -/
def decodeUtf8 (position : Nat) : Bytes → Except String (List Point)
  | [] => .ok []
  | b :: s =>
    match Utf8.next b s with
    | .char c used => (.char c :: ·) <$> decodeUtf8 (position + 1 + used) (s.drop used)
    | .fault f size =>
      match surrogate? b s with
      | some p => (p :: ·) <$> decodeUtf8 (position + 3) (s.drop 2)
      | none => .error (Utf8.DecodeError.message ⟨position, (b :: s).take size, f⟩)
termination_by s => s.length
decreasing_by all_goals simp only [List.length_drop, List.length_cons]; omega

/-- The number that two bytes write in the given order. -/
def unit (bigEndian : Bool) (a b : UInt8) : Nat :=
  if bigEndian then a.toNat * 256 + b.toNat else b.toNat * 256 + a.toNat

/-- The code units of bytes in UTF-16. -/
def units16 (bigEndian : Bool) (position : Nat) : Bytes → Except String (List Nat)
  | [] => .ok []
  | [a] => .error (faultMessage (.utf16 bigEndian false) position [a] "truncated data")
  | a :: b :: s => (unit bigEndian a b :: ·) <$> units16 bigEndian (position + 2) s

/-- The text of code units, a pair of surrogates being one character. -/
def pairUp : List Nat → List Point
  | [] => []
  | [u] => [.ofNat u]
  | u :: v :: s =>
    if 0xd800 ≤ u ∧ u < 0xdc00 ∧ 0xdc00 ≤ v ∧ v < 0xe000 then
      .ofNat (0x10000 + (u - 0xd800) * 0x400 + (v - 0xdc00)) :: pairUp s
    else .ofNat u :: pairUp (v :: s)
termination_by s => s.length

/-- The text of bytes in UTF-32. -/
def decodeUtf32 (bigEndian : Bool) (position : Nat) : Bytes → Except String (List Point)
  | [] => .ok []
  | a :: b :: c :: d :: s =>
    let n :=
      if bigEndian then unit true a b * 65536 + unit true c d
      else unit false c d * 65536 + unit false a b
    if 0x110000 ≤ n then
      .error (faultMessage (.utf32 bigEndian false) position [a, b, c, d]
        "code point not in range(0x110000)")
    else (.ofNat n :: ·) <$> decodeUtf32 bigEndian (position + 4) s
  | s => .error (faultMessage (.utf32 bigEndian false) position s "truncated data")

/-- The text of a body, its byte order mark left out. -/
def decodeBody (s : Bytes) : Except String (List Point) :=
  match detect s with
  | .utf8 true => decodeUtf8 0 (s.drop 3)
  | .utf8 false => decodeUtf8 0 s
  | .utf16 big true => pairUp <$> units16 big 2 (s.drop 2)
  | .utf16 big false => pairUp <$> units16 big 0 s
  | .utf32 big true => decodeUtf32 big 4 (s.drop 4)
  | .utf32 big false => decodeUtf32 big 0 s

end Encoding

end Mender.Text
