import Mender.Text.Quoted

/-!
# UTF-8

Texts as bytes. `encode` writes a text; `decode` reads one back or says where
and why the bytes are no UTF-8 (`DecodeError`), and `decodeLossy` puts U+FFFD
for every maximal run of bytes that begins a character and does not finish it.

One character is read by `next`: from the lead byte and the bytes behind it,
either the character and the number of bytes it takes behind the lead, or the
fault and the number of bytes it spoils.
-/

namespace Mender.Text

/-- The contents of a file, or the output of a process. -/
abbrev Bytes := List UInt8

namespace Utf8

/-- Why bytes are no UTF-8. -/
inductive Fault
  /-- No character starts with this byte. -/
  | start
  /-- The character that was begun cannot go on with the byte that follows. -/
  | continuation
  /-- The bytes end before the character that was begun. -/
  | ending
  deriving DecidableEq, Repr

/-- The text of a fault. -/
def Fault.message : Fault → String
  | .start => "invalid start byte"
  | .continuation => "invalid continuation byte"
  | .ending => "unexpected end of data"

/-- The first fault in a sequence of bytes. -/
structure DecodeError where
  /-- The position of the first spoilt byte. -/
  position : Nat
  /-- The spoilt bytes. -/
  spoilt : Bytes
  fault : Fault
  deriving DecidableEq, Repr

/-- The place of a fault as a message gives it: one byte is shown, several are
    counted. -/
def place (position : Nat) (spoilt : Bytes) : String :=
  match spoilt with
  | [b] => "byte 0x" ++ String.ofList (hex 2 b.toNat) ++ " in position " ++ toString position
  | _ => "bytes in position " ++ toString position ++ "-" ++ toString (position + spoilt.length - 1)

/-- The text of an error. -/
def DecodeError.message (e : DecodeError) : String :=
  "'utf-8' codec can't decode " ++ place e.position e.spoilt ++ ": " ++ e.fault.message

/-- What stands at the head of a sequence of bytes. -/
inductive Next
  /-- A character that takes `used` bytes behind its lead byte. -/
  | char (c : Char) (used : Nat)
  /-- A fault that spoils `size` bytes, the lead byte included. -/
  | fault (f : Fault) (size : Nat)

/-- A byte inside a character. -/
def isTail (b : UInt8) : Bool := 0x80 ≤ b && b ≤ 0xbf

/-- The six bits that a byte inside a character carries. -/
def tailBits (b : UInt8) : Nat := b.toNat % 64

/-- The bytes that may stand second, behind a lead byte of three or four: the
    shortest form of a character is the only one, and surrogates and code points
    past U+10FFFF have none. -/
def second (lead : UInt8) : UInt8 × UInt8 :=
  if lead = 0xe0 then (0xa0, 0xbf)
  else if lead = 0xed then (0x80, 0x9f)
  else if lead = 0xf0 then (0x90, 0xbf)
  else if lead = 0xf4 then (0x80, 0x8f)
  else (0x80, 0xbf)

/-- A byte that may stand second behind `lead`. -/
def isSecond (lead b : UInt8) : Bool := (second lead).1 ≤ b && b ≤ (second lead).2

/-- The character that starts with the byte `b`, before the bytes `s`. -/
def next (b : UInt8) (s : Bytes) : Next :=
  if b < 0x80 then .char (Char.ofNat b.toNat) 0
  else if b < 0xc2 then .fault .start 1
  else if b < 0xe0 then
    match s with
    | [] => .fault .ending 1
    | c :: _ =>
      if isTail c then .char (Char.ofNat ((b.toNat - 0xc0) * 64 + tailBits c)) 1
      else .fault .continuation 1
  else if b < 0xf0 then
    match s with
    | [] => .fault .ending 1
    | c :: s =>
      if !isSecond b c then .fault .continuation 1
      else
        match s with
        | [] => .fault .ending 2
        | d :: _ =>
          if isTail d then
            .char (Char.ofNat (((b.toNat - 0xe0) * 64 + tailBits c) * 64 + tailBits d)) 2
          else .fault .continuation 2
  else if b < 0xf5 then
    match s with
    | [] => .fault .ending 1
    | c :: s =>
      if !isSecond b c then .fault .continuation 1
      else
        match s with
        | [] => .fault .ending 2
        | d :: s =>
          if !isTail d then .fault .continuation 2
          else
            match s with
            | [] => .fault .ending 3
            | e :: _ =>
              if isTail e then
                .char (Char.ofNat ((((b.toNat - 0xf0) * 64 + tailBits c) * 64 + tailBits d) * 64
                  + tailBits e)) 3
              else .fault .continuation 3
  else .fault .start 1

/-- The text that the bytes write, the first of them at `position`. -/
def decodeFrom (position : Nat) : Bytes → Except DecodeError (List Char)
  | [] => .ok []
  | b :: s =>
    match next b s with
    | .char c used => (c :: ·) <$> decodeFrom (position + 1 + used) (s.drop used)
    | .fault f size => .error ⟨position, (b :: s).take size, f⟩
termination_by s => s.length
decreasing_by simp only [List.length_drop, List.length_cons]; omega

/-- The text that the bytes write. -/
def decode (s : Bytes) : Except DecodeError (List Char) := decodeFrom 0 s

/-- The text that the bytes write, with U+FFFD for every fault. -/
def decodeLossy : Bytes → List Char
  | [] => []
  | b :: s =>
    match next b s with
    | .char c used => c :: decodeLossy (s.drop used)
    | .fault _ size => '\uFFFD' :: decodeLossy (s.drop (size - 1))
termination_by s => s.length
decreasing_by all_goals simp only [List.length_drop, List.length_cons]; omega

/-- The bytes of a character. -/
def encodeChar (c : Char) : Bytes :=
  let n := c.toNat
  let tail (unit : Nat) : UInt8 := UInt8.ofNat (0x80 + n / unit % 64)
  if n < 0x80 then [UInt8.ofNat n]
  else if n < 0x800 then [UInt8.ofNat (0xc0 + n / 64), tail 1]
  else if n < 0x10000 then [UInt8.ofNat (0xe0 + n / 4096), tail 64, tail 1]
  else [UInt8.ofNat (0xf0 + n / 262144), tail 4096, tail 64, tail 1]

/-- The bytes of a text. -/
def encode (s : List Char) : Bytes := s.flatMap encodeChar

end Utf8

end Mender.Text
