import Mender.Json.Basic
import Mender.Text.Digit

/-!
# Reading JSON

`Json.read` reads a text as one JSON value with blanks around it, or says what was
expected and where (`ReadError`). Beyond the standard the words `NaN`, `Infinity`
and `-Infinity` are numbers. Positions count code points from the start of the text.

Lists and objects may hold each other to a given depth (`Cursor.room`); a text that goes
deeper is not read, whatever follows.
-/

namespace Mender.Json

open Text (Loose Point)

/-- What a text lacks to be JSON. -/
inductive Expected
  | value
  | name
  | colon
  | comma
  /-- The text goes on behind its value. -/
  | nothing
  /-- A string ends; the position is that of its start. -/
  | quote
  | printable
  | escape
  | hexEscape
  deriving DecidableEq, Repr

/-- The text of an expectation. -/
def Expected.message : Expected → String
  | .value => "Expecting value"
  | .name => "Expecting property name enclosed in double quotes"
  | .colon => "Expecting ':' delimiter"
  | .comma => "Expecting ',' delimiter"
  | .nothing => "Extra data"
  | .quote => "Unterminated string starting at"
  | .printable => "Invalid control character at"
  | .escape => "Invalid \\escape"
  | .hexEscape => "Invalid \\uXXXX escape"

/-- Why a text is not read. -/
inductive ReadError
  /-- It is no JSON. -/
  | malformed (what : Expected) (position : Nat)
  /-- It holds a whole number with too many digits. -/
  | numberTooLong (digits : Nat)
  /-- A list or an object stands too deep inside others. -/
  | tooDeep (isObject : Bool)
  deriving DecidableEq, Repr

/-- The line and the column of a position, both from 1. -/
def lineAndColumn (s : List Point) (position : Nat) : Nat × Nat :=
  let before := s.take position
  (before.count (.char '\n') + 1, (before.reverse.takeWhile (· ≠ .char '\n')).length + 1)

/-- The text of an error in reading `s`. -/
def ReadError.message (s : List Point) : ReadError → String
  | .malformed what position =>
    let (line, column) := lineAndColumn s position
    what.message ++ ": line " ++ toString line ++ " column " ++ toString column
      ++ " (char " ++ toString position ++ ")"
  | .numberTooLong digits => Text.tooManyDigits digits
  | .tooDeep isObject =>
    "maximum recursion depth exceeded while decoding a JSON "
      ++ (if isObject then "object" else "array") ++ " from a unicode string"

/-- What is left of a text, the position of its first code point, and the number of lists
    and objects that may be begun inside each other there. -/
structure Cursor where
  rest : List Point
  position : Nat
  room : Nat
  deriving Repr

/-- The cursor `n` code points further on. -/
def Cursor.skip (c : Cursor) (n : Nat) : Cursor :=
  { c with rest := c.rest.drop n, position := c.position + n }

/-- The cursor with another room. -/
def Cursor.withRoom (room : Nat) (c : Cursor) : Cursor := { c with room }

/-- A blank between the parts of a JSON text. -/
def isJsonBlank (c : Char) : Bool := c == ' ' || c == '\t' || c == '\n' || c == '\r'

/-- The cursor behind the blanks it stands at. -/
def Cursor.skipBlanks (c : Cursor) : Cursor :=
  c.skip (c.rest.takeWhile (Point.holds isJsonBlank)).length

/-- What is left to read, or an error. -/
abbrev Reading (α : Type) := Except ReadError (α × Cursor)

/-- The reading with `f` applied to what was read. -/
def Reading.map {α β : Type} (f : α → β) : Reading α → Reading β
  | .error e => .error e
  | .ok (a, c) => .ok (f a, c)

/-- The error that `what` is expected at a position. -/
def expected {α : Type} (what : Expected) (position : Nat) : Except ReadError α :=
  .error (.malformed what position)

/-! ## Strings -/

/-- The value of a hexadecimal digit. -/
def hexValue? (c : Char) : Option Nat :=
  if '0' ≤ c ∧ c ≤ '9' then some (c.toNat - 48)
  else if 'a' ≤ c ∧ c ≤ 'f' then some (c.toNat - 87)
  else if 'A' ≤ c ∧ c ≤ 'F' then some (c.toNat - 55)
  else none

/-- The number that the first four characters write in hexadecimal; a fifth code
    point must follow. -/
def hexUnit? : List Point → Option Nat
  | .char a :: .char b :: .char c :: .char d :: _ :: _ => do
    return (((← hexValue? a) * 16 + (← hexValue? b)) * 16 + (← hexValue? c)) * 16 + (← hexValue? d)
  | _ => none

/-- The character of an escape with one letter. -/
def simpleEscape? (c : Char) : Option Char :=
  if c = '"' ∨ c = '\\' ∨ c = '/' then some c
  else if c = 'b' then some '\x08'
  else if c = 'f' then some '\x0c'
  else if c = 'n' then some '\n'
  else if c = 'r' then some '\r'
  else if c = 't' then some '\t'
  else none

/-- The code point of the escape whose backslash stands at `position`, before `s`, and
    the number of code points it takes behind the backslash. Two escapes that write a
    pair of surrogates are one character. -/
def escape (start position : Nat) (s : List Point) : Except ReadError (Point × Nat) :=
  match s with
  | [] => expected .quote start
  | .char 'u' :: s =>
    match hexUnit? s with
    | none => expected .hexEscape (position + 1)
    | some u =>
      match s.drop 4 with
      | .char '\\' :: .char 'u' :: s =>
        -- A second half is looked for only if more than its four digits follow.
        if 0xd800 ≤ u ∧ u < 0xdc00 ∧ 5 ≤ s.length then
          match hexUnit? s with
          | none => expected .hexEscape (position + 7)
          | some v =>
            if 0xdc00 ≤ v ∧ v < 0xe000 then
              .ok (.ofNat (0x10000 + (u - 0xd800) * 0x400 + (v - 0xdc00)), 11)
            else .ok (.ofNat u, 5)
        else .ok (.ofNat u, 5)
      | _ => .ok (.ofNat u, 5)
  | c :: _ =>
    match c.char?.bind simpleEscape? with
    | some d => .ok (.char d, 1)
    | none => expected .escape position

/-- The code points of the string that started at `start`, up to its closing quote, and
    what follows it. The first `skip` code points belong to an escape. -/
def chars (start room : Nat) :
    (skip position : Nat) → List Point → Except ReadError (List Point × Cursor)
  | _, _, [] => expected .quote start
  | skip + 1, position, _ :: s => chars start room skip (position + 1) s
  | 0, position, c :: s =>
    if c = .char '"' then .ok ([], ⟨s, position + 1, room⟩)
    else if c = .char '\\' then
      match escape start position s with
      | .error e => .error e
      | .ok (d, used) =>
        match chars start room used (position + 1) s with
        | .error e => .error e
        | .ok (ds, after) => .ok (d :: ds, after)
    else if c.holds (· < ' ') then expected .printable position
    else
      match chars start room 0 (position + 1) s with
      | .error e => .error e
      | .ok (ds, after) => .ok (c :: ds, after)

/-- The string that starts with the quote before the cursor. -/
def string (c : Cursor) : Reading Loose :=
  Reading.map Loose.ofPoints (chars (c.position - 1) c.room 0 c.position c.rest)

/-! ## Numbers -/

/-- The ASCII digits at the head of a text. -/
def leadingDigits : List Point → List Char
  | .char c :: s => if c.isDigit then c :: leadingDigits s else []
  | _ => []

/-- The fraction at the head of a text: its digits, and the length with the point.
    A point without a digit is none. -/
def fraction (s : List Point) : List Char × Nat :=
  match s with
  | .char '.' :: s => let ds := leadingDigits s; if ds = [] then ([], 0) else (ds, ds.length + 1)
  | _ => ([], 0)

/-- The exponent at the head of a text, and its length. A mark without a digit is
    none. -/
def exponent (s : List Point) : Int × Nat :=
  match s with
  | .char c :: s =>
    if c = 'e' ∨ c = 'E' then
      let (negative, signed) : Bool × Nat :=
        match s with
        | .char '-' :: _ => (true, 1)
        | .char '+' :: _ => (false, 1)
        | _ => (false, 0)
      let ds := leadingDigits (s.drop signed)
      if ds = [] then (0, 0)
      else (if negative then -(Text.natural ds : Int) else Text.natural ds, signed + ds.length + 1)
    else (0, 0)
  | _ => (0, 0)

/-- The number at the head of a text without its sign. -/
def magnitude (negative : Bool) (c : Cursor) : Reading Json :=
  let whole := if c.rest.head? = some (.char '0') then ['0'] else leadingDigits c.rest
  let c := c.skip whole.length
  let (part, partSize) := fraction c.rest
  let c := c.skip partSize
  let (e, eSize) := exponent c.rest
  let c := c.skip eSize
  if partSize = 0 ∧ eSize = 0 then
    if Text.maxDigits < whole.length then .error (.numberTooLong whole.length)
    else
      let n : Int := Text.natural whole
      .ok (.int (if negative then -n else n), c)
  else
    .ok (.real (.ofDecimal negative (Text.natural (whole ++ part)) (e - part.length)), c)

/-- The number at the cursor; without one, a value is expected there. -/
def number (c : Cursor) : Reading Json :=
  let negative := c.rest.head? = some (.char '-')
  let body := if negative then c.skip 1 else c
  if body.rest.head?.any (Point.holds Char.isDigit) then magnitude negative body
  else expected .value c.position

/-! ## Values -/

/-- The cursor behind the word `w`, if it stands at the cursor. -/
def Cursor.word? (w : String) (c : Cursor) : Option Cursor :=
  if (w.toList.map Point.char).isPrefixOf c.rest then some (c.skip w.length) else none

/-- The words that are values. -/
def words : List (String × Json) :=
  [("null", .null), ("true", .bool true), ("false", .bool false), ("NaN", .real (.nan false)),
   ("Infinity", .real (.infinity false)), ("-Infinity", .real (.infinity true))]

/-- The word or the number at the cursor. -/
def scalar (c : Cursor) : Reading Json :=
  match words.findSome? fun (w, v) => (c.word? w).map (v, ·) with
  | some r => .ok r
  | none => number c

mutual

/-- The value at the cursor. The fuel bounds the values and the lists begun. -/
def value : (fuel : Nat) → Cursor → Reading Json
  | 0, c => expected .value c.position
  | fuel + 1, c =>
    match c.rest with
    | .char '"' :: _ => (string (c.skip 1)).map .str
    | .char '[' :: _ =>
      match c.room with
      | 0 => .error (.tooDeep false)
      | room + 1 =>
        let inner := ((c.skip 1).withRoom room).skipBlanks
        if inner.rest.head? = some (.char ']') then .ok (.arr [], (inner.skip 1).withRoom c.room)
        else
          match items fuel inner with
          | .error e => .error e
          | .ok (vs, after) => .ok (.arr vs, after.withRoom c.room)
    | .char '{' :: _ =>
      match c.room with
      | 0 => .error (.tooDeep true)
      | room + 1 =>
        let inner := ((c.skip 1).withRoom room).skipBlanks
        if inner.rest.head? = some (.char '}') then .ok (.obj [], (inner.skip 1).withRoom c.room)
        else
          match members fuel [] inner with
          | .error e => .error e
          | .ok (ms, after) => .ok (.obj ms, after.withRoom c.room)
    | _ => scalar c

/-- The items from the cursor to the closing bracket, at least one. -/
def items : (fuel : Nat) → Cursor → Reading (List Json)
  | 0, c => expected .value c.position
  | fuel + 1, c =>
    match value fuel c with
    | .error e => .error e
    | .ok (v, c) =>
      let c := c.skipBlanks
      match c.rest with
      | .char ']' :: _ => .ok ([v], c.skip 1)
      | .char ',' :: _ => (items fuel (c.skip 1).skipBlanks).map (v :: ·)
      | _ => expected .comma c.position

/-- The members from the cursor to the closing brace, at least one, put behind
    those already read. -/
def members : (fuel : Nat) → List (Loose × Json) → Cursor → Reading (List (Loose × Json))
  | 0, _, c => expected .value c.position
  | fuel + 1, seen, c =>
    match c.rest with
    | .char '"' :: _ =>
      match string (c.skip 1) with
      | .error e => .error e
      | .ok (name, c) =>
        let c := c.skipBlanks
        match c.rest with
        | .char ':' :: _ =>
          match value fuel (c.skip 1).skipBlanks with
          | .error e => .error e
          | .ok (v, c) =>
            let c := c.skipBlanks
            let seen := put name v seen
            match c.rest with
            | .char '}' :: _ => .ok (seen, c.skip 1)
            | .char ',' :: _ => members fuel seen (c.skip 1).skipBlanks
            | _ => expected .comma c.position
        | _ => expected .colon c.position
    | _ => expected .name c.position

end

/-- The value that a text writes, in which lists and objects go at most `depth` deep. Every
    value takes at least one code point, and begins at most one list, so the fuel does not
    run out. -/
def read (depth : Nat) (s : List Point) : Except ReadError Json :=
  match value (2 * s.length + 2) (Cursor.mk s 0 depth).skipBlanks with
  | .error e => .error e
  | .ok (v, c) =>
    let c := c.skipBlanks
    if c.rest = [] then .ok v else expected .nothing c.position

end Mender.Json
