import Mender.Decimal.Lenient
import Mender.Json.Basic

/-!
# Taking records in from JSON

Records are read from JSON generously: a whole number may also be written as a
truth value, as a double without fraction or as a text, and a truth value as a
number or as a word. What cannot be read is reported with the path to it
(`Issue`), all issues of a record at once and in the order of its fields
(`Intake`).

* `record`, `field`, `fieldOr` and `listOf` build the reader of a record from
  those of its parts;
* `text`, `integer`, `truth` and `choice` read the parts;
* `optional` admits null as well, and `admitted` rules values out.
-/

namespace Mender.Json

open Text (Loose)

/-- A step from a value to one of its parts. -/
inductive Step
  | member (name : String)
  | item (index : Nat)
  deriving DecidableEq, Repr

/-- A step in JSON. -/
def Step.toJson : Step → Json
  | member name => .str name
  | item index => .int index

/-- What is wrong with a value. -/
inductive Flaw
  | missing
  | notText
  /-- A text in which a surrogate stands alone. -/
  | tornText
  | notInteger
  /-- A text that writes no whole number. -/
  | unreadableInteger
  | integerTooLong
  | fractional
  | notFinite
  | notTruth
  /-- A text or a number that is no truth value. -/
  | unreadableTruth
  /-- A text other than the ones admitted. -/
  | notAmong (choices : List String)
  | notList
  /-- No object, where a record of this name is expected. -/
  | notRecord (name : String)
  /-- No object, where the fields of a record are expected. -/
  | notFields
  /-- A value of the right kind that is ruled out. -/
  | refused (why : String)
  deriving DecidableEq, Repr

/-- The name of a flaw. -/
def Flaw.code : Flaw → String
  | .missing => "missing"
  | .notText => "string_type"
  | .tornText => "string_unicode"
  | .notInteger => "int_type"
  | .unreadableInteger => "int_parsing"
  | .integerTooLong => "int_parsing_size"
  | .fractional => "int_from_float"
  | .notFinite => "finite_number"
  | .notTruth => "bool_type"
  | .unreadableTruth => "bool_parsing"
  | .notAmong _ => "enum"
  | .notList => "list_type"
  | .notRecord _ => "model_type"
  | .notFields => "model_attributes_type"
  | .refused _ => "value_error"

/-- The text of a flaw. -/
def Flaw.message : Flaw → String
  | .missing => "Field required"
  | .notText => "Input should be a valid string"
  | .tornText =>
    "Input should be a valid string, unable to parse raw data as a unicode string"
  | .notInteger => "Input should be a valid integer"
  | .unreadableInteger =>
    "Input should be a valid integer, unable to parse string as an integer"
  | .integerTooLong =>
    "Unable to parse input string as an integer, exceeded maximum size"
  | .fractional => "Input should be a valid integer, got a number with a fractional part"
  | .notFinite => "Input should be a finite number"
  | .notTruth => "Input should be a valid boolean"
  | .unreadableTruth => "Input should be a valid boolean, unable to interpret input"
  | .notAmong choices =>
    "Input should be " ++ " or ".intercalate (choices.map fun c => "'" ++ c ++ "'")
  | .notList => "Input should be a valid list"
  | .notRecord name => "Input should be a valid dictionary or instance of " ++ name
  | .notFields => "Input should be a valid dictionary or object to extract fields from"
  | .refused why => "Value error, " ++ why

/-- A flaw, where it is, and the value that has it. -/
structure Issue where
  flaw : Flaw
  path : List Step
  input : Json
  deriving Repr

/-- A record taken in, or all the issues with it. -/
abbrev Intake (α : Type) := Except (List Issue) α

/-- A single flaw of a value. -/
def flawed {α : Type} (flaw : Flaw) (input : Json) : Intake α := .error [⟨flaw, [], input⟩]

namespace Intake

/-- A function taken in, applied to an argument taken in; the issues of both are
    kept. -/
def ap {α β : Type} : Intake (α → β) → Intake α → Intake β
  | .ok f, .ok a => .ok (f a)
  | .ok _, .error es => .error es
  | .error es, .ok _ => .error es
  | .error es, .error es' => .error (es ++ es')

/-- What is taken in from a part, the issues placed at that part. -/
def within {α : Type} (step : Step) : Intake α → Intake α
  | .ok a => .ok a
  | .error es => .error (es.map fun e => { e with path := step :: e.path })

end Intake

/-! ## Parts -/

/-- A text. -/
def text : Json → Intake String
  | .str (.whole s) => .ok s
  | .str (.torn ps) => flawed .tornText (.str (.torn ps))
  | v => flawed .notText v

/-- The whole number that a text writes. -/
def integerOfText (s : List Char) : Except Flaw Int :=
  match Numeral.lenient s with
  | .ok n => .ok n
  | .error .malformed => .error .unreadableInteger
  | .error (.tooLong _) => .error .integerTooLong

/-- A number of 64 bits, the sign included. -/
def isWord64 (n : Int) : Bool := -0x8000000000000000 ≤ n && n < 0x8000000000000000

/-- The whole number that a double is equal to. The least number of 64 bits is too
    long for a double, as it cannot be told from those that round to it. -/
def integerOfDouble (d : Double) : Except Flaw Int :=
  if !d.isFinite then .error .notFinite
  else
    match d.toInt? with
    | none => .error .fractional
    | some n =>
      if isWord64 n ∧ n ≠ -0x8000000000000000 then .ok n else .error .integerTooLong

/-- A whole number. -/
def integer : Json → Intake Int
  | .int n => .ok n
  | .bool b => .ok (if b then 1 else 0)
  | .real d =>
    match integerOfDouble d with
    | .ok n => .ok n
    | .error f => flawed f (.real d)
  | .str (.whole s) =>
    match integerOfText s.toList with
    | .ok n => .ok n
    | .error f => flawed f (.str s)
  | .str (.torn ps) => flawed .tornText (.str (.torn ps))
  | v => flawed .notInteger v

/-- The words for true. -/
def trueWords : List String := ["1", "t", "y", "true", "yes", "on"]

/-- The words for false. -/
def falseWords : List String := ["0", "f", "n", "false", "no", "off"]

/-- The truth value that a whole number writes. -/
def truthOfInteger (n : Int) : Except Flaw Bool :=
  if n = 0 then .ok false
  else if n = 1 then .ok true
  else if isWord64 n then .error .unreadableTruth
  else .error .notTruth

/-- The truth value that a double writes; one with a fraction is of the wrong kind. -/
def truthOfDouble (d : Double) : Except Flaw Bool :=
  match integerOfDouble d with
  | .ok n => truthOfInteger n
  | .error _ => .error .notTruth

/-- The truth value that a word writes. -/
def truthOfText (s : List Char) : Except Flaw Bool :=
  let word := String.ofList (s.map Char.toLower)
  if trueWords.contains word then .ok true
  else if falseWords.contains word then .ok false
  else .error .unreadableTruth

/-- A truth value. -/
def truth (v : Json) : Intake Bool :=
  let read : Except Flaw Bool :=
    match v with
    | .bool b => .ok b
    | .int n => truthOfInteger n
    | .real d => truthOfDouble d
    | .str (.whole s) => truthOfText s.toList
    | .str (.torn _) => .error .tornText
    | _ => .error .notTruth
  match read with
  | .ok b => .ok b
  | .error f => flawed f v

/-- One of the named values. -/
def choice {α : Type} (choices : List (String × α)) (v : Json) : Intake α :=
  let among : Flaw := .notAmong (choices.map (·.1))
  match v with
  | .str (.whole s) =>
    match choices.find? (·.1 == s) with
    | some (_, a) => .ok a
    | none => flawed among v
  | _ => flawed among v

/-- A value, or nothing for null. -/
def optional {α : Type} (read : Json → Intake α) : Json → Intake (Option α)
  | .null => .ok none
  | v => some <$> read v

/-- A value that is also admitted by a test; otherwise it is refused for the given
    reason. -/
def admitted {α : Type} (read : Json → Intake α) (test : α → Bool) (why : String) (v : Json) :
    Intake α :=
  match read v with
  | .error es => .error es
  | .ok a => if test a then .ok a else flawed (.refused why) v

/-- The items from `index` on. -/
def itemsFrom {α : Type} (read : Json → Intake α) (index : Nat) : List Json → Intake (List α)
  | [] => .ok []
  | v :: vs =>
    Intake.ap (List.cons <$> (read v).within (.item index)) (itemsFrom read (index + 1) vs)

/-- A list of values. -/
def listOf {α : Type} (read : Json → Intake α) : Json → Intake (List α)
  | .arr vs => itemsFrom read 0 vs
  | v => flawed .notList v

/-! ## Records -/

/-- The members of the object that a record of this name is read from. -/
def record {α : Type} (name : String) (read : List (Loose × Json) → Intake α) : Json → Intake α
  | .obj ms => read ms
  | v => flawed (.notRecord name) v

/-- The members of the object that the fields of a record are read from. -/
def fieldsOf {α : Type} (read : List (Loose × Json) → Intake α) : Json → Intake α
  | .obj ms => read ms
  | v => flawed .notFields v

/-- A field that must be there. -/
def field {α : Type} (name : String) (read : Json → Intake α) (ms : List (Loose × Json)) :
    Intake α :=
  match get? ms name with
  | some v => (read v).within (.member name)
  | none => .error [⟨.missing, [.member name], .obj ms⟩]

/-- A field that has a default. -/
def fieldOr {α : Type} (name : String) (read : Json → Intake α) (default : α)
    (ms : List (Loose × Json)) : Intake α :=
  match get? ms name with
  | some v => (read v).within (.member name)
  | none => .ok default

end Mender.Json
