import Mender.Diagnostic
import Mender.Text.Lines
import Mender.Text.Scan
import Mender.Text.Word

/-!
# Build logs

The output of a build holds diagnostics in two forms. A linter writes a *header*,
a line that is nothing but the path of a source file, and below it *details*,

    ./src/Create.tsx
    2:18  Error: 'screen' is defined but never used.  no-unused-vars

and a type checker writes a *location* with the message on the line below it:

    ./src/Create.tsx:1:8
    Type error: Duplicate identifier 'React'.

The log is cut into rows, which are stripped of colours and of blanks at their end
(`cleanLines`); `Line.ofText` tells the kinds of lines apart, and `read` collects
the diagnostics in the order of the lines. Lines of no known form are passed over,
and so is a diagnostic with a number that has too many digits. Such a detail takes
the details of its whole block with it.
-/

namespace Mender.BuildLog

open Text

/-! ## Clean lines -/

/-- An ASCII letter. -/
def isLetter (c : Char) : Bool := ('a' ≤ c && c ≤ 'z') || ('A' ≤ c && c ≤ 'Z')

/-- A character between the bracket and the letter of a colour sequence. -/
def isColourParameter (c : Char) : Bool := ('0' ≤ c && c ≤ '9') || c == ';'

/-- The number of characters that a colour sequence takes behind its escape
    character, if the text goes on with one: a bracket, parameters, a letter. -/
def colourLength? : List Char → Option Nat
  | '[' :: s =>
    let parameters := (s.takeWhile isColourParameter).length
    if (s.drop parameters).head?.any isLetter then some (parameters + 2) else none
  | _ => none

/-- The text without its colour sequences; the first `skip` characters belong to
    one. -/
def uncoloured : (skip : Nat) → List Char → List Char
  | _, [] => []
  | skip + 1, _ :: s => uncoloured skip s
  | 0, c :: s =>
    if c = '\x1b' then
      match colourLength? s with
      | some n => uncoloured n s
      | none => c :: uncoloured 0 s
    else c :: uncoloured 0 s

/-- A row without its colours, and then without the blanks at its end. -/
def clean (row : List Char) : List Char := trimEnd (uncoloured 0 row)

/-- The lines of a log. -/
def cleanLines (log : List Char) : List (List Char) := (rows log).map clean

/-! ## The forms of lines -/

/-- The extensions of source files. -/
def extensions : List String := ["ts", "tsx", "js", "jsx"]

/-- The path of a source file: it starts with no blank, and something stands
    before its extension. -/
def isSourcePath (s : List Char) : Bool :=
  s.head?.any (!isBlank ·) &&
    extensions.any fun e => ('.' :: e.toList).isSuffixOf s && e.length + 1 < s.length

/-- A character of a rule name. -/
def isRuleChar (c : Char) : Bool := isWord c || c == '-'

/-- The name of a lint rule: parts of word characters and hyphens with a slash
    between two of them, the first behind an at sign or not. -/
def isRuleId (s : List Char) : Bool :=
  let name :=
    match s with
    | '@' :: r => r
    | r => r
  (fields '/' name).all fun part => part ≠ [] && part.all isRuleChar

/-- The two numbers that end a text, each behind a colon, and what stands before
    them. -/
def trailingNumbers? (s : List Char) : Option (List Char × List Char × List Char) :=
  match digits s.reverse with
  | (column, ':' :: r) =>
    match digits r with
    | (line, ':' :: r) =>
      if line = [] ∨ column = [] then none else some (r.reverse, line.reverse, column.reverse)
    | _ => none
  | _ => none

/-- The message and the rule of a detail, from the text behind the severity. The
    rule is the last word; the message has blanks on either side, and may itself be
    a single blank. -/
def messageAndRule? (s : List Char) : Option (List Char × List Char) :=
  let (rule, before) := (trimEnd s).reverse.span (!isBlank ·)
  let rule := rule.reverse
  let message := before.reverse
  if isRuleId rule && message.head?.any isBlank && (!allBlank message || 3 ≤ message.length) then
    some (trim message, rule)
  else none

/-- The severity at the head of a text, and what follows its colon. -/
def severity? (s : List Char) : Option (Severity × List Char) :=
  match word? "Error:".toList s with
  | some r => some (.error, r)
  | none => (word? "Warning:".toList s).map (.warning, ·)

/-- A diagnostic without its file, the numbers still in digits. -/
structure Detail where
  line : List Char
  column : List Char
  severity : Severity
  message : List Char
  rule : List Char
  deriving DecidableEq, Repr

/-- The detail that a line writes. -/
def Detail.ofText? (s : List Char) : Option Detail :=
  match digits (trimStart s) with
  | (line, ':' :: r) =>
    let (column, r) := digits r
    if line = [] ∨ column = [] then none
    else do
      let (severity, r) ← severity? (← blanks? r)
      let (message, rule) ← messageAndRule? r
      return ⟨line, column, severity, message, rule⟩
  | _ => none

/-- A line of a log, by its form. -/
inductive Line
  /-- The path of a source file. -/
  | header (file : List Char)
  /-- The path of a source file, with a line and a column in it. -/
  | location (file line column : List Char)
  | detail (d : Detail)
  | blank
  | other
  deriving DecidableEq, Repr

/-- The form of a line. The forms exclude each other: a header ends in a file
    extension, a location in a colon and digits, and a detail in a rule name. -/
def Line.ofText (s : List Char) : Line :=
  if isSourcePath s then .header s
  else
    match Detail.ofText? s with
    | some d => .detail d
    | none =>
      match trailingNumbers? s with
      | some (file, line, column) =>
        if isSourcePath file then .location file line column else .other
      | none => if allBlank s then .blank else .other

/-- The message of a type checker that a line writes. -/
def typeError? (s : List Char) : Option (List Char) :=
  (word? "Type error:".toList (trimStart s)).map trim

/-! ## Reading -/

/-- The number of lines below a header among which its details stand. -/
def lookahead : Nat := 10

/-- The diagnostic of a detail, unless a number is too long. -/
def Detail.diagnostic? (file : List Char) (d : Detail) : Option Diagnostic := do
  return ⟨String.ofList file, ← natural? d.line, ← natural? d.column, String.ofList d.message,
    some (String.ofList d.rule), d.severity, .lint⟩

/-- The diagnostics of the details below a header, up to a blank line, a header or
    a location; nothing if a number among them is too long. -/
def blockDetails? (file : List Char) : List (List Char) → Option (List Diagnostic)
  | [] => some []
  | l :: ls =>
    match Line.ofText l with
    | .detail d => do return (← d.diagnostic? file) :: (← blockDetails? file ls)
    | .other => blockDetails? file ls
    | .blank | .header _ | .location _ _ _ => some []

/-- The diagnostic of a location with a message right below it, unless a number is
    too long. -/
def typeErrorAt? (file line column : List Char) : List (List Char) → Option Diagnostic
  | [] => none
  | l :: _ => do
    let message ← typeError? l
    return ⟨String.ofList file, ← natural? line, ← natural? column, String.ofList message,
      none, .error, .typeChecker⟩

/-- The diagnostics that a line opens, before the lines below it. -/
def openedBy (l : List Char) (below : List (List Char)) : List Diagnostic :=
  match Line.ofText l with
  | .header file => (blockDetails? file (below.take lookahead)).getD []
  | .location file line column => (typeErrorAt? file line column below).toList
  | .detail _ | .blank | .other => []

/-- The diagnostics of the lines of a log. -/
def readLines : List (List Char) → List Diagnostic
  | [] => []
  | l :: ls => openedBy l ls ++ readLines ls

/-- The diagnostics of a log, in the order of its lines. -/
def read (log : String) : List Diagnostic := readLines (cleanLines log.toList)

end Mender.BuildLog
