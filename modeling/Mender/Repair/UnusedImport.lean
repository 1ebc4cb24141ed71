import Mender.Text.Blank
import Mender.Text.Lines
import Mender.Text.Scan
import Mender.Text.Word

/-!
# Unused imports

A name that is imported and never used is taken out of the import on its line,
which may have a default and a list of names in braces, each with an alias or not.
The line is read as an `Import`, keeping word for word what stands before the names
and behind them. Where the last name goes the braces go with it, and the whole line
where there is no default either; the line itself stays, so that the numbers of the
lines below remain true.
-/

namespace Mender.Repair.UnusedImport

open Text

/-- A character of an identifier. -/
def isNameChar (c : Char) : Bool := isWord c || c == '$'

/-- What stands behind an unused name in a message. -/
def complaints : List String :=
  ["' is defined but never used", "' is assigned a value but never used"]

/-- The name that the text calls unused, if it starts with that name in quotes. -/
def unusedAt? : List Char → Option (List Char)
  | '\'' :: s =>
    let (name, r) := s.span isNameChar
    if name ≠ [] ∧ complaints.any (startsWith ·.toList r) then some name else none
  | _ => none

/-- The first name that a message calls unused. -/
def unusedName? (message : List Char) : Option (List Char) := findMap? unusedAt? message

/-- A line that imports names from a module. -/
structure Import where
  /-- The text up to the first name: the keyword and the blanks around it. -/
  lead : List Char
  /-- The name of the default import. -/
  default? : Option (List Char)
  /-- The text between the braces. -/
  named : List Char
  /-- The text behind the closing brace. -/
  source : List Char
  deriving DecidableEq, Repr

/-- The default import at the head of a text, and what follows the comma behind
    it. -/
def defaultName? (s : List Char) : Option (List Char × List Char) :=
  match s.span isNameChar with
  | ([], _) => none
  | (name, r) =>
    match trimStart r with
    | ',' :: r => some (name, trimStart r)
    | _ => none

/-- The text names the module of an import: blanks, the keyword, a blank, and
    anything at all. -/
def isSource (s : List Char) : Bool :=
  match word? "from".toList (trimStart s) with
  | some (c :: _ :: _) => isBlank c
  | _ => false

/-- The names in braces at the head of a text, and what follows them. -/
def braced? : List Char → Option (List Char × List Char)
  | '{' :: s =>
    match s.span (· ≠ '}') with
    | (named, _ :: r) => some (named, r)
    | (_, []) => none
  | _ => none

/-- The import that a line writes. -/
def Import.ofLine? (line : List Char) : Option Import := do
  let names ← blanks? (← word? "import".toList (trimStart line))
  let lead := line.take (line.length - names.length)
  let (default?, r) :=
    match defaultName? names with
    | some (name, r) => (some name, r)
    | none => (none, names)
  let (named, source) ← braced? r
  if isSource source then some ⟨lead, default?, named, source⟩ else none

/-- The names between the braces, each with the alias it may have. -/
def Import.specifiers (i : Import) : List (List Char) :=
  ((fields ',' i.named).map trim).filter (· ≠ [])

/-- The name that a specifier binds: the last one, if there is an alias. -/
def boundName (specifier : List Char) : List Char :=
  trim (((pieces " as ".toList specifier).getLast?).getD [])

/-- Names with a comma between two of them. -/
def nameList (names : List (List Char)) : List Char := joined ", ".toList names

/-- The text of an import of the given names, which may be none. -/
def Import.text (i : Import) (names : List (List Char)) : List Char :=
  let braces := "\x7b ".toList ++ nameList names ++ " \x7d".toList
  match i.default?, names with
  | none, [] => []
  | none, _ => i.lead ++ braces ++ i.source
  | some name, [] => i.lead ++ name ++ i.source
  | some name, _ => i.lead ++ name ++ ", ".toList ++ braces ++ i.source

/-- The line without the import of a name. -/
def without (name line : List Char) : List Char :=
  match Import.ofLine? line with
  | none => line
  | some i =>
    let kept := i.specifiers.filter (boundName · ≠ name)
    if kept.length = i.specifiers.length then line else i.text kept

/-- The content without the import that a message complains about. -/
def repair (line : Int) (message content : List Char) : List Char :=
  match unusedName? message with
  | none => content
  | some name => modifyLine line (without name) content

end Mender.Repair.UnusedImport
