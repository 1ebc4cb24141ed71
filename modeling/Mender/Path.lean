import Mender.Text.Lines

/-!
# Paths

A path is a text of names with slashes between them. Made absolute, it is a list of
names from the root directory down (`AbsolutePath`): empty names and `.` go nowhere,
`..` goes up, and above the root directory there is nothing else. Exactly two slashes
in front are kept apart from a single one, as a path that starts so may lead to
another place.

`AbsolutePath.resolve?` confines a path to a directory, going by the names alone.
-/

namespace Mender

open Text

/-- The name of a file or a directory. -/
abbrev Name := List Char

/-- A path from the root directory down. -/
structure AbsolutePath where
  /-- The path starts with two slashes. -/
  doubled : Bool
  names : List Name
  deriving DecidableEq, Repr

namespace AbsolutePath

/-- The names of a path that lead anywhere. -/
def steps (path : List Char) : List Name :=
  (fields '/' path).filter fun n => n ≠ [] ∧ n ≠ ['.']

/-- Where one name leads from a directory. -/
def step (here : List Name) (name : Name) : List Name :=
  if name = ['.', '.'] then here.dropLast else here ++ [name]

/-- Where names lead from a directory, one after another. -/
def walk (here : List Name) (names : List Name) : List Name := names.foldl step here

/-- The path starts with exactly two slashes. -/
def startsDoubled : List Char → Bool
  | '/' :: '/' :: '/' :: _ => false
  | '/' :: '/' :: _ => true
  | _ => false

/-- The path `path`, seen from `base`. -/
def join (base : AbsolutePath) (path : String) : AbsolutePath :=
  let s := path.toList
  if s.head? = some '/' then ⟨startsDoubled s, walk [] (steps s)⟩
  else ⟨base.doubled, walk base.names (steps s)⟩

/-- The text of a path. -/
def text (p : AbsolutePath) : String :=
  String.ofList ((if p.doubled then ['/', '/'] else ['/']) ++ joined ['/'] p.names)

/-- The path `path`, seen from the directory `root`, unless it leads out of it. A root
    behind two slashes holds no path. -/
def resolve? (root : AbsolutePath) (path : String) : Option AbsolutePath :=
  let p := root.join path
  if !root.doubled && root.names.isPrefixOf p.names then some p else none

end AbsolutePath

end Mender
