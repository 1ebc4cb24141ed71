import Mender.Text.Blank
import Mender.Text.Lines
import Mender.Text.Scan

/-!
# Duplicate declarations

Of several imports of the framework one is kept, in the place of the first, with the
names of all of them (`mergeImports`). Of several default exports the last is kept
(`keepLastExport`).
-/

namespace Mender.Repair.Duplicate

open Text

/-! ## Imports -/

/-- A line that imports the framework. -/
def isReactImport (line : List Char) : Bool := startsWith "import React".toList (trim line)

/-- The text between the braces of an import of the framework, if one starts here. -/
def namedAt? (s : List Char) : Option (List Char) := do
  let s ← word? "React".toList (← blanks? (← word? "import".toList s))
  let s ← word? ['{'] (trimStart (← word? [','] (trimStart s)))
  match s.span (· ≠ '}') with
  | (named, _ :: _) => some named
  | (_, []) => none

/-- The names that a line imports from the framework, empty ones included. -/
def importedNames (line : List Char) : List (List Char) :=
  match findMap? namedAt? line with
  | some named => (fields ',' named).map trim
  | none => []

/-- The names without the empty ones, each where it first occurs. -/
def distinct (names : List (List Char)) : List (List Char) :=
  names.foldl (fun seen n => if n = [] ∨ n ∈ seen then seen else seen ++ [n]) []

/-- The import of the given names. -/
def mergedImport (names : List (List Char)) : List Char :=
  if names = [] then "import React from 'react';".toList
  else "import React, \x7b ".toList ++ joined ", ".toList names ++ " \x7d from 'react';".toList

/-- The lines with `merged` in the place of the first line that satisfies `p`, and
    without the others that do. -/
def collapse (p : List Char → Bool) (merged : List Char) : List (List Char) → List (List Char)
  | [] => []
  | l :: ls => if p l then merged :: ls.filter (!p ·) else l :: collapse p merged ls

/-- The content with a single import of the framework. -/
def mergeImports (content : List Char) : List Char :=
  let imports := (lines content).filter isReactImport
  if imports.length < 2 then content
  else
    let merged := mergedImport (distinct (imports.flatMap importedNames))
    unlines (collapse isReactImport merged (lines content))

/-! ## Exports -/

/-- A line that begins a default export. -/
def isDefaultExport (line : List Char) : Bool := startsWith "export default".toList (trim line)

/-- The lines without those that satisfy `p`, the last of them excepted. -/
def keepLast (p : List Char → Bool) : List (List Char) → List (List Char)
  | [] => []
  | l :: ls => if p l && ls.any p then keepLast p ls else l :: keepLast p ls

/-- The content with a single default export. -/
def keepLastExport (content : List Char) : List Char :=
  unlines (keepLast isDefaultExport (lines content))

end Mender.Repair.Duplicate
