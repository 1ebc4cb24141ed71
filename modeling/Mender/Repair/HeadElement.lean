import Mender.Text.Blank
import Mender.Text.Lines
import Mender.Text.Scan

/-!
# Head elements

The tags of the plain head element become tags of the component, in the whole file,
and the component is imported unless it is already.
-/

namespace Mender.Repair.HeadElement

open Text

/-- The beginning of an opening tag in the place of that of a head element. -/
def openTag? (s : List Char) : Option (Nat × List Char) :=
  match word? "<head".toList s with
  | some (c :: _) => if isBlank c || c == '>' then some (4, "<Head".toList) else none
  | _ => none

/-- A closing tag in the place of that of a head element. -/
def closeTag? (s : List Char) : Option (Nat × List Char) :=
  match word? "</head".toList s with
  | none => none
  | some r =>
    match trimStart r with
    | '>' :: t => some (s.length - t.length - 1, "</Head>".toList)
    | _ => none

/-- The content with the tags of the component. -/
def renameTags (content : List Char) : List Char :=
  substitute closeTag? 0 (substitute openTag? 0 content)

/-- A quote of either kind. -/
def isQuote (c : Char) : Bool := c == '\'' || c == '"'

/-- The rest of the text after a quote of either kind. -/
def quote? : List Char → Option (List Char)
  | c :: s => if isQuote c then some s else none
  | [] => none

/-- The text starts with an import of the component, after any blanks. -/
def startsWithImport (s : List Char) : Bool :=
  let rest? := do
    let s ← blanks? (← word? "import".toList (trimStart s))
    let s ← blanks? (← word? "Head".toList s)
    let s ← blanks? (← word? "from".toList s)
    quote? (← word? "next/head".toList (← quote? s))
  rest?.isSome

/-- An import of the component starts at the beginning of a line; whether the text
    begins one is given. -/
def importsHead : (lineStart : Bool) → List Char → Bool
  | _, [] => false
  | lineStart, c :: s => (lineStart && startsWithImport (c :: s)) || importsHead (c == '\n') s

/-- The line that imports the component. -/
def headImport : List Char := "import Head from 'next/head';".toList

/-- The number of lines above the new import: it goes behind the first import of
    the framework, or else behind the last import, or else on top. -/
def importPlace (ls : List (List Char)) : Nat :=
  match ls.findIdx? (startsWith "import React".toList) with
  | some i => i + 1
  | none =>
    match ls.reverse.findIdx? (startsWith "import ".toList) with
    | some i => ls.length - i
    | none => 0

/-- The content with the component imported. -/
def addImport (content : List Char) : List Char :=
  let ls := lines content
  unlines (ls.insertIdx (importPlace ls) headImport)

/-- The content with the component in the place of the head element. -/
def repair (content : List Char) : List Char :=
  let renamed := renameTags content
  if importsHead true renamed then renamed else addImport renamed

end Mender.Repair.HeadElement
