import Mender.Proofs.Repair.Duplicate
import Mender.Proofs.Repair.HeadElement
import Mender.Proofs.Repair.Line
import Mender.Repair.Outcome

/-!
# Rounds of repairs

The diagnostics of a round give the lines of the content that the build saw, and each is
repaired in the content that the repairs before it have left (`afterRules`). A rule of a line
rewrites the line that has the reported number by then. This is the line which had it when the
build ran, as earlier repairs of the round have changed it (`lineAfter`), if none of these has
moved a line down to it (`KeepsPlaces`, `getElem?_lines_afterRules_append`).

The rules for the whole file do move lines, and no number of a later diagnostic follows: the
repair then is one of another line (`wrong_line_after_file_rules`).
-/

namespace Mender.Repair

open Text

/-! ## What a rule makes of a line -/

namespace Rule

/-- The first `n` lines of a content stay where they are when the rule is applied: none of them is
    taken out, joined with the next one, or pushed down. -/
def KeepsPlaces (n : Nat) (s : List Char) : Rule → Prop
  | unusedImport | explicitAny | unescapedEntity => True
  | headElement =>
    HeadElement.ClosesInLine n s ∧
      (HeadElement.importsHead true (HeadElement.renameTags s) = true ∨
        n ≤ HeadElement.importPlace (lines (HeadElement.renameTags s)))
  | duplicateReactImport => ((lines s).take n).countP Duplicate.isReactImport ≤ 1
  | duplicateDefaultExport =>
    ∀ j < n, ∀ l ∈ (lines s)[j]?, Duplicate.isDefaultExport l = true →
      ((lines s).drop (j + 1)).any Duplicate.isDefaultExport = false

instance (n : Nat) (s : List Char) : (r : Rule) → Decidable (r.KeepsPlaces n s)
  | unusedImport | explicitAny | unescapedEntity => inferInstanceAs (Decidable True)
  | headElement => inferInstanceAs (Decidable (_ ∧ _))
  | duplicateReactImport => inferInstanceAs (Decidable (_ ≤ 1))
  | duplicateDefaultExport =>
    inferInstanceAs (Decidable (∀ j < n, ∀ l ∈ (lines s)[j]?, Duplicate.isDefaultExport l = true →
      ((lines s).drop (j + 1)).any Duplicate.isDefaultExport = false))

/-- What a rule makes of the line behind the first `i` lines of a content. -/
def onLine (d : Diagnostic) (s : List Char) (i : Nat) (r : Rule) : List Char → List Char :=
  match r with
  | headElement => HeadElement.renameLine (i + 1 = (lines s).length)
  | duplicateReactImport => Duplicate.mergeLine s
  | duplicateDefaultExport => id
  | unusedImport | explicitAny | unescapedEntity =>
    if (i : Int) + 1 = d.line then r.rewrite d.message.toList else id

variable {r : Rule} {n i : Nat} {s : List Char}

/-- A rule of a line rewrites the line that has the reported number. -/
theorem IsLineRule.onLine_eq (hr : r.IsLineRule) (d : Diagnostic) (s : List Char) (i : Nat) :
    r.onLine d s i = if (i : Int) + 1 = d.line then r.rewrite d.message.toList else id := by
  cases r with
  | unusedImport | explicitAny | unescapedEntity => rfl
  | headElement | duplicateReactImport | duplicateDefaultExport => exact hr.elim

/-- A rule that keeps the places of lines changes every line by itself. -/
theorem KeepsPlaces.getElem?_lines_revise (h : r.KeepsPlaces n s) (d : Diagnostic) (hi : i < n) :
    (lines (r.revise d.line d.message.toList s))[i]? = (lines s)[i]?.map (r.onLine d s i) := by
  by_cases hr : r.IsLineRule
  · rw [Rule.getElem?_lines_revise hr, hr.onLine_eq]
    split
    · rfl
    · rw [Option.map_id, id]
  · cases r with
    | headElement => exact HeadElement.getElem?_lines_repair h.1 h.2 hi
    | duplicateReactImport => exact Duplicate.getElem?_lines_mergeImports h hi
    | duplicateDefaultExport =>
      rw [onLine, Option.map_id]
      exact Duplicate.getElem?_lines_keepLastExport h hi
    | unusedImport | explicitAny | unescapedEntity => exact absurd trivial hr

end Rule

/-! ## Rounds -/

/-- The content that the rules leave when they are asked about a diagnostic. -/
def afterRule (content : String) (d : Diagnostic) : String :=
  match Rule.of? d with
  | none => content
  | some r => r.apply d content

/-- The content that the rules leave when they are asked about diagnostics one after another. -/
def afterRules (content : String) (ds : List Diagnostic) : String := ds.foldl afterRule content

/-- None of the repairs of a round moves one of the first `n` lines. -/
def KeepsPlaces (n : Nat) : (content : String) → List Diagnostic → Prop
  | _, [] => True
  | content, d :: ds =>
    (∀ r ∈ Rule.of? d, r.KeepsPlaces n content.toList) ∧ KeepsPlaces n (afterRule content d) ds

instance KeepsPlaces.decidable (n : Nat) :
    (content : String) → (ds : List Diagnostic) → Decidable (KeepsPlaces n content ds)
  | _, [] => inferInstanceAs (Decidable True)
  | content, d :: ds =>
    have := KeepsPlaces.decidable n (afterRule content d) ds
    inferInstanceAs (Decidable (_ ∧ _))

/-- What the repairs of a round make of the line behind the first `i` lines of a content. -/
def lineAfter (i : Nat) : (content : String) → List Diagnostic → List Char → List Char
  | _, [], l => l
  | content, d :: ds, l =>
    lineAfter i (afterRule content d) ds
      (match Rule.of? d with
        | none => l
        | some r => r.onLine d content.toList i l)

variable {content : String} {d : Diagnostic} {ds : List Diagnostic} {n i : Nat} {r : Rule}

/-- The outcome of the rules for a diagnostic has the content that they leave. -/
theorem Outcome.content_ofRules (d : Diagnostic) (content : String) :
    (ofRules d content).content = .whole (afterRule content d) := by
  rw [ofRules, afterRule]
  cases Rule.of? d <;> rfl

/-- A repair that moves none of the first lines changes each of them by itself. -/
theorem getElem?_lines_afterRule (h : ∀ r ∈ Rule.of? d, r.KeepsPlaces n content.toList)
    (hi : i < n) :
    (lines (afterRule content d).toList)[i]? =
      (lines content.toList)[i]?.map fun l =>
        match Rule.of? d with
        | none => l
        | some r => r.onLine d content.toList i l := by
  rw [afterRule]
  cases hr : Rule.of? d with
  | none => exact (Option.map_id' (x := _)).symm
  | some r =>
    simp only [Rule.apply, String.toList_ofList]
    exact (h r hr).getElem?_lines_revise d hi

/-- Where no repair of a round moves one of the first lines, each of them is changed by itself. -/
theorem getElem?_lines_afterRules (h : KeepsPlaces n content ds) (hi : i < n) :
    (lines (afterRules content ds).toList)[i]? =
      (lines content.toList)[i]?.map (lineAfter i content ds) := by
  induction ds generalizing content with
  | nil => exact (Option.map_id' (x := _)).symm
  | cons d ds ih =>
    have hrest := ih h.2
    rw [getElem?_lines_afterRule h.1 hi, Option.map_map] at hrest
    exact hrest

/-- A repair of a line rewrites the line that had the reported number when the build ran, with what
    earlier repairs of the round have made of it, and no other, if these have not moved a line
    down to it. -/
theorem getElem?_lines_afterRules_append (hr : Rule.of? d = some r) (hline : r.IsLineRule)
    (hkeeps : KeepsPlaces d.line.toNat content ds) (j : Nat) :
    (lines (afterRules content (ds ++ [d])).toList)[j]? =
      if (j : Int) + 1 = d.line then
        (lines content.toList)[j]?.map fun l =>
          r.rewrite d.message.toList (lineAfter j content ds l)
      else (lines (afterRules content ds).toList)[j]? := by
  have hstep : afterRules content (ds ++ [d]) = r.apply d (afterRules content ds) := by
    rw [afterRules, List.foldl_append]
    simp [afterRules, afterRule, hr]
  rw [hstep, Rule.apply, String.toList_ofList, Rule.getElem?_lines_revise hline]
  split
  · next hj =>
    rw [getElem?_lines_afterRules hkeeps (by omega), Option.map_map]
    rfl
  · rfl

/-- The line with an apostrophe in it is repaired below a head element on the same line, as the
    component is imported already. -/
theorem lines_afterRules_same_line :
    let content := "import Head from 'next/head';\n<head></head><p>it's</p>"
    let head : Diagnostic :=
      ⟨"a.tsx", 2, 1, "no head", some "@next/next/no-head-element", .error, .lint⟩
    let entity : Diagnostic :=
      ⟨"a.tsx", 2, 19, "quote", some "react/no-unescaped-entities", .error, .lint⟩
    (lines (afterRules content ([head] ++ [entity])).toList)[1]? =
      some "<Head></Head><p>it&apos;s</p>".toList := by
  intro content head entity
  rw [getElem?_lines_afterRules_append (r := .unescapedEntity) (by decide +kernel) trivial
    (by decide +kernel)]
  decide +kernel

/-- The rules for the whole file move lines, and a repair behind them is one of another line: of
    the line above where an import has been added, and of the line below where one of two imports
    or of two exports has been taken out. -/
theorem wrong_line_after_file_rules :
    let lint (line : Int) (rule : String) : Diagnostic :=
      ⟨"a.tsx", line, 1, "", some rule, .error, .lint⟩
    let typeError (message : String) : Diagnostic :=
      ⟨"a.tsx", 1, 1, message, none, .error, .typeChecker⟩
    afterRules "const t = 'x';\n<head></head><p>it's</p>"
        [lint 2 "@next/next/no-head-element", lint 2 "react/no-unescaped-entities"] =
      "import Head from 'next/head';\nconst t = &apos;x&apos;;\n<Head></Head><p>it's</p>" ∧
    afterRules "import React from 'react';\nimport React from 'react';\nlet a: any\nlet b: any"
        [typeError "Duplicate identifier 'React'.", lint 3 "@typescript-eslint/no-explicit-any"] =
      "import React from 'react';\nlet a: any\nlet b: unknown" ∧
    afterRules "export default a\nlet a: any\nlet b: any\nexport default b"
        [typeError "multiple default exports", lint 2 "@typescript-eslint/no-explicit-any"] =
      "let a: any\nlet b: unknown\nexport default b" := by
  decide +kernel

end Mender.Repair
