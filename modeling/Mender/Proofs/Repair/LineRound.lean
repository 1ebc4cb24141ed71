import Mender.Proofs.Repair.Round

/-!
# Rounds of repairs of lines

Where a rule of a line repairs every diagnostic of a round, no line moves
(`keepsPlaces_of_lineRules`), and the round is one of every line by itself: a line is rewritten by
the diagnostics with its number, in their order, and by no others (`lineAfter_of_lineRules`). The
order of diagnostics with different numbers does not matter, and a number that no line has changes
nothing (`lines_afterRules_of_lineRules`).
-/

namespace Mender.Repair

open Text

variable {content : String} {d : Diagnostic} {ds ds' : List Diagnostic} {l : List Char} {i : Nat}

/-- A rule of a line repairs the diagnostic. -/
def HasLineRule (d : Diagnostic) : Prop := ∃ r ∈ Rule.of? d, r.IsLineRule

instance (d : Diagnostic) : Decidable (HasLineRule d) :=
  match h : Rule.of? d with
  | none => isFalse fun ⟨r, hr, _⟩ => by simp [h] at hr
  | some r => decidable_of_iff r.IsLineRule (by simp [HasLineRule, h])

/-- What the rule for a diagnostic makes of a line that has the reported number. -/
def rewriteFor (l : List Char) (d : Diagnostic) : List Char :=
  match Rule.of? d with
  | none => l
  | some r => r.rewrite d.message.toList l

/-- The diagnostics that have the number of the line behind the first `i` lines. -/
def reportedAt (i : Nat) (ds : List Diagnostic) : List Diagnostic :=
  ds.filter fun d => d.line = (i : Int) + 1

/-- What diagnostics make of a line, one after another. -/
def rewriteForAll (ds : List Diagnostic) (l : List Char) : List Char := ds.foldl rewriteFor l

/-- A rule of a line moves no line. -/
theorem HasLineRule.keepsPlaces (h : HasLineRule d) (n : Nat) (s : List Char) :
    ∀ r ∈ Rule.of? d, r.KeepsPlaces n s := by
  obtain ⟨r, hr, hline⟩ := h
  intro r' hr'
  obtain rfl : r = r' := Option.mem_unique hr hr'
  cases r with
  | unusedImport | explicitAny | unescapedEntity => trivial
  | headElement | duplicateReactImport | duplicateDefaultExport => exact hline.elim

/-- A round of rules of a line moves no line. -/
theorem keepsPlaces_of_lineRules (h : ∀ d ∈ ds, HasLineRule d) (n : Nat) (content : String) :
    KeepsPlaces n content ds := by
  induction ds generalizing content with
  | nil => trivial
  | cons d ds ih =>
    obtain ⟨hd, hds⟩ := List.forall_mem_cons.1 h
    exact ⟨hd.keepsPlaces n _, ih hds _⟩

/-- A diagnostic rewrites the line with its number, and no other. -/
theorem HasLineRule.lineAfter_cons (h : HasLineRule d) (i : Nat) (content : String)
    (ds : List Diagnostic) (l : List Char) :
    lineAfter i content (d :: ds) l =
      lineAfter i (afterRule content d) ds
        (if d.line = (i : Int) + 1 then rewriteFor l d else l) := by
  obtain ⟨r, hr, hline⟩ := h
  rw [Option.mem_def] at hr
  rw [lineAfter, rewriteFor, hr]
  simp only [hline.onLine_eq, eq_comm (a := d.line)]
  split <;> rfl

/-- In the end, a line is what the diagnostics with its number have made of it. -/
theorem lineAfter_of_lineRules (h : ∀ d ∈ ds, HasLineRule d) (i : Nat) (content : String)
    (l : List Char) : lineAfter i content ds l = rewriteForAll (reportedAt i ds) l := by
  induction ds generalizing content l with
  | nil => rfl
  | cons d ds ih =>
    obtain ⟨hd, hds⟩ := List.forall_mem_cons.1 h
    rw [hd.lineAfter_cons, ih hds, reportedAt, reportedAt]
    by_cases hline : d.line = (i : Int) + 1
    · rw [if_pos hline, List.filter_cons_of_pos (by simpa using hline)]
      rfl
    · rw [if_neg hline, List.filter_cons_of_neg (by simpa using hline)]

theorem lines_afterRules_eq_mapIdx (h : ∀ d ∈ ds, HasLineRule d) (content : String) :
    lines (afterRules content ds).toList =
      (lines content.toList).mapIdx fun i => rewriteForAll (reportedAt i ds) := by
  refine List.ext_getElem? fun i => ?_
  rw [getElem?_lines_afterRules (keepsPlaces_of_lineRules h (i + 1) content) i.lt_succ_self,
    List.getElem?_mapIdx]
  exact Option.map_congr fun l _ => lineAfter_of_lineRules h i content l

/-- Contents with the same lines are the same. -/
theorem eq_of_lines_eq {content content' : String}
    (h : lines content.toList = lines content'.toList) : content = content' :=
  String.toList_inj.1 (lines_injective h)

/-- Repairs of lines, one after another, leave as many lines as there were, and rewrite each of them
    by the diagnostics with its number, in their order. So a line without diagnostics stays as it
    is, and diagnostics in another order make the same content if they have the same order on every
    line. -/
theorem lines_afterRules_of_lineRules (h : ∀ d ∈ ds, HasLineRule d) (content : String) :
    lines (afterRules content ds).toList =
        (lines content.toList).mapIdx (fun i => rewriteForAll (reportedAt i ds)) ∧
      (∀ i : Nat, (∀ d ∈ ds, d.line ≠ (i : Int) + 1) →
        (lines (afterRules content ds).toList)[i]? = (lines content.toList)[i]?) ∧
      ∀ ds', (∀ d ∈ ds', HasLineRule d) →
        (∀ i < (lines content.toList).length, reportedAt i ds' = reportedAt i ds) →
        afterRules content ds' = afterRules content ds := by
  have hlines := lines_afterRules_eq_mapIdx h content
  refine ⟨hlines, fun i hi => ?_, fun ds' h' hsame => eq_of_lines_eq ?_⟩
  · have hnone : reportedAt i ds = [] :=
      List.filter_eq_nil_iff.2 fun d hd => by simpa using hi d hd
    rw [hlines, List.getElem?_mapIdx, hnone]
    exact Option.map_id' (x := _)
  · rw [hlines, lines_afterRules_eq_mapIdx h' content]
    refine List.ext_getElem (by simp) fun i hi _ => ?_
    rw [List.length_mapIdx] at hi
    rw [List.getElem_mapIdx, List.getElem_mapIdx, hsame i hi]

/-- Two names go from the import on the first line, in their order, and the carriage return stays.
    The second line has no diagnostic, and two of the diagnostics have no line. -/
theorem lines_afterRules_two_names :
    let content := "import Q, \x7b a, b \x7d from 'c';\r\nlet d: any;\x0c\n<p>it's</p>"
    let lint (line : Int) (message rule : String) : Diagnostic :=
      ⟨"a.tsx", line, 1, message, some rule, .error, .lint⟩
    let a := lint 1 "'a' is defined but never used." "no-unused-vars"
    let b := lint 1 "'b' is defined but never used." "no-unused-vars"
    let quote := lint 3 "quote" "react/no-unescaped-entities"
    let above := lint 0 "type" "@typescript-eslint/no-explicit-any"
    let below := lint 4 "type" "@typescript-eslint/no-explicit-any"
    lines (afterRules content [quote, above, a, below, b]).toList =
        ["import Q from 'c';\r".toList, "let d: any;\x0c".toList, "<p>it&apos;s</p>".toList] ∧
      (lines (afterRules content [quote, above, a, below, b]).toList)[1]? =
        some "let d: any;\x0c".toList ∧
      afterRules content [a, b, quote] = afterRules content [quote, above, a, below, b] := by
  intro content lint a b quote above below
  have hrules : ∀ d ∈ [quote, above, a, below, b], HasLineRule d := by decide +kernel
  obtain ⟨hlines, hkept, horder⟩ := lines_afterRules_of_lineRules hrules content
  refine ⟨?_, ?_, horder [a, b, quote] (by decide +kernel) (by decide +kernel)⟩
  · rw [hlines]
    decide +kernel
  · rw [hkept 1 (by decide +kernel)]
    decide +kernel

end Mender.Repair
