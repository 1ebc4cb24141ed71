import Mathlib.Data.List.Infix
import Mender.Proofs.Repair.Duplicate
import Mender.Proofs.Repair.Line

/-!
# Names that imports bind

What an import binds is read from the text that begins with it, which may go on over several
lines: its default name, and a name for each of the specifiers in braces (`boundNames`). When the
imports of the framework are merged, the lines that go take none of their names along
(`binds_mergeImports`), if each of these imports is one of the framework by its own name, and lists
what it imports before the line ends.

Otherwise names are lost (`unbound_after_merge`): a line counts as an import of the framework by
the first letters of its default name, but its names are carried over only behind the name of the
framework itself, and only up to the end of the line.
-/

namespace Mender.Repair.Duplicate

open Text UnusedImport

variable {s t l r b b' name : List Char} {ls below names : List (List Char)}

/-! ## Reading imports -/

/-- What an import imports. -/
structure Statement where
  /-- The name of the default import; empty, if there is none. -/
  default : List Char
  /-- The specifiers in braces. -/
  specifiers : List (List Char)
  deriving DecidableEq

/-- The specifiers that a list in braces at the head of a text has. -/
def listed (s : List Char) : List (List Char) :=
  match braced? s with
  | some (named, _) => ((fields ',' named).map trim).filter (· ≠ [])
  | none => []

/-- The text behind a comma, if it starts with one. -/
def afterComma (s : List Char) : List Char :=
  match trimStart s with
  | ',' :: r => trimStart r
  | _ => []

/-- The import at the head of a text. -/
def Statement.read? (s : List Char) : Option Statement := do
  let names ← blanks? (← word? "import".toList (trimStart s))
  let (name, r) := names.span isNameChar
  some ⟨name, listed (if name = [] then names else afterComma r)⟩

/-- The names that an import binds. -/
def Statement.bound (i : Statement) : List (List Char) :=
  (if i.default = [] then [] else [i.default]) ++ i.specifiers.map boundName

/-- The names that the import at the head of a text binds. -/
def boundNames (s : List Char) : List (List Char) :=
  match Statement.read? s with
  | some i => i.bound
  | none => []

/-- An import that begins on one of the lines of the content binds the name. -/
def Binds (s name : List Char) : Prop := ∃ ls ∈ (lines s).tails, name ∈ boundNames (unlines ls)

instance (s name : List Char) : Decidable (Binds s name) :=
  inferInstanceAs (Decidable (∃ ls ∈ (lines s).tails, name ∈ boundNames (unlines ls)))

/-- The name of the framework. -/
def framework : List Char := "React".toList

/-- An import of the framework binds its default and the names that it lists. -/
theorem mem_bound_iff {specifiers : List (List Char)} :
    name ∈ (⟨framework, specifiers⟩ : Statement).bound ↔
      name = framework ∨ ∃ n ∈ specifiers, boundName n = name := by
  have hne : framework ≠ [] := by decide
  simp [Statement.bound, hne]

/-! ## Names that are carried over -/

theorem namedAt?_eq_none {c : Char} (hc : isBlank c = true) (s : List Char) :
    namedAt? (c :: s) = none := by
  have hne : 'i' ≠ c := by
    rintro rfl
    exact absurd hc (by decide)
  have hword : word? "import".toList (c :: s) = none := by
    rw [show "import".toList = 'i' :: "mport".toList from rfl, word?, if_neg hne]
  simp only [namedAt?, hword]
  rfl

/-- Blanks in front of an import do not matter. -/
theorem findMap?_namedAt? (h : namedAt? (trimStart s) = some t) : findMap? namedAt? s = some t := by
  induction s with
  | nil => exact h
  | cons c s ih =>
    rw [findMap?]
    cases hc : isBlank c with
    | true =>
      rw [namedAt?_eq_none hc]
      exact ih (by simpa [trimStart, hc] using h)
    | false =>
      rw [show trimStart (c :: s) = c :: s by simp [trimStart, hc]] at h
      rw [h]

/-- A name that is listed stands between the braces. -/
theorem mem_listed {n : List Char} (h : n ∈ listed s) :
    ∃ named r, braced? s = some (named, r) ∧ n ∈ (fields ',' named).map trim ∧ n ≠ [] := by
  unfold listed at h
  split at h
  · next named r hnamed =>
    obtain ⟨hn, hne⟩ := List.mem_filter.1 h
    exact ⟨named, r, hnamed, hn, by simpa using hne⟩
  · simp at h

/-- What an import of the framework lists on its line is found there. -/
theorem mem_importedNames {specifiers : List (List Char)} {n : List Char}
    (h : Statement.read? l = some ⟨framework, specifiers⟩) (hn : n ∈ specifiers) :
    n ∈ importedNames l ∧ n ≠ [] := by
  simp only [Statement.read?, Option.bind_eq_bind, Option.bind_eq_some_iff] at h
  obtain ⟨u, hu, v, hv, h⟩ := h
  rcases hspan : v.span isNameChar with ⟨name, w⟩
  rw [hspan] at h
  obtain ⟨rfl, rfl⟩ : name = framework ∧ _ = specifiers := Statement.mk.inj (Option.some.inj h)
  have hn : n ∈ listed (afterComma w) := hn
  obtain ⟨named, r, hbraced, hmem, hne⟩ := mem_listed hn
  obtain ⟨hlist, hnamed⟩ := braced?_eq_some_iff.1 hbraced
  -- There is a list, so there is a comma in front of it.
  obtain ⟨x, hcomma, hx⟩ :
      ∃ x, trimStart w = ',' :: x ∧ trimStart x = '{' :: (named ++ '}' :: r) := by
    unfold afterComma at hlist
    split at hlist
    · next x hx => exact ⟨x, hx, hlist⟩
    · simp at hlist
  have hframework : word? "React".toList v = some w := word?_eq_some_iff.2 (span_eq_iff.1 hspan).1
  have hcomma : word? [','] (trimStart w) = some x := word?_eq_some_iff.2 hcomma
  have hbrace : word? ['{'] (trimStart x) = some (named ++ '}' :: r) := word?_eq_some_iff.2 hx
  have hat : namedAt? (trimStart l) = some named := by
    simp only [namedAt?, Option.bind_eq_bind, Option.bind_some, hu, hv, hframework, hcomma, hbrace,
      span_ne_append hnamed]
  rw [importedNames, findMap?_namedAt? hat]
  exact ⟨hmem, hne⟩

/-! ## Reading the merged import -/

theorem brace_not_mem_of_namedAt? (h : namedAt? s = some t) : '}' ∉ t := by
  unfold namedAt? at h
  simp only [Option.bind_eq_bind, Option.bind_eq_some_iff] at h
  obtain ⟨_, _, _, _, _, _, _, _, u, _, h⟩ := h
  split at h
  · next named c r hspan =>
    obtain rfl := Option.some.inj h
    exact fun hmem => by simpa using (span_eq_iff.1 hspan).2.1 _ hmem
  · simp at h

/-- A name that can be listed: it reads the same in a list. -/
structure IsListed (n : List Char) : Prop where
  ne_nil : n ≠ []
  trimmed : Trimmed n
  comma : ',' ∉ n
  brace : '}' ∉ n

/-- The names that are merged are those of a list. -/
theorem isListed_of_mem_importedNames {n : List Char} (h : n ∈ importedNames l) (hne : n ≠ []) :
    IsListed n := by
  unfold importedNames at h
  split at h
  · next named hnamed =>
    obtain ⟨u, -, hat⟩ := exists_suffix_of_findMap? hnamed
    obtain ⟨part, hpart, rfl⟩ := List.mem_map.1 h
    obtain ⟨b, b', -, -, -, htrimmed⟩ := trim_eq_iff.1 (rfl : trim part = _)
    exact ⟨hne, htrimmed, fun hc => not_mem_of_mem_fields hpart (trim_subset part hc),
      fun hc => brace_not_mem_of_namedAt? hat (subset_of_mem_fields hpart (trim_subset part hc))⟩
  · simp at h

/-- Names with commas between them are read back. -/
theorem map_trim_fields (hne : names ≠ []) (h : ∀ n ∈ names, IsListed n) (hb : allBlank b = true)
    (hb' : allBlank b' = true) :
    (fields ',' (b ++ joined ", ".toList names ++ b')).map trim = names := by
  have hcomma : ∀ {b : List Char}, allBlank b = true → ',' ∉ b := fun hb hc =>
    absurd (isBlank_of_mem hb hc) (by decide)
  induction names generalizing b with
  | nil => exact absurd rfl hne
  | cons n names ih =>
    have hn := h n List.mem_cons_self
    cases names with
    | nil =>
      have hfield : ',' ∉ b ++ n ++ b' := by
        simp only [List.mem_append, not_or]
        exact ⟨⟨hcomma hb, hn.comma⟩, hcomma hb'⟩
      rw [joined, fields_of_not_mem hfield, List.map_singleton, trim_append hb hb',
        hn.trimmed.trim_eq]
    | cons m names =>
      have hfield : ',' ∉ b ++ n := by
        simp only [List.mem_append, not_or]
        exact ⟨hcomma hb, hn.comma⟩
      have hlist : b ++ joined ", ".toList (n :: m :: names) ++ b' =
          (b ++ n) ++ ',' :: ([' '] ++ joined ", ".toList (m :: names) ++ b') := by
        simp [joined]
      have htrim : trim (b ++ n) = n := by
        rw [← List.append_nil (b ++ n), trim_append hb rfl, hn.trimmed.trim_eq]
      rw [hlist, fields_append hfield, List.map_cons, htrim,
        ih (List.cons_ne_nil m names) (fun n hn => h n (List.mem_cons_of_mem _ hn)) (by decide)]

/-- An import of the framework is read as one, with the names that it lists. -/
theorem read?_framework (ht : ∀ c ∈ t.head?, isNameChar c = false) :
    Statement.read? ("import React".toList ++ t) = some ⟨framework, listed (afterComma t)⟩ := by
  have himport : word? "import".toList (trimStart ("import React".toList ++ t)) =
      some (" React".toList ++ t) := rfl
  have hblank : blanks? (" React".toList ++ t) = some (framework ++ t) := rfl
  have hspan : (framework ++ t).span isNameChar = (framework, t) :=
    span_eq_iff.2 ⟨rfl, List.all_eq_true.1 rfl, ht⟩
  simp only [Statement.read?, Option.bind_eq_bind, Option.bind_some, himport, hblank, hspan]
  rfl

/-- Names in braces are read back. -/
theorem listed_joined (hne : names ≠ []) (h : ∀ n ∈ names, IsListed n) (r : List Char) :
    listed ('{' :: (([' '] ++ joined ", ".toList names ++ [' ']) ++ '}' :: r)) = names := by
  have hbrace : '}' ∉ [' '] ++ joined ", ".toList names ++ [' '] := by
    simp only [List.mem_append, not_or]
    refine ⟨⟨by decide, fun hc => ?_⟩, by decide⟩
    rcases mem_joined hc with hc | ⟨n, hn, hc⟩
    · exact absurd hc (by decide)
    · exact (h n hn).brace hc
  have hfilter : names.filter (· ≠ []) = names :=
    List.filter_eq_self.2 fun n hn => decide_eq_true (h n hn).ne_nil
  have hfields : (fields ',' ([' '] ++ joined ", ".toList names ++ [' '])).map trim = names :=
    map_trim_fields hne h rfl rfl
  rw [listed, braced?_eq_some_iff.2 ⟨rfl, hbrace⟩]
  simp only [hfields, hfilter]

/-- The merged import is read as an import of the names that it was made of. -/
theorem read?_mergedImport (h : ∀ n ∈ names, IsListed n) (r : List Char) :
    Statement.read? (mergedImport names ++ r) = some ⟨framework, names⟩ := by
  rw [mergedImport]
  split
  · next hnames =>
    subst hnames
    exact read?_framework (t := " from 'react';".toList ++ r) (by simp; decide)
  · next hne =>
    obtain ⟨u, hu⟩ : ∃ u, u = '{' :: (([' '] ++ joined ", ".toList names ++ [' ']) ++
        '}' :: (" from 'react';".toList ++ r)) := ⟨_, rfl⟩
    have hcomma : afterComma (", ".toList ++ u) = u := by
      rw [hu]
      rfl
    have hread := read?_framework (t := ", ".toList ++ u) (by simp; decide)
    rw [hcomma, hu, listed_joined hne h] at hread
    rw [← hread]
    simp

/-- The line in place of many stands among the others. -/
theorem suffix_collapse {p : List Char → Bool} (m : List Char) (h : l ∈ ls) (hl : p l = true) :
    ∃ below, (m :: below) <:+ collapse p m ls := by
  induction ls with
  | nil => simp at h
  | cons l' ls ih =>
    rw [collapse]
    split
    · exact ⟨_, List.suffix_rfl⟩
    · next hl' =>
      rcases List.mem_cons.1 h with rfl | h
      · exact absurd hl hl'
      · obtain ⟨below, hbelow⟩ := ih h
        exact ⟨below, hbelow.trans (List.suffix_cons l' _)⟩

/-- A content binds what is bound by the import at the head of its last lines. -/
theorem binds_of_suffix (h : ls <:+ lines s) (hname : name ∈ boundNames (unlines ls)) :
    Binds s name := ⟨ls, (List.mem_tails ls _).2 h, hname⟩

/-- A name that is bound by a line that goes, or becomes the merged import, is bound in the end, if
    the line is an import of the framework by its own name, and lists all that it imports. -/
theorem binds_mergeImports (hl : (l :: below) <:+ lines s) (himport : isReactImport l = true)
    (hdefault : ∀ i ∈ Statement.read? l, i.default = framework)
    (hline : Statement.read? (unlines (l :: below)) = Statement.read? l) :
    ∀ name ∈ boundNames (unlines (l :: below)), Binds (mergeImports s) name := by
  intro name hname
  have hmem : l ∈ lines s := hl.subset List.mem_cons_self
  by_cases hmany : 2 ≤ (lines s).countP isReactImport
  · obtain ⟨ds, hds⟩ := suffix_collapse (merged s) hmem himport
    obtain ⟨r, hr⟩ := prefix_unlines (merged s) ds
    have hlisted : ∀ n ∈ distinct (((lines s).filter isReactImport).flatMap importedNames),
        IsListed n := by
      intro n hn
      obtain ⟨hn, hne⟩ := mem_distinct_iff.1 hn
      obtain ⟨l', -, hn⟩ := List.mem_flatMap.1 hn
      exact isListed_of_mem_importedNames hn hne
    have hlines := lines_mergeImports s
    rw [if_pos hmany] at hlines
    refine binds_of_suffix (hlines ▸ hds) ?_
    rw [boundNames, ← hr, merged, read?_mergedImport hlisted]
    rw [boundNames, hline] at hname
    cases hread : Statement.read? l with
    | none => simp [hread] at hname
    | some i =>
      obtain ⟨default, specifiers⟩ := i
      obtain rfl : default = framework := hdefault _ hread
      simp only [hread] at hname
      rcases mem_bound_iff.1 hname with rfl | ⟨n, hn, rfl⟩
      · exact mem_bound_iff.2 (.inl rfl)
      · obtain ⟨hn, hne⟩ := mem_importedNames hread hn
        have hfilter : l ∈ (lines s).filter isReactImport := List.mem_filter.2 ⟨hmem, himport⟩
        exact mem_bound_iff.2 (.inr
          ⟨n, mem_distinct_iff.2 ⟨List.mem_flatMap.2 ⟨l, hfilter, hn⟩, hne⟩, rfl⟩)
  · have hlines := lines_mergeImports s
    rw [if_neg hmany] at hlines
    exact binds_of_suffix (hlines ▸ hl) hname

/-- What the second of two imports lists, by another name, is bound by the merged one. -/
theorem binds_mergeImports_alias :
    let l := "import React, \x7b memo as m \x7d from 'react';".toList
    let s := "import React, \x7b useState \x7d from 'react';\n".toList ++ l ++ "\nlet x = m;".toList
    (l :: ["let x = m;".toList]) <:+ lines s ∧ isReactImport l = true ∧
      (∀ i ∈ Statement.read? l, i.default = framework) ∧
      Statement.read? (unlines (l :: ["let x = m;".toList])) = Statement.read? l ∧
      Binds (mergeImports s) "m".toList := by
  intro l s
  have hl : (l :: ["let x = m;".toList]) <:+ lines s := by decide +kernel
  have himport : isReactImport l = true := by decide +kernel
  have hdefault : ∀ i ∈ Statement.read? l, i.default = framework := by decide +kernel
  have hline : Statement.read? (unlines (l :: ["let x = m;".toList])) = Statement.read? l := by
    decide +kernel
  exact ⟨hl, himport, hdefault, hline,
    binds_mergeImports hl himport hdefault hline "m".toList (by decide +kernel)⟩

/-- A default import whose name only begins like that of the framework is no longer bound, and
    neither are the names of a list that is spread over lines. -/
theorem unbound_after_merge :
    let other := ("import React from 'react';\nimport ReactDOM from 'react-dom';\n" ++
      "import React from 'react';").toList
    let spread := ("import React, \x7b\n  useState,\n\x7d from 'react';\n" ++
      "import React from 'react';").toList
    (isReactImport "import ReactDOM from 'react-dom';".toList = true ∧
      Binds other "ReactDOM".toList ∧ ¬Binds (mergeImports other) "ReactDOM".toList) ∧
    Binds spread "useState".toList ∧ ¬Binds (mergeImports spread) "useState".toList := by
  decide +kernel

end Mender.Repair.Duplicate
