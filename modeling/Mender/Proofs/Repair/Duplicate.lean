import Mender.Proofs.Text.Lines
import Mender.Proofs.Text.Scan
import Mender.Repair.Duplicate

/-!
# Lines and duplicate declarations

The rules for duplicate declarations take lines out of a file. The first `n` lines stay where
they are if none of them is taken out: if there is one import of the framework among them at
most (`getElem?_lines_mergeImports`), and no default export with another one below it
(`getElem?_lines_keepLastExport`). A line with the imports of several in it is still one line.
-/

namespace Mender.Repair.Duplicate

open Text

variable {s l : List Char} {ls : List (List Char)} {p : List Char → Bool} {n i : Nat}

/-! ## Imports -/

theorem namedAt?_subset {named : List Char} (h : namedAt? s = some named) : named ⊆ s := by
  unfold namedAt? at h
  simp only [Option.bind_eq_bind, Option.bind_eq_some_iff] at h
  obtain ⟨s₁, h₁, s₂, h₂, s₃, h₃, s₄, h₄, s₅, h₅, h⟩ := h
  split at h
  · next named' c r hspan =>
    obtain rfl := Option.some.inj h
    obtain ⟨rfl, -, -⟩ := span_eq_iff.1 hspan
    have hname : s₃ ⊆ s₁ := List.Subset.trans (subset_of_word? h₃) (subset_of_blanks? h₂)
    have hkeyword : s₃ ⊆ s := List.Subset.trans hname (subset_of_word? h₁)
    have hcomma : s₄ ⊆ s₃ := List.Subset.trans (subset_of_word? h₄) (trimStart_subset s₃)
    have hbrace := List.Subset.trans (subset_of_word? h₅) (trimStart_subset s₄)
    intro c hc
    exact hkeyword (hcomma (hbrace (List.mem_append_left _ hc)))
  · simp at h

/-- The names in an import are parts of its line. -/
theorem subset_of_mem_importedNames {name : List Char} (h : name ∈ importedNames l) :
    name ⊆ l := by
  unfold importedNames at h
  split at h
  · next named hnamed =>
    obtain ⟨u, hu, hat⟩ := exists_suffix_of_findMap? hnamed
    obtain ⟨part, hpart, rfl⟩ := List.mem_map.1 h
    intro c hc
    exact hu.subset (namedAt?_subset hat (subset_of_mem_fields hpart (trim_subset part hc)))
  · simp at h

/-- The distinct names are the names that are not empty. -/
theorem mem_distinct_iff {names : List (List Char)} {name : List Char} :
    name ∈ distinct names ↔ name ∈ names ∧ name ≠ [] := by
  have hfold : ∀ (names seen : List (List Char)), (∀ n ∈ seen, n ≠ []) →
      (name ∈ names.foldl (fun seen n => if n = [] ∨ n ∈ seen then seen else seen ++ [n]) seen ↔
        name ∈ seen ∨ name ∈ names ∧ name ≠ []) := by
    intro names
    induction names with
    | nil => simp
    | cons n names ih =>
      intro seen hseen
      rw [List.foldl_cons]
      split
      · next hskip =>
        rw [ih seen hseen]
        -- A name that is skipped is empty or has been seen.
        rcases hskip with rfl | hn <;> grind
      · next hnew =>
        rw [not_or] at hnew
        have hseen' : ∀ m ∈ seen ++ [n], m ≠ [] := by
          simp only [List.mem_append, List.mem_singleton]
          rintro m (hm | rfl)
          · exact hseen m hm
          · exact hnew.1
        rw [ih _ hseen']
        grind
  rw [distinct, hfold names [] (by simp)]
  simp

theorem newline_not_mem_mergedImport {names : List (List Char)}
    (h : ∀ name ∈ names, '\n' ∉ name) : '\n' ∉ mergedImport names := by
  have hplain : '\n' ∉ "import React from 'react';".toList := by decide
  have hopen : '\n' ∉ "import React, \x7b ".toList := by decide
  have hclose : '\n' ∉ " \x7d from 'react';".toList := by decide
  rw [mergedImport]
  split
  · exact hplain
  · simp only [List.mem_append, not_or]
    refine ⟨⟨hopen, fun hc => ?_⟩, hclose⟩
    rcases mem_joined hc with hc | ⟨name, hname, hc⟩
    · exact absurd hc (by decide)
    · exact h name hname hc

/-- Where none of the first lines is taken out, they stay where they are. -/
theorem getElem?_filter_of_take (h : (ls.take n).countP p = 0) (hi : i < n) :
    (ls.filter (!p ·))[i]? = ls[i]? := by
  induction ls generalizing n i with
  | nil => rfl
  | cons l ls ih =>
    obtain ⟨n, rfl⟩ : ∃ m, n = m + 1 := ⟨n - 1, by omega⟩
    rw [List.take_succ_cons, List.countP_cons] at h
    have hl : p l = false := by
      by_contra hl
      simp [hl] at h
    rw [List.filter_cons_of_pos (by simp [hl])]
    cases i with
    | zero => rfl
    | succ i => exact ih (n := n) (by omega) (by omega)

/-- The first lines, among which `p` holds once at most, stay where they are. -/
theorem getElem?_collapse (m : List Char) (h : (ls.take n).countP p ≤ 1) (hi : i < n) :
    (collapse p m ls)[i]? = ls[i]?.map fun l => if p l then m else l := by
  induction ls generalizing n i with
  | nil => rfl
  | cons l ls ih =>
    obtain ⟨n, rfl⟩ : ∃ m, n = m + 1 := ⟨n - 1, by omega⟩
    rw [List.take_succ_cons, List.countP_cons] at h
    rw [collapse]
    split
    · next hl =>
      have hnone : (ls.take n).countP p = 0 := by
        rw [if_pos hl] at h
        omega
      cases i with
      | zero => simp [hl]
      | succ i =>
        have hi' : i < n := by omega
        rw [List.getElem?_cons_succ, List.getElem?_cons_succ, getElem?_filter_of_take hnone hi',
          ← Option.map_id' (x := ls[i]?), Option.map_map]
        refine Option.map_congr fun l' hl' => ?_
        have hmem : l' ∈ ls.take n := by
          refine List.mem_of_getElem? (i := i) ?_
          rwa [List.getElem?_take, if_pos hi']
        simp [List.countP_eq_zero.1 hnone l' hmem]
    · next hl =>
      cases i with
      | zero => simp [hl]
      | succ i => exact ih (n := n) (by omega) (by omega)

/-- The import of the names of all imports. -/
def merged (s : List Char) : List Char :=
  mergedImport (distinct (((lines s).filter isReactImport).flatMap importedNames))

/-- What is made of a line when imports are merged. -/
def mergeLine (s l : List Char) : List Char :=
  if 2 ≤ (lines s).countP isReactImport ∧ isReactImport l = true then merged s else l

theorem newline_not_mem_merged (s : List Char) : '\n' ∉ merged s := by
  refine newline_not_mem_mergedImport fun name hname hc => ?_
  obtain ⟨l, hl, hname⟩ := List.mem_flatMap.1 (mem_distinct_iff.1 hname).1
  exact newline_not_mem_of_mem_lines (List.mem_filter.1 hl).1 (subset_of_mem_importedNames hname hc)

/-- A line is the one in place of the many, or it was there before. -/
theorem mem_collapse {m : List Char} (h : l ∈ collapse p m ls) : l = m ∨ l ∈ ls := by
  induction ls with
  | nil => exact .inr h
  | cons l' ls ih =>
    rw [collapse] at h
    split at h
    · rcases List.mem_cons.1 h with rfl | h
      · exact .inl rfl
      · exact .inr (List.mem_cons_of_mem _ (List.mem_filter.1 h).1)
    · rcases List.mem_cons.1 h with rfl | h
      · exact .inr List.mem_cons_self
      · exact (ih h).imp_right (List.mem_cons_of_mem _)

theorem collapse_ne_nil {m : List Char} (h : ls ≠ []) : collapse p m ls ≠ [] := by
  obtain ⟨l, ls, rfl⟩ := List.exists_cons_of_ne_nil h
  rw [collapse]
  split <;> exact List.cons_ne_nil _ _

/-- Of several imports the first line becomes the import of all names, and the others go. -/
theorem lines_mergeImports (s : List Char) :
    lines (mergeImports s) =
      if 2 ≤ (lines s).countP isReactImport then collapse isReactImport (merged s) (lines s)
      else lines s := by
  rw [mergeImports]
  dsimp only
  rw [← List.countP_eq_length_filter]
  split
  · next hfew => rw [if_neg (by omega)]
  · next hmany =>
    rw [if_pos (by omega)]
    refine lines_unlines (collapse_ne_nil (lines_ne_nil s)) fun l hl => ?_
    rcases mem_collapse hl with rfl | hl
    · exact newline_not_mem_merged s
    · exact newline_not_mem_of_mem_lines hl

/-- The lines down to the second import stay where they are. -/
theorem getElem?_lines_mergeImports (h : ((lines s).take n).countP isReactImport ≤ 1)
    (hi : i < n) : (lines (mergeImports s))[i]? = (lines s)[i]?.map (mergeLine s) := by
  rw [lines_mergeImports]
  split
  · next hmany =>
    rw [getElem?_collapse _ h hi]
    refine Option.map_congr fun l _ => ?_
    simp [mergeLine, hmany]
  · next hfew =>
    have hmerge : mergeLine s = id := by
      funext l
      exact if_neg fun h => hfew h.1
    rw [hmerge, Option.map_id, id]

/-! ## Exports -/

/-- The lines that are not taken out stay where they are, down to the first that is. -/
theorem getElem?_keepLast
    (h : ∀ j < n, ∀ l ∈ ls[j]?, p l = true → (ls.drop (j + 1)).any p = false) (hi : i < n) :
    (keepLast p ls)[i]? = ls[i]? := by
  induction ls generalizing n i with
  | nil => rfl
  | cons l ls ih =>
    obtain ⟨n, rfl⟩ : ∃ m, n = m + 1 := ⟨n - 1, by omega⟩
    have hkept : (p l && ls.any p) = false := by
      by_contra hout
      rw [Bool.not_eq_false, Bool.and_eq_true] at hout
      have hlast := h 0 (by omega) l rfl hout.1
      rw [List.drop_one, List.tail_cons, hout.2] at hlast
      exact absurd hlast (by simp)
    rw [keepLast, hkept]
    cases i with
    | zero => rfl
    | succ i =>
      refine ih (n := n) (fun j hj l' hl' hp => ?_) (by omega)
      exact h (j + 1) (by omega) l' hl' hp

/-- To keep the last of the lines with a property takes lines out. -/
theorem keepLast_sublist : (keepLast p ls).Sublist ls := by
  induction ls with
  | nil => exact .slnil
  | cons l ls ih =>
    rw [keepLast]
    split
    · exact ih.cons l
    · exact ih.cons_cons l

theorem keepLast_ne_nil (h : ls ≠ []) : keepLast p ls ≠ [] := by
  induction ls with
  | nil => exact absurd rfl h
  | cons l ls ih =>
    rw [keepLast]
    split
    · next hout =>
      refine ih ?_
      rintro rfl
      simp at hout
    · exact List.cons_ne_nil _ _

/-- Of the lines of default exports, the last is kept. -/
theorem lines_keepLastExport (s : List Char) :
    lines (keepLastExport s) = keepLast isDefaultExport (lines s) :=
  lines_unlines (keepLast_ne_nil (lines_ne_nil s)) fun _ hl =>
    newline_not_mem_of_mem_lines (keepLast_sublist.subset hl)

/-- The lines down to the first of several default exports stay as they are. -/
theorem getElem?_lines_keepLastExport
    (h : ∀ j < n, ∀ l ∈ (lines s)[j]?, isDefaultExport l = true →
      ((lines s).drop (j + 1)).any isDefaultExport = false) (hi : i < n) :
    (lines (keepLastExport s))[i]? = (lines s)[i]? := by
  rw [lines_keepLastExport, getElem?_keepLast h hi]

end Mender.Repair.Duplicate
