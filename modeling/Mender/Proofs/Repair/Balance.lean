import Mathlib.Algebra.Order.BigOperators.Group.List
import Mathlib.Algebra.Order.Group.Int
import Mender.Proofs.Repair.ImportNames
import Mender.Proofs.Text.Braces

/-!
# Braces and duplicate declarations

The rules for duplicate declarations take single lines out of a file (`TakenOut`), and a statement
may go on below its line. In a balanced file, the lines that are left are balanced exactly if those
that go have closed all the braces that they open, the braces of a new line in their place counted
against them (`TakenOut.balanced_iff`, `balanced_collapse_iff`). This is for lines that close no
more braces than they open, as the first lines of statements do.

So a function, or a list of names, that goes on below the first line of its declaration is cut in
half (`unbalanced_without_first_lines`).
-/

namespace Mender.Repair.Duplicate

open Text

variable {s l m : List Char} {ls gone kept : List (List Char)} {p : List Char → Bool} {n j : Int}

/-! ## Lines that are taken out -/

/-- The lines `ls` without the lines `gone` are the lines `kept`. -/
inductive TakenOut : (ls gone kept : List (List Char)) → Prop
  | nil : TakenOut [] [] []
  | keep (l : List Char) {ls gone kept : List (List Char)} :
      TakenOut ls gone kept → TakenOut (l :: ls) gone (l :: kept)
  | take (l : List Char) {ls gone kept : List (List Char)} :
      TakenOut ls gone kept → TakenOut (l :: ls) (l :: gone) kept

/-- The lines with a property are taken out, and the others stay. -/
theorem takenOut_filter (p : List Char → Bool) (ls : List (List Char)) :
    TakenOut ls (ls.filter p) (ls.filter (!p ·)) := by
  induction ls with
  | nil => exact .nil
  | cons l ls ih =>
    cases hl : p l with
    | true =>
      rw [List.filter_cons_of_pos hl, List.filter_cons_of_neg (by simp [hl])]
      exact .take l ih
    | false =>
      rw [List.filter_cons_of_neg (by simp [hl]), List.filter_cons_of_pos (by simp [hl])]
      exact .keep l ih

/-- All lines but the last with a property are taken out. -/
theorem takenOut_keepLast (p : List Char → Bool) (ls : List (List Char)) :
    TakenOut ls (ls.filter p).dropLast (keepLast p ls) := by
  induction ls with
  | nil => exact .nil
  | cons l ls ih =>
    rw [keepLast]
    split
    · next hl =>
      rw [Bool.and_eq_true, List.any_eq_true] at hl
      obtain ⟨l', hl', hp⟩ := hl.2
      have hne : ls.filter p ≠ [] := List.ne_nil_of_mem (List.mem_filter.2 ⟨hl', hp⟩)
      rw [List.filter_cons_of_pos hl.1, List.dropLast_cons_of_ne_nil hne]
      exact .take l ih
    · next hl =>
      cases hp : p l with
      | false =>
        rw [List.filter_cons_of_neg (by simp [hp])]
        exact .keep l ih
      | true =>
        -- There is no other line with the property below this one.
        have hnil : ls.filter p = [] := by simpa [hp] using hl
        rw [hnil] at ih
        rw [List.filter_cons_of_pos hp, hnil]
        exact .keep l ih

/-- Lines none of which closes more braces than it opens do so together. -/
theorem depth_unlines_nonneg (h : ∀ l ∈ ls, 0 ≤ depth l) : 0 ≤ depth (unlines ls) := by
  rw [depth_unlines]
  exact List.sum_nonneg (by simpa using h)

namespace TakenOut

/-- A text goes as deep into braces as what is taken out of it and what stays together. -/
theorem depth_eq (h : TakenOut ls gone kept) :
    depth (unlines ls) = depth (unlines gone) + depth (unlines kept) := by
  induction h with
  | nil => rfl
  | keep l _ ih =>
    rw [depth_unlines_cons, depth_unlines_cons, ih]
    omega
  | take l _ ih =>
    rw [depth_unlines_cons, depth_unlines_cons, ih]
    omega

/-- The braces that the lines open that go are open in front of the lines that stay. -/
theorem neverBelow (h : TakenOut ls gone kept) (hgone : ∀ l ∈ gone, 0 ≤ depth l)
    (hj : depth (unlines gone) ≤ j) (hls : NeverBelow n (unlines ls)) :
    NeverBelow (n + j) (unlines kept) := by
  induction h generalizing n j with
  | nil =>
    have hj : 0 ≤ j := hj
    exact hls.mono (by omega)
  | @keep l ls gone kept _ ih =>
    rw [neverBelow_unlines_cons] at hls ⊢
    have hdeep := ih hgone hj hls.2
    have hpos := depth_unlines_nonneg hgone
    exact ⟨hls.1.mono (by omega), by rwa [Int.add_right_comm]⟩
  | @take l ls gone kept _ ih =>
    rw [neverBelow_unlines_cons] at hls
    rw [depth_unlines_cons] at hj
    have hdeep := ih (fun l hl => hgone l (List.mem_cons_of_mem _ hl))
      (by omega : _ ≤ j - depth l) hls.2
    rwa [show n + depth l + (j - depth l) = n + j by omega] at hdeep

/-- What stays is balanced exactly if the lines that go close the braces that they open. -/
theorem balanced_iff (h : TakenOut ls gone kept) (hgone : ∀ l ∈ gone, 0 ≤ depth l)
    (hls : Balanced (unlines ls)) : Balanced (unlines kept) ↔ ∀ l ∈ gone, depth l = 0 := by
  have hdepth := h.depth_eq
  rw [hls.depth_eq] at hdepth
  constructor
  · intro hkept l hl
    have hsum : (gone.map depth).sum = 0 := by
      rw [← depth_unlines]
      have hzero := hkept.depth_eq
      omega
    exact List.all_zero_of_le_zero_le_of_sum_eq_zero (by simpa using hgone) hsum
      (List.mem_map_of_mem hl)
  · intro hzero
    have hsum : depth (unlines gone) = 0 := by
      rw [depth_unlines]
      exact List.sum_eq_zero (by simpa using hzero)
    refine Text.balanced_iff.2 ⟨?_, by omega⟩
    exact h.neverBelow hgone hsum.le (Text.balanced_iff.1 hls).1

end TakenOut

/-! ## Lines that are merged -/

/-- With one line in place of many, a text goes as deep into braces as that line does more than
    they do. -/
theorem depth_collapse (m : List Char) (h : ls.filter p ≠ []) :
    depth (unlines (collapse p m ls)) + depth (unlines (ls.filter p)) =
      depth (unlines ls) + depth m := by
  induction ls with
  | nil => exact absurd rfl h
  | cons l ls ih =>
    rw [collapse]
    split
    · next hl =>
      have hrest := (takenOut_filter p ls).depth_eq
      rw [List.filter_cons_of_pos hl]
      simp only [depth_unlines_cons]
      omega
    · next hl =>
      rw [List.filter_cons_of_neg hl] at h ⊢
      have hrest := ih h
      simp only [depth_unlines_cons]
      omega

/-- A text that closes only what is open still does with one line in place of many, if that line
    opens no less than they do. -/
theorem neverBelow_collapse (hp : ∀ l ∈ ls.filter p, 0 ≤ depth l) (hm : NeverBelow 0 m)
    (hle : depth (unlines (ls.filter p)) ≤ depth m) (hls : NeverBelow n (unlines ls)) :
    NeverBelow n (unlines (collapse p m ls)) := by
  induction ls generalizing n with
  | nil => exact hls
  | cons l ls ih =>
    rw [neverBelow_unlines_cons] at hls
    rw [collapse]
    split
    · next hl =>
      rw [List.filter_cons_of_pos hl] at hp hle
      rw [depth_unlines_cons] at hle
      have hdeep := (takenOut_filter p ls).neverBelow
        (fun l hl => hp l (List.mem_cons_of_mem _ hl)) (by omega : _ ≤ depth m - depth l) hls.2
      rw [neverBelow_unlines_cons]
      refine ⟨hm.mono hls.1.nonneg, ?_⟩
      rwa [show n + depth l + (depth m - depth l) = n + depth m by omega] at hdeep
    · next hl =>
      rw [List.filter_cons_of_neg hl] at hp hle
      rw [neverBelow_unlines_cons]
      exact ⟨hls.1, ih hp hle hls.2⟩

/-- What is left of merged lines is balanced exactly if the new line leaves as many braces open as
    those that it takes the place of. -/
theorem balanced_collapse_iff (hsome : ls.filter p ≠ []) (hp : ∀ l ∈ ls.filter p, 0 ≤ depth l)
    (hm : NeverBelow 0 m) (hls : Balanced (unlines ls)) :
    Balanced (unlines (collapse p m ls)) ↔ depth (unlines (ls.filter p)) = depth m := by
  have hdepth := depth_collapse m hsome
  rw [hls.depth_eq] at hdepth
  constructor
  · intro h
    have hzero := h.depth_eq
    omega
  · intro h
    exact balanced_iff.2 ⟨neverBelow_collapse hp hm h.le (balanced_iff.1 hls).1, by omega⟩

theorem neverBelow_mergedImport {names : List (List Char)} (h : ∀ name ∈ names, '}' ∉ name) :
    NeverBelow 0 (mergedImport names) := by
  rw [mergedImport]
  split
  · exact neverBelow_of_not_mem (by decide) le_rfl
  · have hlist : '}' ∉ joined ", ".toList names := by
      intro hc
      rcases mem_joined hc with hc | ⟨name, hname, hc⟩
      · exact absurd hc (by decide)
      · exact h name hname hc
    have hnames : NeverBelow 1 (joined ", ".toList names) := neverBelow_of_not_mem hlist (by decide)
    have hclose : NeverBelow 1 " \x7d from 'react';".toList := by decide
    have hdepth : 0 ≤ depth (joined ", ".toList names) := by
      simpa using neverBelow_of_not_mem hlist le_rfl _ List.prefix_rfl
    rw [neverBelow_append, neverBelow_append, depth_append]
    exact ⟨⟨by decide, hnames⟩, hclose.mono (by
      rw [show depth "import React, \x7b ".toList = 1 from rfl]
      omega)⟩

/-- The import that stands for all closes only what it has opened. -/
theorem neverBelow_merged (s : List Char) : NeverBelow 0 (merged s) := by
  refine neverBelow_mergedImport fun name hname => ?_
  obtain ⟨hname, hne⟩ := mem_distinct_iff.1 hname
  obtain ⟨l, -, hname⟩ := List.mem_flatMap.1 hname
  exact (isListed_of_mem_importedNames hname hne).brace

/-! ## Files without duplicates -/

/-- In a balanced file, a rule for duplicates leaves the braces balanced exactly if the lines that
    it takes out close all the braces that they open, or, where imports are merged, leave as many
    open as the import in their place. -/
theorem balanced_without_duplicates_iff (h : Balanced s) :
    let exports := ((lines s).filter isDefaultExport).dropLast
    let imports := (lines s).filter isReactImport
    ((∀ l ∈ exports, 0 ≤ depth l) →
      (Balanced (keepLastExport s) ↔ ∀ l ∈ exports, depth l = 0)) ∧
    ((∀ l ∈ imports, 0 ≤ depth l) →
      (Balanced (mergeImports s) ↔
        imports.length < 2 ∨ depth (unlines imports) = depth (merged s))) := by
  intro exports imports
  rw [← unlines_lines s] at h
  refine ⟨fun hexports => (takenOut_keepLast _ _).balanced_iff hexports h, fun himports => ?_⟩
  rw [← unlines_lines (mergeImports s), lines_mergeImports, List.countP_eq_length_filter]
  split
  · next hmany =>
    have hmany : 2 ≤ imports.length := hmany
    have hsome : imports ≠ [] := List.ne_nil_of_length_pos (by omega)
    rw [balanced_collapse_iff hsome himports (neverBelow_merged s) h]
    exact (or_iff_right (by omega)).symm
  · next hfew => exact iff_of_true h (.inl (Nat.not_le.1 hfew))

/-- Declarations that end on their line go as a whole. -/
theorem balanced_without_one_line_duplicates :
    let s := unlines ["import React, \x7b memo \x7d from 'react';".toList,
      "import React from 'react';".toList, "export default () => \x7b \x7d;".toList,
      "export default class \x7b".toList, "\x7d".toList]
    Balanced s ∧ Balanced (keepLastExport s) ∧ keepLastExport s ≠ s ∧
      Balanced (mergeImports s) ∧ mergeImports s ≠ s := by
  intro s
  obtain ⟨hs, hkeep, hmerge⟩ : Balanced s ∧ keepLastExport s ≠ s ∧ mergeImports s ≠ s := by
    decide +kernel
  have hexports : ∀ l ∈ ((lines s).filter isDefaultExport).dropLast, depth l = 0 := by
    decide +kernel
  obtain ⟨himports, hmerged⟩ : (∀ l ∈ (lines s).filter isReactImport, 0 ≤ depth l) ∧
      depth (unlines ((lines s).filter isReactImport)) = depth (merged s) := by
    decide +kernel
  obtain ⟨hiff, hiff'⟩ := balanced_without_duplicates_iff hs
  exact ⟨hs, (hiff fun l hl => (hexports l hl).ge).2 hexports, hkeep,
    (hiff' himports).2 (.inr hmerged), hmerge⟩

/-- The first line of a function goes and its last line stays, and so it is with an import that has
    a line of its own for a name. -/
theorem unbalanced_without_first_lines :
    let exports := unlines ["export default function A() \x7b".toList, "\x7d".toList,
      "export default B;".toList]
    let imports := unlines ["import React from 'react';".toList, "import React, \x7b".toList,
      "  useState,".toList, "\x7d from 'react';".toList]
    (Balanced exports ∧
      keepLastExport exports = unlines ["\x7d".toList, "export default B;".toList] ∧
      ¬Balanced (keepLastExport exports)) ∧
    Balanced imports ∧
      mergeImports imports = unlines ["import React from 'react';".toList, "  useState,".toList,
        "\x7d from 'react';".toList] ∧
      ¬Balanced (mergeImports imports) := by
  decide +kernel

end Mender.Repair.Duplicate
