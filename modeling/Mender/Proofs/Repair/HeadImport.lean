import Mender.Proofs.Repair.HeadElement
import Mender.Proofs.Text.Braces

/-!
# The place of the new import

The import of the head component goes behind a line that begins an import, or on top of the
file. Where all imports begin outside of braces (`ImportsOutside`), so does the new one exactly if
the line above it closes the braces that it opens (`depth_above_headImport_iff`). It does not if
that is the first line of an import with its names on lines of their own: the new import then
stands in the middle of that one (`headImport_inside_import`).

The tags are renamed first. This moves no beginning of a line into or out of braces
(`ImportsOutside.renameTags`), as a tag begins with an angle bracket, and is written with one
again (`Renames`).
-/

namespace Mender.Repair.HeadElement

open Text

variable {s t a b r w : List Char} {ls : List (List Char)} {k : Nat}
  {p : List Char → Option (Nat × List Char)}

/-! ## Renaming tags -/

/-- The scanner puts one tag in the place of another, which goes as deep into braces. What it
    writes begins with an angle bracket, and no line begins in it. -/
structure Renames (p : List Char → Option (Nat × List Char)) : Prop where
  depth_eq : ∀ s m, p s = some m →
    ∃ tag r, s = tag ++ r ∧ tag.length = m.1 + 1 ∧ depth tag = depth m.2
  writes : ∀ s m, p s = some m → m.2.head? = some '<' ∧ '\n' ∉ m.2

theorem renames_openTag : Renames openTag? := by
  refine ⟨fun s m hm => ?_, fun s m hm => ?_⟩
  · obtain ⟨c, t, rfl, -, rfl⟩ := openTag?_eq_some_iff.1 hm
    exact ⟨_, _, rfl, rfl, rfl⟩
  · obtain ⟨c, t, -, -, rfl⟩ := openTag?_eq_some_iff.1 hm
    exact (by decide : "<Head".toList.head? = some '<' ∧ '\n' ∉ "<Head".toList)

theorem depth_closing (hb : allBlank b = true) : depth (closing b) = 0 := by
  rw [closing_eq, depth_append, depth_append, depth_of_allBlank hb]
  rfl

theorem renames_closeTag : Renames closeTag? := by
  refine ⟨fun s m hm => ?_, fun s m hm => ?_⟩
  · obtain ⟨b, t, rfl, hb, rfl⟩ := closeTag?_eq_some_iff.1 hm
    refine ⟨closing b, t, rfl, ?_, depth_closing hb⟩
    rw [length_closing]
    omega
  · obtain ⟨b, t, -, -, rfl⟩ := closeTag?_eq_some_iff.1 hm
    exact (by decide : "</Head>".toList.head? = some '<' ∧ '\n' ∉ "</Head>".toList)

namespace Renames

/-- To rename tags leaves a text as deep in braces as it was. -/
theorem depth_substitute (hp : Renames p) (k : Nat) (s : List Char) :
    depth (substitute p k s) = depth (s.drop k) := by
  fun_induction substitute p k s with
  | case1 => simp
  | case2 k c s ih => exact ih
  | case3 c s k t hm ih =>
    obtain ⟨tag, r, hs, hlength, hdepth⟩ := hp.depth_eq _ _ hm
    have hr : s.drop k = r := by
      rw [← List.drop_succ_cons (a := c), hs, ← hlength, List.drop_left]
    rw [depth_append, ih, hr, List.drop_zero, hs, depth_append, hdepth]
  | case4 c s hm ih =>
    rw [depth_cons, ih, List.drop_zero, List.drop_zero, ← depth_cons]

/-- A line that begins behind the scanner began before it. -/
theorem exists_of_newline (hp : Renames p) (h : substitute p k s = a ++ '\n' :: b) :
    ∃ a' b', s = a' ++ '\n' :: b' ∧ b = substitute p 0 b' := by
  fun_induction substitute p k s generalizing a with
  | case1 => simp at h
  | case2 k c s ih =>
    obtain ⟨a', b', rfl, hb⟩ := ih h
    exact ⟨c :: a', b', rfl, hb⟩
  | case3 c s k t hm ih =>
    obtain ⟨u, -, hu⟩ := exists_of_append_newline (hp.writes _ _ hm).2 h.symm
    obtain ⟨a', b', rfl, hb⟩ := ih hu
    exact ⟨c :: a', b', rfl, hb⟩
  | case4 c s hm ih =>
    cases a with
    | nil =>
      obtain ⟨rfl, hb⟩ := List.cons.inj h
      exact ⟨[], s, rfl, hb.symm⟩
    | cons d a =>
      obtain ⟨-, ha⟩ := List.cons.inj h
      obtain ⟨a', b', rfl, hb⟩ := ih ha
      exact ⟨c :: a', b', rfl, hb⟩

/-- A word without a bracket at the head of the text has been there before. -/
theorem exists_of_word (hp : Renames p) (hw : '<' ∉ w) (h : substitute p 0 s = w ++ r) :
    ∃ r', s = w ++ r' := by
  induction w generalizing s with
  | nil => exact ⟨s, rfl⟩
  | cons c w ih =>
    rw [List.mem_cons, not_or] at hw
    cases s with
    | nil => simp [substitute] at h
    | cons d s =>
      rw [substitute] at h
      cases hm : p (d :: s) with
      | some m =>
        -- The text would begin with the bracket of a tag.
        simp only [hm] at h
        have hhead := (hp.writes _ _ hm).1
        obtain ⟨tag, htag⟩ := List.head?_eq_some_iff.1 hhead
        rw [htag] at h
        exact absurd (List.cons.inj h).1 hw.1
      | none =>
        simp only [hm] at h
        obtain ⟨rfl, hrest⟩ := List.cons.inj h
        obtain ⟨r', rfl⟩ := ih hw.2 hrest
        exact ⟨r', rfl⟩

end Renames

/-! ## Imports outside of braces -/

/-- The line begins an import. -/
def beginsImport (l : List Char) : Bool := startsWith "import ".toList l

/-- Every import begins outside of braces. -/
def ImportsOutside (s : List Char) : Prop :=
  ∀ above l below, lines s = above ++ l :: below → beginsImport l = true →
    depth (unlines above) = 0

/-- The imports begin outside of braces if no brace is open above a line that begins one. -/
theorem importsOutside_iff :
    ImportsOutside s ↔ ∀ i < (lines s).length, ∀ l ∈ (lines s)[i]?, beginsImport l = true →
      depth (unlines ((lines s).take i)) = 0 := by
  constructor
  · intro h i hi l hl
    obtain ⟨hi, rfl⟩ := List.getElem?_eq_some_iff.1 hl
    exact h _ _ _ (by rw [List.cons_getElem_drop_succ, List.take_append_drop])
  · intro h above l below hs
    have hplace := h above.length (by simp [hs]) l (by simp [hs])
    rwa [hs, List.take_left' rfl] at hplace

instance (s : List Char) : Decidable (ImportsOutside s) :=
  decidable_of_iff _ importsOutside_iff.symm

/-- A line begins an import with the word and a blank. -/
theorem beginsImport_iff : beginsImport l = true ↔ ∃ r, l = "import ".toList ++ r := by
  rw [beginsImport, startsWith, Option.isSome_iff_exists]
  simp only [word?_eq_some_iff]

/-- Where an import begins on a line of its own, the text above is outside of braces. -/
theorem ImportsOutside.depth_eq (h : ImportsOutside (a ++ '\n' :: ("import ".toList ++ r))) :
    depth a = 0 := by
  obtain ⟨l, ls, -, hl⟩ := lines_append (l := "import ".toList) (by decide) r
  have hplace := h (lines a) _ ls (by rw [lines_append_lines, hl]) (beginsImport_iff.2 ⟨l, rfl⟩)
  rwa [unlines_lines] at hplace

/-- To rename tags keeps the imports outside of braces. -/
theorem ImportsOutside.substitute (hp : Renames p) (h : ImportsOutside s) :
    ImportsOutside (substitute p 0 s) := by
  intro above l below hlines hl
  cases above with
  | nil => rfl
  | cons m above =>
    -- The line begins behind a line feed, which has been there before, and so has the import.
    have hcut := unlines_append (List.cons_ne_nil m above) (List.cons_ne_nil l below)
    rw [← hlines, unlines_lines] at hcut
    obtain ⟨a, b, rfl, hb⟩ := hp.exists_of_newline hcut
    obtain ⟨r, rfl⟩ := beginsImport_iff.1 hl
    obtain ⟨r', hr'⟩ := prefix_unlines ("import ".toList ++ r) below
    obtain ⟨u, rfl⟩ := hp.exists_of_word (by decide) (hb.symm.trans (hr'.symm.trans
      (List.append_assoc _ _ _)))
    have habove : depth a = 0 := h.depth_eq
    have hall := hp.depth_substitute 0 (a ++ '\n' :: ("import ".toList ++ u))
    have hbelow := hp.depth_substitute 0 ("import ".toList ++ u)
    rw [hcut, hb, List.drop_zero, depth_append, depth_append, depth_cons, depth_cons '\n' (_ ++ u),
      hbelow, List.drop_zero] at hall
    omega

theorem ImportsOutside.renameTags (h : ImportsOutside s) : ImportsOutside (renameTags s) :=
  (h.substitute renames_openTag).substitute renames_closeTag

/-! ## The place of the import -/

theorem exists_of_findIdx? {q : List Char → Bool} {i : Nat} (h : ls.findIdx? q = some i) :
    ∃ above l below, ls = above ++ l :: below ∧ q l = true ∧ above.length = i := by
  obtain ⟨hi, hq, -⟩ := List.findIdx?_eq_some_iff_getElem.1 h
  refine ⟨ls.take i, ls[i], ls.drop (i + 1), ?_, hq, List.length_take_of_le hi.le⟩
  rw [List.cons_getElem_drop_succ, List.take_append_drop]

/-- The new import goes on top, or behind a line that begins an import. -/
theorem importPlace_cases (ls : List (List Char)) :
    importPlace ls = 0 ∨ ∃ above l below, ls = above ++ l :: below ∧ beginsImport l = true ∧
      importPlace ls = above.length + 1 := by
  rw [importPlace]
  split
  · next i hi =>
    obtain ⟨above, l, below, rfl, hl, rfl⟩ := exists_of_findIdx? hi
    refine .inr ⟨above, l, below, rfl, ?_, rfl⟩
    obtain ⟨r, hr⟩ := Option.isSome_iff_exists.1 hl
    obtain rfl := word?_eq_some_iff.1 hr
    exact beginsImport_iff.2 ⟨"React".toList ++ r, rfl⟩
  · split
    · next i hi =>
      -- The last import has behind it what stands before it from the end on.
      obtain ⟨below, l, above, hls, hl, rfl⟩ := exists_of_findIdx? hi
      refine .inr ⟨above.reverse, l, below.reverse, ?_, hl, ?_⟩
      · rw [← List.reverse_reverse ls, hls]
        simp
      · have hlength := congrArg List.length hls
        simp only [List.length_reverse, List.length_append, List.length_cons] at hlength ⊢
        omega
    · exact .inl rfl

/-- The new import stands outside of braces exactly if the line above it closes the braces that it
    opens, given that all imports begin outside of braces. -/
theorem depth_above_headImport_iff (h : ImportsOutside s)
    (hnew : importsHead true (HeadElement.renameTags s) = false) :
    let ls := lines (HeadElement.renameTags s)
    let above := ls.take (importPlace ls)
    lines (repair s) = above ++ headImport :: ls.drop (importPlace ls) ∧
      (depth (unlines above) = 0 ↔ ∀ l ∈ above.getLast?, depth l = 0) := by
  intro ls above
  refine ⟨by rw [repair, if_neg (by simp [hnew]), lines_addImport], ?_⟩
  rcases importPlace_cases ls with hplace | ⟨us, l, ds, hls, hl, hplace⟩
  · simp [above, hplace, unlines, joined]
  · have habove : above = us ++ [l] := by
      simp only [above, hplace]
      rw [hls, List.append_cons, List.take_left' (by simp)]
    have hus : depth (unlines us) = 0 := h.renameTags us l ds hls hl
    rw [habove, depth_unlines_append, hus, List.getLast?_concat, Int.zero_add]
    simp [unlines, joined]

/-- Behind an import of one line the new one stands outside of braces, whatever imports with lines
    of their own for the names are above it. -/
theorem depth_above_headImport_one_line :
    let s := "import \x7b\n  a,\n\x7d from 'a';\nimport React from 'react';\n<head></head>".toList
    ImportsOutside s ∧ importsHead true (HeadElement.renameTags s) = false ∧
      (lines (repair s))[4]? = some headImport ∧
      depth (unlines ((lines (repair s)).take 4)) = 0 := by
  intro s
  have hs : ImportsOutside s := by decide +kernel
  have hnew : importsHead true (HeadElement.renameTags s) = false := by decide +kernel
  obtain ⟨hlines, hdepth⟩ := depth_above_headImport_iff hs hnew
  have hplace : importPlace (lines (HeadElement.renameTags s)) = 4 := by decide +kernel
  rw [hplace] at hlines hdepth
  refine ⟨hs, hnew, ?_, ?_⟩
  · rw [hlines]
    decide +kernel
  · rw [hlines, List.take_left' (by decide +kernel)]
    exact hdepth.2 (by decide +kernel)

/-- The new import stands in braces, in the middle of an import of the framework that has a line of
    its own for the names. -/
theorem headImport_inside_import :
    let s := "import React, \x7b\n  useState,\n\x7d from 'react';\n<head></head>".toList
    ImportsOutside s ∧ depth s = 0 ∧ importsHead true s = false ∧
      repair s = ("import React, \x7b\nimport Head from 'next/head';\n  useState,\n" ++
        "\x7d from 'react';\n<Head></Head>").toList ∧
      (lines (repair s))[1]? = some headImport ∧
      depth (unlines ((lines (repair s)).take 1)) = 1 := by
  decide +kernel

end Mender.Repair.HeadElement
