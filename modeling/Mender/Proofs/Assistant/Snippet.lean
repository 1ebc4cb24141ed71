import Mender.Assistant.Snippet
import Mender.Proofs.Text.Lines
import Mender.Proofs.Text.Numeral
import Mender.Proofs.Text.Scan

/-!
# The marked line of a snippet

A snippet marks the row with the number that is asked for, if there is one (`marked_eq`). A repair
by a rule edits the line with the number (`IsEdited`). Rows end at any line break and lines at line
feeds only, so that these are the same as long as no line is broken in other ways than by a
carriage return at its end (`marksEdited_iff`). From the first line on that has a form feed in it,
say, the snippet marks other lines than those that are edited (`marked_row_not_edited`).
-/

namespace Mender.Assistant

open Text

variable {s l row : List Char} {ls ms : List (List Char)} {line context start stop : Int} {n : Nat}

/-! ## Rows and lines -/

/-- The line without a carriage return at its end. -/
def withoutReturn (l : List Char) : List Char := if l.getLast? = some '\r' then l.dropLast else l

/-- The row with a number, counted from 1. -/
def rowAt? (line : Int) (s : List Char) : Option (List Char) :=
  if line < 1 then none else (rows s)[(line - 1).toNat]?

/-- The line `l` is the one that is changed when the line with a number is. -/
def IsEdited (line : Int) (s l : List Char) : Prop :=
  ∃ above below, lines s = above ++ l :: below ∧
    ∀ f, modifyLine line f s = unlines (above ++ f l :: below)

theorem modify_append_cons {α : Type} (above below : List α) (a : α) (f : α → α) :
    (above ++ a :: below).modify above.length f = above ++ f a :: below := by
  induction above with
  | nil => rfl
  | cons b above ih => simp [ih]

theorem isEdited_iff :
    IsEdited line s l ↔
      ∃ above below, lines s = above ++ l :: below ∧ (above.length : Int) + 1 = line := by
  constructor
  · rintro ⟨above, below, hs, hedit⟩
    refine ⟨above, below, hs, ?_⟩
    -- A change that makes the line longer shows where it is.
    have hkeeps : KeepsLine (· ++ ['x']) := fun l hl => by simp [hl]
    have hplace := getElem?_lines_modifyLine hkeeps line s above.length
    have hne : above ++ (l ++ ['x']) :: below ≠ [] := by simp
    have hlines : ∀ m ∈ above ++ (l ++ ['x']) :: below, '\n' ∉ m := by
      have hall : ∀ m ∈ lines s, '\n' ∉ m := fun _ => newline_not_mem_of_mem_lines
      rw [hs, List.forall_mem_append, List.forall_mem_cons] at hall
      rw [List.forall_mem_append, List.forall_mem_cons]
      exact ⟨hall.1, hkeeps l hall.2.1, hall.2.2⟩
    rw [hedit, lines_unlines hne hlines, hs] at hplace
    by_contra hnot
    simp [hnot] at hplace
  · rintro ⟨above, below, hs, rfl⟩
    refine ⟨above, below, hs, fun f => ?_⟩
    rw [modifyLine, if_neg (by omega), hs, Int.add_sub_cancel, Int.toNat_natCast,
      modify_append_cons]

theorem IsEdited.unique {l' : List Char} (h : IsEdited line s l) (h' : IsEdited line s l') :
    l = l' := by
  obtain ⟨above, below, hs, hn⟩ := isEdited_iff.1 h
  obtain ⟨above', below', hs', hn'⟩ := isEdited_iff.1 h'
  have hlength : above.length = above'.length := by omega
  have heq := List.append_inj (hs.symm.trans hs') hlength
  exact (List.cons.inj heq.2).1

/-- A line ends in a carriage return or not. -/
theorem withoutReturn_cases (l : List Char) :
    l = withoutReturn l ++ ['\r'] ∨ l = withoutReturn l := by
  rw [withoutReturn]
  split
  · next h => exact .inl (List.dropLast_append_getLast? '\r' h).symm
  · exact .inr rfl

/-- A line that is not broken is a row, down to the line feed behind it. -/
theorem rows_append_line (h : IsUnbroken (withoutReturn l)) (s : List Char) :
    rows (l ++ '\n' :: s) = withoutReturn l :: rows s := by
  obtain ⟨u, hu⟩ : ∃ u, withoutReturn l = u := ⟨_, rfl⟩
  rcases withoutReturn_cases l with hl | hl <;> rw [hu] at h hl ⊢ <;> subst hl
  · rw [List.append_assoc]
    exact rows_append_of_rows h (by rw [List.singleton_append, rows])
  · exact rows_append_newline h s

/-- A line without one behind it is a row, or nothing at all. -/
theorem rows_line (h : IsUnbroken (withoutReturn l)) :
    rows l = if l = [] then [] else [withoutReturn l] := by
  obtain ⟨u, hu⟩ : ∃ u, withoutReturn l = u := ⟨_, rfl⟩
  rcases withoutReturn_cases l with hl | hl <;> rw [hu] at h hl ⊢ <;> subst hl
  · rw [if_neg (by simp)]
    exact rows_append_of_rows h rfl
  · split
    · next hnil => rw [hnil]; rfl
    · next hne => exact rows_of_isUnbroken h hne

/-- Lines that are not broken are the first rows. -/
theorem rows_unlines_append (h : ∀ l ∈ ls, IsUnbroken (withoutReturn l)) (hms : ms ≠ []) :
    rows (unlines (ls ++ ms)) = ls.map withoutReturn ++ rows (unlines ms) := by
  induction ls with
  | nil => rfl
  | cons l ls ih =>
    rw [List.forall_mem_cons] at h
    obtain ⟨m, rest, hrest⟩ :=
      List.exists_cons_of_ne_nil (List.append_ne_nil_of_right_ne_nil ls hms)
    have hih := ih h.2
    rw [hrest] at hih
    rw [List.cons_append, hrest, unlines_cons_cons, rows_append_line h.1, hih]
    rfl

/-- There is no line break in a row. -/
theorem isUnbroken_of_mem_rows (h : row ∈ rows s) : IsUnbroken row := by
  fun_induction rows s generalizing row with
  | case1 => simp at h
  | case2 s ih =>
    rcases List.mem_cons.1 h with rfl | h
    · exact isUnbroken_nil
    · exact ih h
  | case3 c s _ hc ih =>
    rcases List.mem_cons.1 h with rfl | h
    · exact isUnbroken_nil
    · exact ih h
  | case4 c s _ hc hs ih =>
    obtain rfl : row = [c] := by simpa using h
    exact isUnbroken_cons.2 ⟨by simpa using hc, isUnbroken_nil⟩
  | case5 c s _ hc r rs hs ih =>
    rcases List.mem_cons.1 h with rfl | h
    · exact isUnbroken_cons.2 ⟨by simpa using hc, ih (hs ▸ List.mem_cons_self)⟩
    · exact ih (hs ▸ List.mem_cons_of_mem r h)

/-- If the first line is not broken, it is the first row. -/
theorem eq_withoutReturn_of_rows {rs : List (List Char)} (h : IsUnbroken (withoutReturn l))
    (hrows : rows (unlines (l :: ls)) = row :: rs) : row = withoutReturn l := by
  cases ls with
  | nil =>
    have hline := rows_line h
    rw [show unlines [l] = l from rfl] at hrows
    rw [hrows] at hline
    split at hline
    · exact absurd hline (List.cons_ne_nil _ _)
    · exact (List.cons.inj hline).1
  | cons m ms =>
    rw [unlines_cons_cons, rows_append_line h] at hrows
    exact (List.cons.inj hrows).1.symm

/-- There are no more rows than lines, if no line is broken. -/
theorem length_rows_le (h : ∀ l ∈ lines s, IsUnbroken (withoutReturn l)) :
    (rows s).length ≤ (lines s).length := by
  obtain ⟨above, l, hs⟩ := (List.eq_nil_or_concat' (lines s)).resolve_left (lines_ne_nil s)
  rw [hs, List.forall_mem_append, List.forall_mem_singleton] at h
  have hrows := rows_unlines_append h.1 (List.cons_ne_nil l [])
  rw [← hs, unlines_lines, show unlines [l] = l from rfl, rows_line h.2] at hrows
  rw [hrows, hs, List.length_append, List.length_append, List.length_map]
  split <;> simp

/-- A row with no broken line down to it is the line with its number. -/
theorem exists_isEdited {k : Nat} (h : ∀ l ∈ (lines s).take (k + 1), IsUnbroken (withoutReturn l))
    (hrow : (rows s)[k]? = some row) :
    ∃ l, IsEdited (k + 1) s l ∧ row = withoutReturn l := by
  have hk : k < (lines s).length := by
    by_contra hk
    rw [List.take_of_length_le (by omega)] at h
    have hlength := length_rows_le h
    rw [List.getElem?_eq_none (by omega)] at hrow
    simp at hrow
  obtain ⟨above, l, below, hs, hn⟩ := exists_line (s := s) (n := k + 1) (by omega) (by omega)
  obtain rfl : above.length = k := by omega
  rw [hs, List.append_cons, List.take_left' (by simp), List.forall_mem_append,
    List.forall_mem_singleton] at h
  have hrows := rows_unlines_append h.1 (List.cons_ne_nil l below)
  rw [← hs, unlines_lines] at hrows
  rw [hrows, List.getElem?_append_right (by simp), List.length_map, Nat.sub_self] at hrow
  obtain ⟨rs, hrs⟩ : ∃ rs, rows (unlines (l :: below)) = row :: rs := by
    cases hrest : rows (unlines (l :: below)) with
    | nil => simp [hrest] at hrow
    | cons r rs => exact ⟨rs, by simpa [hrest] using hrow⟩
  exact ⟨l, isEdited_iff.2 ⟨above, below, hs, hn⟩, eq_withoutReturn_of_rows h.2 hrs⟩

/-! ## Marked lines -/

/-- The line of a snippet is marked. -/
def isMarked (l : List Char) : Bool := startsWith ">>>".toList l

/-- The marked lines of a snippet. -/
def marked (content : List Char) (line context : Int) : List (List Char) :=
  (lines (snippet content line context)).filter isMarked

/-- A marked line of a snippet, with its number and its text. -/
def markedLine (n : Nat) (text : List Char) : List Char :=
  ">>> ".toList ++ lineNumber n ++ " | ".toList ++ text

theorem numbered_eq_markedLine (n : Nat) (text : List Char) :
    numbered n n text = markedLine n text := by
  rw [numbered, if_pos rfl, markedLine]

theorem isMarked_numbered (text : List Char) :
    isMarked (numbered line n text) = decide ((n : Int) = line) := by
  rw [numbered]
  split
  · next h => simp only [h, decide_true]; rfl
  · next h => simp only [h, decide_false]; rfl

theorem newline_not_mem_numbered (h : '\n' ∉ l) : '\n' ∉ numbered line n l := by
  have hnumber : '\n' ∉ lineNumber n := by
    simp only [lineNumber, List.mem_append, List.mem_replicate, not_or, not_and]
    refine ⟨fun _ => by decide, fun hc => ?_⟩
    exact absurd (isDigit_of_mem_toString hc) (by decide)
  simp only [numbered, List.mem_append, not_or]
  refine ⟨⟨⟨?_, hnumber⟩, by decide⟩, h⟩
  split <;> decide

theorem newline_not_mem_of_mem_rows (h : row ∈ rows s) : '\n' ∉ row := fun hc =>
  absurd (isUnbroken_of_mem_rows h _ hc) (by decide)

/-- The lines of an excerpt are rows with their numbers. -/
theorem exists_of_mem_excerpt (h : l ∈ excerpt line start stop ls) :
    ∃ i row, ls[i]? = some row ∧ l = numbered line (i + 1) row := by
  rw [excerpt] at h
  obtain ⟨i, hi, rfl⟩ := List.mem_mapIdx.1 (List.mem_of_mem_take (List.mem_of_mem_drop h))
  exact ⟨i, ls[i], List.getElem?_eq_getElem hi, rfl⟩

/-- The lines of a snippet are those of its excerpt; without rows, there is an empty one. -/
theorem lines_snippet (content : List Char) (line context : Int) :
    let i := nearest line (rows content).length
    let ls := excerpt line (i - context) (i + context + 1) (rows content)
    lines (snippet content line context) = if ls = [] then [[]] else ls := by
  intro i ls
  have hsnippet : snippet content line context = unlines ls := rfl
  rw [hsnippet]
  split
  · next h => rw [h]; rfl
  · next h =>
    refine lines_unlines h fun l hl => ?_
    obtain ⟨i, row, hrow, rfl⟩ := exists_of_mem_excerpt hl
    exact newline_not_mem_numbered (newline_not_mem_of_mem_rows (List.mem_of_getElem? hrow))

theorem marked_eq_filter (content : List Char) (line context : Int) :
    let i := nearest line (rows content).length
    marked content line context =
      (excerpt line (i - context) (i + context + 1) (rows content)).filter isMarked := by
  intro i
  rw [marked, lines_snippet]
  split
  · next h => rw [h]; rfl
  · rfl

/-- The row with the number is marked, and no other one. -/
theorem filter_excerpt {above below : List (List Char)} (hline : (above.length : Int) + 1 = line)
    (hstart : start ≤ above.length) (hstop : (above.length : Int) < stop) :
    (excerpt line start stop (above ++ row :: below)).filter isMarked =
      [markedLine line.toNat row] := by
  obtain ⟨k, hk⟩ : ∃ k, stop.toNat = above.length + (k + 1) :=
    ⟨stop.toNat - above.length - 1, by omega⟩
  have hnumber : numbered line (above.length + 1) row = markedLine line.toNat row := by
    obtain rfl : line = ((above.length + 1 : Nat) : Int) := by omega
    exact numbered_eq_markedLine _ row
  have hlength : (above.mapIdx fun i l => numbered line (i + 1) l).length = above.length :=
    List.length_mapIdx
  rw [excerpt, hk, List.mapIdx_append, List.mapIdx_cons, ← hlength, List.take_length_add_append,
    List.take_succ_cons, List.drop_append_of_le_length (by omega), List.filter_append,
    List.filter_cons_of_pos, hlength, Nat.zero_add, hnumber]
  · -- The rows above have smaller numbers, and those below have greater ones.
    have habove : ((above.mapIdx fun i l => numbered line (i + 1) l).drop start.toNat).filter
        isMarked = [] := by
      refine List.filter_eq_nil_iff.2 fun l hl => ?_
      obtain ⟨i, hi, rfl⟩ := List.mem_mapIdx.1 (List.mem_of_mem_drop hl)
      simp only [isMarked_numbered, decide_eq_true_eq]
      omega
    have hbelow : ((below.mapIdx fun i l =>
        numbered line (i + 1 + above.length + 1) l).take k).filter isMarked = [] := by
      refine List.filter_eq_nil_iff.2 fun l hl => ?_
      obtain ⟨i, hi, rfl⟩ := List.mem_mapIdx.1 (List.mem_of_mem_take hl)
      simp only [isMarked_numbered, decide_eq_true_eq]
      omega
    rw [habove, hbelow]
    rfl
  · rw [isMarked_numbered, decide_eq_true_eq]
    omega

/-- A snippet marks the row with the number, if there is one, and nothing else. -/
theorem marked_eq (content : List Char) (line : Int) (h : 0 ≤ context) :
    marked content line context = ((rowAt? line content).map (markedLine line.toNat)).toList := by
  rw [marked_eq_filter, rowAt?]
  by_cases hrange : 1 ≤ line ∧ line ≤ (rows content).length
  · have hlt : (line - 1).toNat < (rows content).length := by omega
    have hnearest : nearest line (rows content).length = line - 1 := by
      rw [nearest]
      omega
    have hrows : rows content = (rows content).take (line - 1).toNat ++
        (rows content)[(line - 1).toNat] :: (rows content).drop ((line - 1).toNat + 1) := by
      rw [← List.drop_eq_getElem_cons hlt, List.take_append_drop]
    have hlength : ((rows content).take (line - 1).toNat).length = (line - 1).toNat :=
      List.length_take_of_le hlt.le
    rw [hnearest, if_neg (by omega), List.getElem?_eq_getElem hlt]
    conv_lhs => rw [hrows]
    rw [filter_excerpt (by omega) (by omega) (by omega)]
    rfl
  · have hnone : (if line < 1 then none else (rows content)[(line - 1).toNat]?) = none := by
      split
      · rfl
      · exact List.getElem?_eq_none (by omega)
    rw [hnone]
    refine List.filter_eq_nil_iff.2 fun l hl => ?_
    obtain ⟨i, row, hrow, rfl⟩ := exists_of_mem_excerpt hl
    obtain ⟨hi, -⟩ := List.getElem?_eq_some_iff.1 hrow
    simp only [isMarked_numbered, decide_eq_true_eq]
    omega

/-! ## The marked line and the edited one -/

/-- If a line is marked, it is one line, with the number and the text of the line that is edited. -/
def MarksEdited (content : List Char) (line context : Int) : Prop :=
  marked content line context ≠ [] →
    ∃ l, IsEdited line content l ∧
      marked content line context = [markedLine line.toNat (withoutReturn l)]

theorem markedLine_injective (n : Nat) : Function.Injective (markedLine n) :=
  fun _ _ h => List.append_cancel_left h

theorem marksEdited_iff_row (content : List Char) (line : Int) (h : 0 ≤ context) :
    MarksEdited content line context ↔
      ∀ row ∈ rowAt? line content, ∃ l, IsEdited line content l ∧ row = withoutReturn l := by
  rw [MarksEdited, marked_eq content line h]
  cases rowAt? line content with
  | none => simp
  | some row =>
    simp only [Option.map_some, Option.toList_some, ne_eq, List.cons_ne_nil, not_false_eq_true,
      forall_const, List.cons.injEq, and_true, (markedLine_injective _).eq_iff, Option.mem_def,
      Option.some.injEq, forall_eq']

/-- Behind `n` lines that are not broken, a line that has the text of the row with its number is not
    broken either. -/
theorem isUnbroken_of_row {content : List Char}
    (hfirst : ∀ l ∈ (lines content).take n, IsUnbroken (withoutReturn l))
    (hl : (lines content)[n]? = some l)
    (hrow : ∀ row ∈ rowAt? (n + 1) content,
      ∃ l, IsEdited (n + 1) content l ∧ row = withoutReturn l) :
    IsUnbroken (withoutReturn l) := by
  rcases eq_or_ne l [] with rfl | hne
  · exact isUnbroken_nil
  obtain ⟨hn, rfl⟩ := List.getElem?_eq_some_iff.1 hl
  obtain ⟨above, l, below, hs, habove⟩ :=
    exists_line (s := content) (n := n + 1) (by omega) (by omega)
  obtain rfl : above.length = n := by omega
  simp only [hs, List.take_left', List.getElem_append_right (le_refl _), Nat.sub_self,
    List.getElem_cons_zero] at hfirst hne ⊢
  have htext : unlines (l :: below) ≠ [] := by
    obtain ⟨c, l', rfl⟩ := List.exists_cons_of_ne_nil hne
    exact List.ne_nil_of_mem ((prefix_unlines (c :: l') below).subset List.mem_cons_self)
  obtain ⟨row, rs, hrs⟩ := List.exists_cons_of_ne_nil (rows_ne_nil htext)
  have hrows := rows_unlines_append hfirst (List.cons_ne_nil l below)
  rw [← hs, unlines_lines, hrs] at hrows
  have hat : rowAt? (above.length + 1) content = some row := by
    rw [rowAt?, if_neg (by omega), hrows, Int.add_sub_cancel, Int.toNat_natCast,
      List.getElem?_append_right (by simp)]
    simp
  obtain ⟨l', hl', hrow⟩ := hrow row hat
  rw [(isEdited_iff.2 ⟨above, below, hs, rfl⟩ : IsEdited _ content l).unique hl', ← hrow]
  exact isUnbroken_of_mem_rows (s := content) (by simp [hrows])

/-- A snippet marks at most one line, which has the number and the text of a row. For all numbers up
    to `n`, it is the line that is edited exactly if none of the first `n` lines is broken, other
    than by a carriage return at its end. -/
theorem marksEdited_iff (content : List Char) (h : 0 ≤ context) :
    (∀ line, marked content line context =
      ((rowAt? line content).map (markedLine line.toNat)).toList) ∧
    ∀ n : Nat, (∀ line : Int, line ≤ n → MarksEdited content line context) ↔
      ∀ l ∈ (lines content).take n, IsUnbroken (withoutReturn l) := by
  refine ⟨fun line => marked_eq content line h, fun n => ?_⟩
  simp only [marksEdited_iff_row content _ h]
  constructor
  · intro hmarks
    induction n with
    | zero => simp
    | succ n ih =>
      have hfirst := ih fun line hle => hmarks line (by omega)
      intro l hl
      rw [List.take_add_one, List.mem_append, Option.mem_toList] at hl
      rcases hl with hl | hl
      · exact hfirst l hl
      · exact isUnbroken_of_row hfirst hl (hmarks (n + 1) (by omega))
  · intro hlines line hle row hrow
    rw [rowAt?] at hrow
    split at hrow
    · simp at hrow
    · next hlow =>
      have hplace : ((line - 1).toNat : Int) + 1 = line := by omega
      have hprefix : ∀ l ∈ (lines content).take ((line - 1).toNat + 1),
          IsUnbroken (withoutReturn l) :=
        fun l hl => hlines l ((List.take_sublist_take_left (by omega)).subset hl)
      obtain ⟨l, hl, rfl⟩ := exists_isEdited hprefix hrow
      exact ⟨l, hplace ▸ hl, rfl⟩

/-- Lines that end in carriage returns are the rows, and lines further down may be broken. -/
theorem marksEdited_returns :
    let content := "'use client';\r\nlet a: any;\r\nb\x0c".toList
    (0 : Int) ≤ 1 ∧
      (marked content 2 1 = [">>>    2 | let a: any;".toList] ∧ MarksEdited content 2 1) := by
  intro content
  obtain ⟨hmarked, hedited⟩ := marksEdited_iff content (by decide : (0 : Int) ≤ 1)
  have hcut : (lines content).take 2 = ["'use client';\r".toList, "let a: any;\r".toList] := by
    decide +kernel
  have hlines : ∀ l ∈ (lines content).take 2, IsUnbroken (withoutReturn l) := by
    simp only [hcut, List.forall_mem_cons]
    exact ⟨by decide +kernel, by decide +kernel, nofun⟩
  refine ⟨by decide, ?_, (hedited 2).2 hlines 2 (by decide)⟩
  rw [hmarked 2]
  decide +kernel

/-- Behind a line with a form feed, the row that is marked is a part of that line, and another line
    is edited. -/
theorem marked_row_not_edited :
    let content := "a\x0cb\nc".toList
    snippet content 2 3 = "       1 | a\n>>>    2 | b\n       3 | c".toList ∧
      marked content 2 3 = [">>>    2 | b".toList] ∧ IsEdited 2 content "c".toList ∧
      ¬MarksEdited content 2 3 := by
  intro content
  have hmarked : marked content 2 3 = [">>>    2 | b".toList] := by decide +kernel
  have hedited : IsEdited 2 content "c".toList :=
    isEdited_iff.2 ⟨["a\x0cb".toList], [], by decide +kernel, by decide⟩
  refine ⟨by decide +kernel, hmarked, hedited, fun h => ?_⟩
  obtain ⟨l, hl, heq⟩ := h (by rw [hmarked]; exact List.cons_ne_nil _ _)
  obtain rfl := hedited.unique hl
  rw [hmarked] at heq
  exact absurd heq (by decide +kernel)

end Mender.Assistant
