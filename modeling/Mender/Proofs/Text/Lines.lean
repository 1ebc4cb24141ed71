import Mathlib.Data.List.Basic
import Mender.Text.Lines

/-!
# Texts made of lines

A text that is written line by line is cut into the same lines again: into the rows of a
log, if none of them has a line break in it (`rows_unlines`), and into the lines of a source
file, if none of them has a line feed in it (`lines_unlines`). So a change of one line is a
change of that line only (`getElem?_lines_modifyLine`).
-/

namespace Mender.Text

variable {s l : List Char} {ls : List (List Char)} {c : Char}

/-- The lines one below the other. -/
theorem unlines_cons_cons (l l' : List Char) (ls : List (List Char)) :
    unlines (l :: l' :: ls) = l ++ '\n' :: unlines (l' :: ls) := by
  simp [unlines, joined]

theorem prefix_unlines (l : List Char) (ls : List (List Char)) : l <+: unlines (l :: ls) := by
  cases ls with
  | nil => exact List.prefix_rfl
  | cons l' ls => exact ⟨_, (unlines_cons_cons l l' ls).symm⟩

theorem unlines_append (hls : ls ≠ []) {ls' : List (List Char)} (hls' : ls' ≠ []) :
    unlines (ls ++ ls') = unlines ls ++ '\n' :: unlines ls' := by
  induction ls with
  | nil => exact absurd rfl hls
  | cons l ls ih =>
    cases ls with
    | nil =>
      obtain ⟨l', ls', rfl⟩ := List.exists_cons_of_ne_nil hls'
      exact unlines_cons_cons l l' ls'
    | cons m ls =>
      have hrest := ih (List.cons_ne_nil m ls)
      rw [List.cons_append] at hrest
      rw [List.cons_append, List.cons_append, unlines_cons_cons, hrest, unlines_cons_cons,
        List.append_assoc, List.cons_append]

theorem subset_joined {sep : List Char} (h : l ∈ ls) : l ⊆ joined sep ls := by
  induction ls with
  | nil => simp at h
  | cons m ls ih =>
    cases ls with
    | nil =>
      obtain rfl : l = m := by simpa using h
      exact List.Subset.refl l
    | cons m' ls =>
      rw [joined]
      · rcases List.mem_cons.1 h with rfl | h
        · exact fun c hc => by simp [hc]
        · exact fun c hc => List.mem_append_right _ (ih h hc)
      · exact List.cons_ne_nil m' ls

theorem mem_joined {sep : List Char} (h : c ∈ joined sep ls) : c ∈ sep ∨ ∃ l ∈ ls, c ∈ l := by
  induction ls with
  | nil => simp [joined] at h
  | cons l ls ih =>
    cases ls with
    | nil => exact .inr ⟨l, List.mem_cons_self, h⟩
    | cons l' ls =>
      rw [joined, List.mem_append, List.mem_append] at h
      · rcases h with (h | h) | h
        · exact .inr ⟨l, List.mem_cons_self, h⟩
        · exact .inl h
        · rcases ih h with h | ⟨m, hm, h⟩
          · exact .inl h
          · exact .inr ⟨m, List.mem_cons_of_mem _ hm, h⟩
      · exact List.cons_ne_nil l' ls

theorem subset_of_mem_fields {sep : Char} (h : l ∈ fields sep s) : l ⊆ s :=
  joined_fields sep s ▸ subset_joined h

/-- The fields in front of a separator, and those behind it. -/
theorem fields_append_fields (sep : Char) (s t : List Char) :
    fields sep (s ++ sep :: t) = fields sep s ++ fields sep t := by
  induction s with
  | nil => simp [fields]
  | cons c s ih =>
    obtain ⟨f, fs, hs⟩ := List.exists_cons_of_ne_nil (fields_ne_nil sep s)
    rw [List.cons_append, fields, fields, ih, hs]
    split <;> rfl

/-! ## Rows -/

/-- A text within one row of a log. -/
def IsUnbroken (s : List Char) : Prop := ∀ c ∈ s, isRowBreak c = false

instance (s : List Char) : Decidable (IsUnbroken s) :=
  decidable_of_iff (s.all fun c => !isRowBreak c) (by simp [IsUnbroken])

theorem isUnbroken_nil : IsUnbroken [] := nofun

theorem isUnbroken_cons : IsUnbroken (c :: s) ↔ isRowBreak c = false ∧ IsUnbroken s := by
  simp [IsUnbroken]

theorem isUnbroken_append : IsUnbroken (s ++ l) ↔ IsUnbroken s ∧ IsUnbroken l :=
  List.forall_mem_append

/-- A character that ends no row stands at the beginning of one. -/
theorem rows_cons (hc : isRowBreak c = false) (s : List Char) :
    rows (c :: s) =
      match rows s with
      | [] => [[c]]
      | r :: rs => (c :: r) :: rs := by
  have hreturn : c ≠ '\r' := by
    rintro rfl
    exact absurd hc (by decide)
  rw [rows]
  · exact if_neg (by simp [hc])
  · exact fun _ h => absurd h hreturn

/-- A line break ends the row before it. -/
theorem rows_cons_of_isRowBreak (hc : isRowBreak c = true) (hreturn : '\r' ≠ c) (s : List Char) :
    rows (c :: s) = [] :: rows s := by
  rw [rows]
  · exact if_pos hc
  · exact fun _ h => absurd h.symm hreturn

/-- A text in front of a line break is the row that the break ends. -/
theorem rows_append_of_rows {rs : List (List Char)} (h : IsUnbroken l) (hs : rows s = [] :: rs) :
    rows (l ++ s) = l :: rs := by
  induction l with
  | nil => exact hs
  | cons c l ih =>
    obtain ⟨hc, hl⟩ := isUnbroken_cons.1 h
    rw [List.cons_append, rows_cons hc, ih hl]

theorem rows_append_of_isUnbroken (h : IsUnbroken l) (hc : isRowBreak c = true)
    (hreturn : '\r' ≠ c) (s : List Char) : rows (l ++ c :: s) = l :: rows s :=
  rows_append_of_rows h (rows_cons_of_isRowBreak hc hreturn s)

theorem rows_append_newline (h : IsUnbroken l) (s : List Char) :
    rows (l ++ '\n' :: s) = l :: rows s :=
  rows_append_of_isUnbroken h (by decide) (by decide) s

theorem rows_of_isUnbroken (h : IsUnbroken l) (hne : l ≠ []) : rows l = [l] := by
  induction l with
  | nil => exact absurd rfl hne
  | cons c l ih =>
    obtain ⟨hc, hl⟩ := isUnbroken_cons.1 h
    rw [rows_cons hc]
    cases l with
    | nil => rfl
    | cons d l => rw [ih hl (List.cons_ne_nil _ _)]

theorem rows_ne_nil (hne : s ≠ []) : rows s ≠ [] := by
  fun_cases rows s with
  | case1 => exact absurd rfl hne
  | _ => exact List.cons_ne_nil _ _

/-- Behind a line break, a new row begins. -/
theorem rows_append (hreturn : '\r' ∉ s) (hlast : ∀ c ∈ s.getLast?, isRowBreak c = true)
    (t : List Char) : rows (s ++ t) = rows s ++ rows t := by
  induction s with
  | nil => rfl
  | cons c s ih =>
    rw [List.mem_cons, not_or] at hreturn
    have hrest : rows (s ++ t) = rows s ++ rows t :=
      ih hreturn.2 fun d hd => hlast d (List.mem_getLast?_cons hd)
    cases hc : isRowBreak c with
    | true => simp only [List.cons_append, rows_cons_of_isRowBreak hc hreturn.1, hrest]
    | false =>
      -- The row that the character begins is ended by a later break.
      have hne : s ≠ [] := by
        rintro rfl
        simp [hlast c rfl] at hc
      obtain ⟨r, rs, hs⟩ := List.exists_cons_of_ne_nil (rows_ne_nil hne)
      simp only [List.cons_append, rows_cons hc, hrest, hs]

/-- A text in front of the first line break is one row. -/
theorem rows_append_eq_cons (h : IsUnbroken l) (hs : ∀ c ∈ s.head?, isRowBreak c = true)
    (hreturn : '\r' ∉ s) (hne : l ++ s ≠ []) : rows (l ++ s) = l :: (rows s).tail := by
  cases s with
  | nil =>
    rw [List.append_nil] at hne ⊢
    exact rows_of_isUnbroken h hne
  | cons c s =>
    rw [List.mem_cons, not_or] at hreturn
    have hc : isRowBreak c = true := hs c rfl
    rw [rows_append_of_isUnbroken h hc hreturn.1, rows_cons_of_isRowBreak hc hreturn.1]
    rfl

/-- There is no carriage return in an output. -/
theorem return_not_mem_unixBreaks (s : List Char) : '\r' ∉ unixBreaks s := by
  induction s using unixBreaks.induct with
  | case1 => simp [unixBreaks]
  | case2 s ih => simp [unixBreaks, ih]
  | case3 c s hne ih =>
    rw [unixBreaks]
    · split <;> simp_all [eq_comm]
    · exact hne

/-- The lines of a text are its rows. An empty line at the end would be none. -/
theorem rows_unlines (h : ∀ l ∈ ls, IsUnbroken l) (hlast : [] ∉ ls.getLast?) :
    rows (unlines ls) = ls := by
  induction ls with
  | nil => rfl
  | cons l ls ih =>
    have hl : IsUnbroken l := h l List.mem_cons_self
    cases ls with
    | nil => exact rows_of_isUnbroken hl fun hnil : l = [] => hlast (by simp [hnil])
    | cons l' ls =>
      rw [unlines_cons_cons, rows_append_newline hl,
        ih (fun l hl => h l (List.mem_cons_of_mem _ hl)) (by simpa using hlast)]

/-- The last line may have a line feed behind it. -/
theorem rows_unlines_newline (h : ∀ l ∈ ls, IsUnbroken l) (hne : ls ≠ []) :
    rows (unlines ls ++ ['\n']) = ls := by
  induction ls with
  | nil => exact absurd rfl hne
  | cons l ls ih =>
    have hl : IsUnbroken l := h l List.mem_cons_self
    cases ls with
    | nil => exact rows_append_newline hl []
    | cons l' ls =>
      rw [unlines_cons_cons, List.append_assoc, List.cons_append, rows_append_newline hl,
        ih (fun l hl => h l (List.mem_cons_of_mem _ hl)) (List.cons_ne_nil _ _)]

/-! ## Lines -/

theorem lines_ne_nil (s : List Char) : lines s ≠ [] := fields_ne_nil '\n' s

/-- Texts with the same lines are the same. -/
theorem lines_injective : Function.Injective lines := by
  intro s t h
  rw [← unlines_lines s, h, unlines_lines]

theorem newline_not_mem_of_mem_lines (h : l ∈ lines s) : '\n' ∉ l := not_mem_of_mem_fields h

theorem lines_unlines (hne : ls ≠ []) (h : ∀ l ∈ ls, '\n' ∉ l) : lines (unlines ls) = ls :=
  fields_joined hne h

theorem lines_append_newline (h : '\n' ∉ l) (s : List Char) :
    lines (l ++ '\n' :: s) = l :: lines s :=
  fields_append h s

theorem lines_of_newline_not_mem (h : '\n' ∉ s) : lines s = [s] := fields_of_not_mem h

/-- The lines above a line feed, and those below it. -/
theorem lines_append_lines (s t : List Char) : lines (s ++ '\n' :: t) = lines s ++ lines t :=
  fields_append_fields '\n' s t

/-- A text without line feed goes in front of the first line. -/
theorem lines_append (h : '\n' ∉ l) (s : List Char) :
    ∃ m ms, lines s = m :: ms ∧ lines (l ++ s) = (l ++ m) :: ms := by
  obtain ⟨m, ms, hs⟩ := List.exists_cons_of_ne_nil (lines_ne_nil s)
  refine ⟨m, ms, hs, ?_⟩
  induction l with
  | nil => exact hs
  | cons c l ih =>
    rw [List.mem_cons, not_or] at h
    have hrest := ih h.2
    rw [lines] at hrest
    rw [lines, List.cons_append, fields, if_neg (Ne.symm h.1), hrest]
    rfl

/-- A change of a line that leaves it one line. -/
def KeepsLine (f : List Char → List Char) : Prop := ∀ l, '\n' ∉ l → '\n' ∉ f l

theorem keepsLine_id : KeepsLine id := fun _ => id

theorem modifyLine_id (n : Int) (s : List Char) : modifyLine n id s = s := by
  simp [modifyLine, unlines_lines]

/-- A line with a number is changed, and no other line. -/
theorem getElem?_lines_modifyLine {f : List Char → List Char} (hf : KeepsLine f) (n : Int)
    (s : List Char) (j : Nat) :
    (lines (modifyLine n f s))[j]? =
      if (j : Int) + 1 = n then (lines s)[j]?.map f else (lines s)[j]? := by
  rw [modifyLine]
  split
  · rw [if_neg (by omega)]
  · have hmem : ∀ l ∈ (lines s).modify (n - 1).toNat f, '\n' ∉ l := by
      intro l hl
      obtain ⟨i, hi⟩ := List.mem_iff_getElem?.1 hl
      rw [List.getElem?_modify] at hi
      obtain ⟨l', hl', rfl⟩ := Option.map_eq_some_iff.1 hi
      have hl' := newline_not_mem_of_mem_lines (List.mem_of_getElem? hl')
      split
      · exact hf l' hl'
      · exact hl'
    have hne : (lines s).modify (n - 1).toNat f ≠ [] := by
      rw [ne_eq, List.modify_eq_nil_iff]
      exact lines_ne_nil s
    rw [lines_unlines hne hmem, List.getElem?_modify]
    by_cases hj : (j : Int) + 1 = n
    · have hplace : (n - 1).toNat = j := by omega
      simp [hj, hplace]
    · have hplace : (n - 1).toNat ≠ j := by omega
      simp only [hj, hplace, if_false]
      simp

/-- A number that is in range names a line. -/
theorem exists_line {n : Int} (hlow : 1 ≤ n) (hhigh : n ≤ (lines s).length) :
    ∃ above l below, lines s = above ++ l :: below ∧ (above.length : Int) + 1 = n := by
  have hlt : (n - 1).toNat < (lines s).length := by omega
  refine ⟨(lines s).take (n - 1).toNat, (lines s)[(n - 1).toNat],
    (lines s).drop ((n - 1).toNat + 1), ?_, ?_⟩
  · rw [← List.drop_eq_getElem_cons hlt, List.take_append_drop]
  · rw [List.length_take]
    omega

/-- What becomes of the lines when one of them is changed. -/
theorem lines_modifyLine {f : List Char → List Char} (hf : KeepsLine f) {n : Int}
    {above below : List (List Char)} (hs : lines s = above ++ l :: below)
    (hn : (above.length : Int) + 1 = n) : lines (modifyLine n f s) = above ++ f l :: below := by
  refine List.ext_getElem? fun j => ?_
  rw [getElem?_lines_modifyLine hf, hs]
  rcases Nat.lt_trichotomy j above.length with hj | rfl | hj
  · rw [if_neg (by omega), List.getElem?_append_left hj, List.getElem?_append_left hj]
  · rw [if_pos hn]
    simp
  · obtain ⟨k, rfl⟩ : ∃ k, j = above.length + 1 + k := ⟨j - above.length - 1, by omega⟩
    rw [if_neg (by omega)]
    simp [List.getElem?_append_right, Nat.add_assoc, Nat.add_comm 1]

/-- A change of a line that changes nothing the next time. -/
theorem modifyLine_modifyLine {f : List Char → List Char} (hf : KeepsLine f)
    (hagain : ∀ l, f (f l) = f l) (n : Int) (s : List Char) :
    modifyLine n f (modifyLine n f s) = modifyLine n f s := by
  refine lines_injective (List.ext_getElem? fun j => ?_)
  rw [getElem?_lines_modifyLine hf, getElem?_lines_modifyLine hf]
  split
  · rw [Option.map_map]
    exact Option.map_congr fun l _ => hagain l
  · rfl

end Mender.Text
