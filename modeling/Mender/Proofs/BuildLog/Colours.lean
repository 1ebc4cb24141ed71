import Mender.Proofs.BuildLog.Printing

/-!
# Logs with colours

A build that believes it writes to a screen puts colour sequences into its output, and what goes
through a terminal may have other line ends, and blanks behind its lines. Nothing of this changes
what is read (`read_dressed`): a log is read as the plain lines would be that it shows.

What is taken out of a row are colour sequences, each of them whole, and nothing else
(`uncoloured_eq_iff`). A sequence may stand anywhere, also inside of a number or behind the blanks
at the end of a line. It is for this that the blanks go after the colours.
-/

namespace Mender

open Text

namespace Text

variable {l s sep : List Char} {ls : List (List Char)}

/-- What lines of a log end in: a line feed, a carriage return, or both. -/
def lineEnds : List (List Char) := [['\n'], ['\r', '\n'], ['\r']]

/-- A line with its end is the first row, unless its end goes on in the text behind it. -/
theorem rows_append_lineEnd (hsep : sep ∈ lineEnds) (hl : IsUnbroken l)
    (hs : sep = ['\r'] → '\n' ∉ s) : rows (l ++ (sep ++ s)) = l :: rows s := by
  refine rows_append_of_rows hl ?_
  simp only [lineEnds, List.mem_cons, List.not_mem_nil, or_false] at hsep
  rcases hsep with rfl | rfl | rfl
  · exact rows_append_newline isUnbroken_nil s
  · rw [List.cons_append, List.cons_append, rows, List.nil_append]
  · rw [List.singleton_append, rows, if_pos (by decide)]
    rintro t - rfl
    exact hs rfl List.mem_cons_self

/-- The lines of a log are its rows, whatever their ends, but for an empty line at the end. -/
theorem rows_joined (hsep : sep ∈ lineEnds) (h : ∀ l ∈ ls, IsUnbroken l) :
    ls = rows (joined sep ls) ∨ ls = rows (joined sep ls) ++ [[]] := by
  induction ls with
  | nil => exact .inl rfl
  | cons l ls ih =>
    rw [List.forall_mem_cons] at h
    cases ls with
    | nil =>
      rcases eq_or_ne l [] with rfl | hne
      · exact .inr rfl
      · exact .inl (rows_of_isUnbroken h.1 hne).symm
    | cons l' ls =>
      -- A carriage return at the end of a line must not meet a line feed.
      have hnewline : sep = ['\r'] → '\n' ∉ joined sep (l' :: ls) := by
        rintro rfl hmem
        rcases mem_joined hmem with hmem | ⟨m, hm, hmem⟩
        · simp at hmem
        · exact absurd (h.2 m hm '\n' hmem) (by decide)
      have hjoined : rows (joined sep (l :: l' :: ls)) = l :: rows (joined sep (l' :: ls)) := by
        rw [joined, List.append_assoc, rows_append_lineEnd hsep h.1 hnewline]
        exact List.cons_ne_nil l' ls
      rw [hjoined]
      exact (ih h.2).imp (congrArg (l :: ·)) (congrArg (l :: ·))

end Text

namespace BuildLog

variable {l row q s : List Char} {ls rs : List (List Char)}

/-! ## Colour sequences -/

/-- A colour sequence: an escape character, a bracket, digits and semicolons, and a letter. -/
inductive IsColour : List Char → Prop
  | mk {parameters : List Char} {letter : Char} :
      (∀ c ∈ parameters, isColourParameter c = true) → isLetter letter = true →
      IsColour ('\x1b' :: '[' :: (parameters ++ [letter]))

/-- A row that shows a line, with colour sequences anywhere in it. -/
inductive Coloured : (l row : List Char) → Prop
  | nil : Coloured [] []
  | char {l row : List Char} (c : Char) : Coloured l row → Coloured (c :: l) (c :: row)
  | colour {l row q : List Char} : IsColour q → Coloured l row → Coloured l (q ++ row)

section

variable {c : Char}

theorem isLetter_le (h : isLetter c = true) : 0x41 ≤ c.toNat ∧ c.toNat ≤ 0x7a := by
  simp only [isLetter, Bool.or_eq_true, Bool.and_eq_true, decide_eq_true_eq, Char.le_def,
    UInt32.le_iff_toNat_le] at h
  simp only [Char.reduceVal, UInt32.reduceToNat] at h
  rw [Char.toNat]
  omega

theorem isColourParameter_le (h : isColourParameter c = true) :
    0x30 ≤ c.toNat ∧ c.toNat ≤ 0x3b := by
  simp only [isColourParameter, Bool.or_eq_true, Bool.and_eq_true, decide_eq_true_eq, Char.le_def,
    UInt32.le_iff_toNat_le, beq_iff_eq] at h
  simp only [Char.reduceVal, UInt32.reduceToNat] at h
  rcases h with h | rfl
  · rw [Char.toNat]
    omega
  · decide

theorem isColourParameter_of_isLetter (h : isLetter c = true) : isColourParameter c = false := by
  by_contra hc
  have hletter := isLetter_le h
  have hparameter := isColourParameter_le (Bool.not_eq_false _ ▸ hc)
  omega

theorem isRowBreak_of_le (h : 0x30 ≤ c.toNat ∧ c.toNat ≤ 0x7a) : isRowBreak c = false := by
  simp only [isRowBreak, Bool.or_eq_false_iff, Bool.and_eq_false_iff, decide_eq_false_iff_not,
    beq_eq_false_iff_ne]
  omega

end

theorem IsColour.isUnbroken (h : IsColour q) : IsUnbroken q := by
  obtain ⟨hparameters, hletter⟩ := h
  intro c hc
  simp only [List.mem_cons, List.mem_append, List.not_mem_nil, or_false] at hc
  rcases hc with rfl | rfl | hc | rfl
  · decide
  · decide
  · have hle := isColourParameter_le (hparameters c hc)
    exact isRowBreak_of_le (by omega)
  · have hle := isLetter_le hletter
    exact isRowBreak_of_le (by omega)

/-- A colour sequence is recognised whatever stands behind it. -/
theorem IsColour.exists_cons (h : IsColour q) (s : List Char) :
    ∃ r, q = '\x1b' :: r ∧ colourLength? (r ++ s) = some r.length := by
  obtain @⟨parameters, letter, hparameters, hletter⟩ := h
  refine ⟨'[' :: (parameters ++ [letter]), rfl, ?_⟩
  have htake : (parameters ++ letter :: s).takeWhile isColourParameter = parameters := by
    rw [List.takeWhile_append_of_pos hparameters,
      List.takeWhile_cons_of_neg (by simp [isColourParameter_of_isLetter hletter]),
      List.append_nil]
  simp [colourLength?, htake, hletter]

/-- What is recognised is a colour sequence. -/
theorem isColour_take {n : Nat} (h : colourLength? s = some n) :
    IsColour ('\x1b' :: s.take n) := by
  fun_cases colourLength? s with
  | case1 s parameters hletter =>
    rw [colourLength?, if_pos hletter] at h
    obtain rfl : parameters + 2 = n := Option.some.inj h
    rw [Option.any_eq_true] at hletter
    obtain ⟨letter, hhead, hletter⟩ := hletter
    have htake : s.take (parameters + 1) = s.takeWhile isColourParameter ++ [letter] := by
      rw [List.take_add_one, ← List.head?_drop, hhead, Option.toList_some,
        ← List.prefix_iff_eq_take.1 (List.takeWhile_prefix _)]
    rw [List.take_succ_cons, htake]
    exact .mk (fun c hc => List.mem_takeWhile_imp hc) hletter
  | case2 s parameters hletter =>
    rw [colourLength?, if_neg hletter] at h
    exact nomatch h
  | case3 =>
    rw [colourLength?] at h
    · exact nomatch h
    · assumption

/-! ## Rows without their colours -/

theorem uncoloured_length_append (r s : List Char) :
    uncoloured r.length (r ++ s) = uncoloured 0 s := by
  induction r with
  | nil => rfl
  | cons c r ih => exact ih

theorem uncoloured_append (h : IsColour q) (s : List Char) :
    uncoloured 0 (q ++ s) = uncoloured 0 s := by
  obtain ⟨r, rfl, hlength⟩ := h.exists_cons s
  rw [List.cons_append, uncoloured, if_pos rfl, hlength]
  exact uncoloured_length_append r s

theorem Coloured.uncoloured_eq (h : Coloured l row) (hl : '\x1b' ∉ l) : uncoloured 0 row = l := by
  induction h with
  | nil => rfl
  | char c _ ih =>
    rw [List.mem_cons, not_or] at hl
    rw [uncoloured, if_neg (Ne.symm hl.1), ih hl.2]
  | colour hq _ ih => rw [uncoloured_append hq, ih hl]

/-- What is left of a row behind the first characters is shown by it, if no sequence is left
    unfinished. -/
theorem coloured_uncoloured {skip : Nat} (h : '\x1b' ∉ uncoloured skip row) :
    Coloured (uncoloured skip row) (row.drop skip) := by
  fun_induction uncoloured skip row with
  | case1 => simpa using Coloured.nil
  | case2 skip c s ih => exact ih h
  | case3 s n hn ih =>
    have hrow : '\x1b' :: s = ('\x1b' :: s.take n) ++ s.drop n := by
      rw [List.cons_append, List.take_append_drop]
    rw [List.drop_zero, hrow]
    exact .colour (isColour_take hn) (ih h)
  | case4 => simp at h
  | case5 c s hc ih =>
    rw [List.mem_cons, not_or] at h
    exact .char c (ih h.2)

/-- A row shows a line without escape characters just if the line is what is left of the row
    without its colours. -/
theorem uncoloured_eq_iff (hl : '\x1b' ∉ l) : uncoloured 0 row = l ↔ Coloured l row := by
  constructor
  · rintro rfl
    exact coloured_uncoloured hl
  · exact fun h => h.uncoloured_eq hl

theorem Coloured.isUnbroken (h : Coloured l row) (hl : IsUnbroken l) : IsUnbroken row := by
  induction h with
  | nil => exact isUnbroken_nil
  | char c _ ih => exact isUnbroken_cons.2 ⟨(isUnbroken_cons.1 hl).1, ih (isUnbroken_cons.1 hl).2⟩
  | colour hq _ ih => exact isUnbroken_append.2 ⟨hq.isUnbroken, ih hl⟩

/-! ## Lines in another dress -/

/-- A row that shows a line, with spaces and tabs behind it, and with colour sequences anywhere. -/
def Dressed (l row : List Char) : Prop :=
  ∃ blanks : List Char, (∀ c ∈ blanks, c = ' ' ∨ c = '\t') ∧ Coloured (l ++ blanks) row

section

variable {blanks : List Char}

theorem isPlain_of_spaces (h : ∀ c ∈ blanks, c = ' ' ∨ c = '\t') : IsPlain blanks := by
  intro c hc
  rcases h c hc with rfl | rfl <;> decide

theorem allBlank_of_spaces (h : ∀ c ∈ blanks, c = ' ' ∨ c = '\t') : allBlank blanks = true := by
  refine List.all_eq_true.2 fun c hc => ?_
  rcases h c hc with rfl | rfl <;> decide

end

theorem Dressed.isUnbroken (h : Dressed l row) (hl : IsPlain l) : IsUnbroken row := by
  obtain ⟨blanks, hblanks, hrow⟩ := h
  exact hrow.isUnbroken (isPlain_append.2 ⟨hl, isPlain_of_spaces hblanks⟩).isUnbroken

/-- Nothing is left of the dress when a row is cleaned. -/
theorem Dressed.clean_eq (h : Dressed l row) (hl : IsPlain l) : clean row = clean l := by
  obtain ⟨blanks, hblanks, hrow⟩ := h
  have hplain : IsPlain (l ++ blanks) := isPlain_append.2 ⟨hl, isPlain_of_spaces hblanks⟩
  rw [clean, hrow.uncoloured_eq fun hmem => (hplain _ hmem).2 rfl,
    trimEnd_append_blanks (allBlank_of_spaces hblanks), hl.clean_eq]

/-- An empty line at the end reports nothing. -/
theorem readLines_append_nil (ls : List (List Char)) : readLines (ls ++ [[]]) = readLines ls := by
  rw [readLines_append_nil_cons, readLines, List.append_nil]

/-- A log is read as its lines are, whatever they end in. -/
theorem read_joined {sep : List Char} (hsep : sep ∈ lineEnds) (h : ∀ l ∈ ls, IsUnbroken l) :
    read (String.ofList (joined sep ls)) = readLines (ls.map clean) := by
  have hempty : clean [] = [] := rfl
  rw [read, cleanLines, String.toList_ofList]
  rcases rows_joined hsep h with hrows | hrows
  · rw [← hrows]
  · generalize rows (joined sep ls) = ms at hrows ⊢
    rw [hrows, List.map_append, List.map_singleton, hempty, readLines_append_nil]

theorem clean_of_dressed (h : List.Forall₂ (fun l row => IsPlain l ∧ Dressed l row) ls rs) :
    (∀ row ∈ rs, IsUnbroken row) ∧ rs.map clean = ls.map clean := by
  induction h with
  | nil => exact ⟨nofun, rfl⟩
  | cons hrow _ ih =>
    obtain ⟨hplain, hdressed⟩ := hrow
    rw [List.forall_mem_cons, List.map_cons, List.map_cons, ih.2, hdressed.clean_eq hplain]
    exact ⟨⟨hdressed.isUnbroken hplain, ih.1⟩, rfl⟩

/-- Neither colours nor line ends nor blanks at the end of lines change what is read. -/
theorem read_dressed {sep : List Char} (hplain : ∀ l ∈ ls, IsPlain l)
    (hrows : List.Forall₂ Dressed ls rs) (hsep : sep ∈ lineEnds) :
    read (String.ofList (joined sep rs)) = read (String.ofList (unlines ls)) := by
  have hfeed : ['\n'] ∈ lineEnds := List.mem_cons_self
  -- Both logs come down to the clean rows, which are the same.
  have hboth : List.Forall₂ (fun l row => IsPlain l ∧ Dressed l row) ls rs :=
    (List.forall₂_and_left ls rs).2 ⟨hplain, hrows⟩
  obtain ⟨hunbroken, hclean⟩ := clean_of_dressed hboth
  rw [read_joined hsep hunbroken, hclean, unlines,
    read_joined hfeed fun l hl => (hplain l hl).isUnbroken]

/-- There are colours inside of a path, a number, a word and a rule, and a blank line shows neither
    its tab nor the sequence behind it. -/
theorem read_dressed_inside_words :
    let ls := ["a.ts".toList, "12:3  Error: m  r".toList, [], "4:5  Error: m  r".toList]
    let rs := ["a\x1b[1m.\x1b[0;31mts ".toList,
      "1\x1b[K2:3  Err\x1b[m\x1b[2mor: m  \x1b[0mr".toList, "\t\x1b[0m".toList,
      "4:5  Error: m  r".toList]
    (∀ l ∈ ls, IsPlain l) ∧ List.Forall₂ Dressed ls rs ∧ ['\r', '\n'] ∈ lineEnds ∧
      read (String.ofList (joined ['\r', '\n'] rs)) =
        [⟨"a.ts", 12, 3, "m", some "r", .error, .lint⟩] := by
  intro ls rs
  have hdressed {l row : List Char} (blanks : List Char)
      (hblanks : ∀ c ∈ blanks, c = ' ' ∨ c = '\t') (hescape : '\x1b' ∉ l ++ blanks)
      (hrow : uncoloured 0 row = l ++ blanks) : Dressed l row :=
    ⟨blanks, hblanks, (uncoloured_eq_iff hescape).1 hrow⟩
  have hplain : ∀ l ∈ ls, IsPlain l := by decide
  have hrows : List.Forall₂ Dressed ls rs := by
    refine .cons (hdressed [' '] (by simp) ?_ ?_) (.cons (hdressed [] nofun ?_ ?_)
      (.cons (hdressed ['\t'] (by simp) ?_ ?_) (.cons (hdressed [] nofun ?_ ?_) .nil)))
    all_goals decide +kernel
  have hsep : ['\r', '\n'] ∈ lineEnds := by decide
  refine ⟨hplain, hrows, hsep, (read_dressed hplain hrows hsep).trans ?_⟩
  decide +kernel

end BuildLog

end Mender
