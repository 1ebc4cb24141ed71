/-!
# Lines

Two ways to cut a text into lines. The *lines* of a source file end at a line
feed only: `lines` keeps everything else, so that joining the lines with line
feeds gives the text back (`unlines_lines`). The *rows* of a log end at any line
break, and a break at the very end opens no further row.
-/

namespace Mender.Text

/-- The fields of a text between the separators `sep`; a text without separator
    is one field. -/
def fields (sep : Char) : List Char → List (List Char)
  | [] => [[]]
  | c :: s =>
    if c = sep then [] :: fields sep s
    else
      match fields sep s with
      | [] => [[c]]
      | f :: fs => (c :: f) :: fs

/-- The parts written one after another with `sep` between them. -/
def joined (sep : List Char) : List (List Char) → List Char
  | [] => []
  | [f] => f
  | f :: fs => f ++ sep ++ joined sep fs

/-- A text has at least one field. -/
theorem fields_ne_nil (sep : Char) (s : List Char) : fields sep s ≠ [] := by
  induction s with
  | nil => simp [fields]
  | cons c s ih =>
    simp only [fields]
    split
    · simp
    · split <;> simp

/-- The fields with their separators between them are the text. -/
theorem joined_fields (sep : Char) (s : List Char) : joined [sep] (fields sep s) = s := by
  induction s with
  | nil => rfl
  | cons c s ih =>
    simp only [fields]
    cases hf : fields sep s with
    | nil => exact absurd hf (fields_ne_nil sep s)
    | cons f fs =>
      rw [hf] at ih
      split
      · next h => simp [joined, ih, h]
      · cases fs with
        | nil => simpa [joined] using ih
        | cons g gs => simp [joined, List.append_assoc, ← ih]

/-- A field holds no separator. -/
theorem not_mem_of_mem_fields {sep : Char} {s f : List Char} (h : f ∈ fields sep s) : sep ∉ f := by
  induction s generalizing f with
  | nil => simp_all [fields]
  | cons c s ih =>
    simp only [fields] at h
    split at h
    · rcases List.mem_cons.1 h with rfl | h
      · simp
      · exact ih h
    · next hc =>
      cases hs : fields sep s with
      | nil => exact absurd hs (fields_ne_nil sep s)
      | cons g gs =>
        rw [hs] at h ih
        rcases List.mem_cons.1 h with rfl | h
        · have := ih (f := g) List.mem_cons_self
          simp [Ne.symm hc, this]
        · exact ih (List.mem_cons_of_mem _ h)

theorem fields_append {sep : Char} {f : List Char} (h : sep ∉ f) (s : List Char) :
    fields sep (f ++ sep :: s) = f :: fields sep s := by
  induction f with
  | nil => simp [fields]
  | cons c f ih =>
    simp only [List.mem_cons, not_or] at h
    simp [fields, Ne.symm h.1, ih h.2]

theorem fields_of_not_mem {sep : Char} {f : List Char} (h : sep ∉ f) : fields sep f = [f] := by
  induction f with
  | nil => rfl
  | cons c f ih =>
    simp only [List.mem_cons, not_or] at h
    simp [fields, Ne.symm h.1, ih h.2]

/-- Parts without separator are the fields of the text that they make up. -/
theorem fields_joined {sep : Char} {fs : List (List Char)} (hne : fs ≠ [])
    (h : ∀ f ∈ fs, sep ∉ f) : fields sep (joined [sep] fs) = fs := by
  induction fs with
  | nil => exact absurd rfl hne
  | cons f fs ih =>
    have hf : sep ∉ f := h f List.mem_cons_self
    cases fs with
    | nil => exact fields_of_not_mem hf
    | cons g gs =>
      have hj : joined [sep] (f :: g :: gs) = f ++ sep :: joined [sep] (g :: gs) := by
        simp [joined]
      rw [hj, fields_append hf,
        ih (List.cons_ne_nil _ _) fun f hf => h f (List.mem_cons_of_mem _ hf)]

/-- The lines of a text, which line feeds separate. -/
def lines (s : List Char) : List (List Char) := fields '\n' s

/-- The text of the given lines. -/
def unlines (ls : List (List Char)) : List Char := joined ['\n'] ls

/-- The lines make up the text. -/
theorem unlines_lines (s : List Char) : unlines (lines s) = s := joined_fields '\n' s

/-- A character that ends a row: a line feed, a carriage return, a vertical
    tab, a form feed, one of three information separators, or one of the line
    breaks U+0085, U+2028 and U+2029. -/
def isRowBreak (c : Char) : Bool :=
  let n := c.toNat
  (10 ≤ n && n ≤ 13) || (0x1c ≤ n && n ≤ 0x1e) || n == 0x85 || n == 0x2028 || n == 0x2029

/-- The rows of a text. A carriage return and a line feed in a row are one
    break. -/
def rows : List Char → List (List Char)
  | [] => []
  | '\r' :: '\n' :: s => [] :: rows s
  | c :: s =>
    if isRowBreak c then [] :: rows s
    else
      match rows s with
      | [] => [[c]]
      | r :: rs => (c :: r) :: rs

/-- The text with every carriage return, alone or before a line feed, turned
    into a line feed. -/
def unixBreaks : List Char → List Char
  | [] => []
  | '\r' :: '\n' :: s => '\n' :: unixBreaks s
  | c :: s => (if c = '\r' then '\n' else c) :: unixBreaks s

/-- One of the lines changed, counted from 1; a number that names no line
    changes nothing. -/
def modifyLine (n : Int) (f : List Char → List Char) (s : List Char) : List Char :=
  if n < 1 then s else unlines ((lines s).modify (n - 1).toNat f)

end Mender.Text
