import Mender.Proofs.BuildLog.Attribution
import Mender.Proofs.Text.Lines

/-!
# Parts with a blank line between them

A blank line ends all that stands above it: the block of a header ends there, and a location has
no message on it. So lines above a blank one are read as if there were nothing below
(`IsBlankFirst.readLines_append`), and a log is read part by part if its parts have a blank line
between them (`read_append_blank`).

Where the first part ends in a carriage return, the line feed behind it belongs to the same
break (`rows_append_newline_cases`). Two line feeds are therefore enough for a blank line in any
case.
-/

namespace Mender

open Text

namespace Text

/-- A line feed ends the row that stands open before it. If none does, it makes an empty one,
    unless it belongs to the break of a carriage return. -/
theorem rows_append_newline_cases (s t : List Char) :
    rows (s ++ '\n' :: t) = rows s ++ rows t ∨ rows (s ++ '\n' :: t) = rows s ++ [] :: rows t := by
  fun_induction rows s with
  | case1 => exact .inr (rows_append_newline isUnbroken_nil t)
  | case2 s ih =>
    rw [List.cons_append, List.cons_append, rows]
    exact ih.imp (congrArg ([] :: ·)) (congrArg ([] :: ·))
  | case3 c s hpair hbreak ih =>
    -- A carriage return right before the line feed is the one place where two breaks become one.
    by_cases hseam : c = '\r' ∧ s = []
    · obtain ⟨rfl, rfl⟩ := hseam
      exact .inl rfl
    · have hstep : rows (c :: (s ++ '\n' :: t)) = [] :: rows (s ++ '\n' :: t) := by
        rw [rows, if_pos hbreak]
        intro u hc hs
        cases s with
        | nil => exact hseam ⟨hc, rfl⟩
        | cons d s => exact hpair s hc (congrArg (· :: s) (List.cons.inj hs).1)
      rw [List.cons_append, hstep]
      exact ih.imp (congrArg ([] :: ·)) (congrArg ([] :: ·))
  | case4 c s hpair hopen hs ih =>
    obtain rfl : s = [] := by
      by_contra hne
      exact rows_ne_nil hne hs
    have hc : IsUnbroken [c] := by simpa [IsUnbroken] using hopen
    exact .inl (rows_append_newline hc t)
  | case5 c s hpair hopen r rs hs ih =>
    rw [List.cons_append, rows_cons (by simpa using hopen)]
    rw [hs] at ih
    rcases ih with h | h <;> rw [h]
    · exact .inl rfl
    · exact .inr rfl

/-- Two line feeds leave an empty row behind the rows in front of them. Another one stands there
    where the first of the two ended no row. -/
theorem rows_append_blank (s t : List Char) :
    rows (s ++ '\n' :: '\n' :: t) = rows s ++ [] :: rows t ∨
      rows (s ++ '\n' :: '\n' :: t) = rows s ++ [] :: [] :: rows t := by
  have h := rows_append_newline_cases s ('\n' :: t)
  rwa [show rows ('\n' :: t) = [] :: rows t from rows_append_newline isUnbroken_nil t] at h

end Text

namespace BuildLog

variable {below : List (List Char)}

/-- There is a blank line at the top, if there is any line. -/
def IsBlankFirst (ls : List (List Char)) : Prop := ∀ l ∈ ls.head?, allBlank l = true

namespace IsBlankFirst

theorem take (h : IsBlankFirst below) (n : Nat) : IsBlankFirst (below.take n) := by
  intro l hl
  rw [List.head?_take] at hl
  split at hl
  · simp at hl
  · exact h l hl

/-- The block of a header does not reach over a blank line. -/
theorem blockDetails?_append (h : IsBlankFirst below) (file : List Char)
    (ls : List (List Char)) : blockDetails? file (ls ++ below) = blockDetails? file ls := by
  induction ls with
  | nil =>
    cases below with
    | nil => rfl
    | cons l below => exact blockDetails?_of_endsBlock (.inl (h l rfl))
  | cons l ls ih => rw [List.cons_append, blockDetails?, blockDetails?, ih]

/-- The message of a location does not stand below a blank line. -/
theorem typeErrorAt?_append (h : IsBlankFirst below) (file line column : List Char)
    (ls : List (List Char)) :
    typeErrorAt? file line column (ls ++ below) = typeErrorAt? file line column ls := by
  cases ls with
  | nil =>
    cases below with
    | nil => rfl
    | cons l below =>
      have hnil : trimStart l = [] := trimStart_eq_iff.2 ⟨l, by simp, h l rfl, nofun⟩
      have hnone : typeError? l = none := by
        rw [typeError?, hnil]
        rfl
      simp [typeErrorAt?, hnone]
  | cons l ls => rfl

theorem openedBy_append (h : IsBlankFirst below) (l : List Char) (ls : List (List Char)) :
    openedBy l (ls ++ below) = openedBy l ls := by
  have hblock (file : List Char) :
      blockDetails? file ((ls ++ below).take lookahead) =
        blockDetails? file (ls.take lookahead) := by
    rw [List.take_append, (h.take _).blockDetails?_append]
  rw [openedBy, openedBy]
  cases Line.ofText l with
  | header file => simp only [hblock]
  | location file line column => simp only [h.typeErrorAt?_append]
  | _ => rfl

/-- Lines above a blank one are read as if the log ended there. -/
theorem readLines_append (h : IsBlankFirst below) (ls : List (List Char)) :
    readLines (ls ++ below) = readLines ls ++ readLines below := by
  induction ls with
  | nil => rfl
  | cons l ls ih =>
    rw [List.cons_append, readLines, readLines, h.openedBy_append, ih, List.append_assoc]

end IsBlankFirst

/-- One line alone opens nothing. -/
theorem readLines_singleton (l : List Char) : readLines [l] = [] := by
  rw [readLines, openedBy]
  cases Line.ofText l <;> rfl

theorem readLines_nil_cons (ls : List (List Char)) : readLines ([] :: ls) = readLines ls := by
  rw [readLines, openedBy, Line.ofText_eq_iff.2 (.blank rfl)]
  rfl

/-- An empty line parts the lines above it from those below it. -/
theorem readLines_append_nil_cons (ls ms : List (List Char)) :
    readLines (ls ++ [] :: ms) = readLines ls ++ readLines ms := by
  have hfirst : IsBlankFirst ([] :: ms) := by simp [IsBlankFirst]
  rw [hfirst.readLines_append, readLines_nil_cons]

/-- Two parts with a blank line between them are read one after the other, wherever the first of
    them breaks off. -/
theorem read_append_blank (a b : String) : read (a ++ "\n\n" ++ b) = read a ++ read b := by
  have htext : (a ++ "\n\n" ++ b).toList = a.toList ++ '\n' :: '\n' :: b.toList := by
    simp [String.toList_append]
  -- One or two empty lines stand between the parts, and neither opens anything.
  have hempty : clean [] = [] := rfl
  rw [read, read, read, cleanLines, cleanLines, cleanLines, htext]
  rcases rows_append_blank a.toList b.toList with hrows | hrows
  · rw [hrows, List.map_append, List.map_cons, hempty, readLines_append_nil_cons]
  · rw [hrows, List.map_append, List.map_cons, List.map_cons, hempty, readLines_append_nil_cons,
      readLines_nil_cons]

/-- One line feed is not enough behind a carriage return. -/
example :
    read ("a.ts\r" ++ "\n" ++ "1:1  Error: m  r") ≠ read "a.ts\r" ++ read "1:1  Error: m  r" := by
  decide +kernel

end BuildLog

end Mender
