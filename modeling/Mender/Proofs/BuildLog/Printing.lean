import Mender.Proofs.BuildLog.BlankLines
import Mender.Proofs.Text.Numeral

/-!
# Logs that are printed and read back

What linters and type checkers report is printed in blocks with a blank line between two of
them (`print`), and reading the log gives the same diagnostics in the same order
(`read_print`). A message is any text on one line: it may look like a path, a location or
the name of a rule. What keeps it from being taken for one is that the rule is the last word
of its line, and that the line below a block is blank.
-/

namespace Mender.BuildLog

open Text

/-! ## What is printed -/

/-- A text on one line, without colours. -/
def IsPlain (s : List Char) : Prop := ∀ c ∈ s, isRowBreak c = false ∧ c ≠ '\x1b'

instance (s : List Char) : Decidable (IsPlain s) :=
  List.decidableBAll (fun c => isRowBreak c = false ∧ c ≠ '\x1b') s

/-- A number in decimal digits. -/
def numeral (n : Nat) : List Char := (toString n).toList

/-- A problem that a linter reports in a file. -/
structure Finding where
  line : Nat
  column : Nat
  severity : Severity
  message : List Char
  rule : List Char
  isShort_line : IsShort (numeral line)
  isShort_column : IsShort (numeral column)
  message_ne_nil : message ≠ []
  message_trimmed : Trimmed message
  message_isPlain : IsPlain message
  isRuleName_rule : IsRuleName rule

/-- The problems that a linter reports in a file, no more than are read below one header. -/
structure LintBlock where
  file : List Char
  findings : List Finding
  isSourcePath_file : IsSourcePath file
  file_isPlain : IsPlain file
  findings_ne_nil : findings ≠ []
  length_le : findings.length ≤ lookahead

/-- A problem that a type checker reports. -/
structure TypeBlock where
  file : List Char
  line : Nat
  column : Nat
  message : List Char
  isSourcePath_file : IsSourcePath file
  file_isPlain : IsPlain file
  isShort_line : IsShort (numeral line)
  isShort_column : IsShort (numeral column)
  message_trimmed : Trimmed message
  message_isPlain : IsPlain message

/-- What a build reports at once. -/
inductive Block
  | lint (b : LintBlock)
  | typeError (b : TypeBlock)

namespace Finding

/-- The line that reports a problem below the header of its file. -/
def row (f : Finding) : List Char :=
  numeral f.line ++ ':' :: numeral f.column ++ "  ".toList ++ heading f.severity ++ ": ".toList
    ++ f.message ++ "  ".toList ++ f.rule

/-- The diagnostic that is printed. -/
def diagnostic (file : List Char) (f : Finding) : Diagnostic :=
  ⟨String.ofList file, f.line, f.column, String.ofList f.message, some (String.ofList f.rule),
    f.severity, .lint⟩

end Finding

namespace TypeBlock

/-- The line that gives the place of a problem. -/
def location (b : TypeBlock) : List Char :=
  b.file ++ ':' :: numeral b.line ++ ':' :: numeral b.column

/-- The line with the message. -/
def complaint (b : TypeBlock) : List Char := "Type error:".toList ++ ' ' :: b.message

end TypeBlock

namespace Block

/-- The lines of a block. -/
def rows : Block → List (List Char)
  | lint b => b.file :: b.findings.map Finding.row
  | typeError b => [b.location, b.complaint]

/-- The diagnostics of a block. -/
def diagnostics : Block → List Diagnostic
  | lint b => b.findings.map (Finding.diagnostic b.file)
  | typeError b =>
    [⟨String.ofList b.file, b.line, b.column, String.ofList b.message, none, .error, .typeChecker⟩]

end Block

/-- The lines of a log, a blank one between two blocks. -/
def printedRows : List Block → List (List Char)
  | [] => []
  | [b] => b.rows
  | b :: b' :: bs => b.rows ++ [] :: printedRows (b' :: bs)

/-- A log that reports the blocks. -/
def print (bs : List Block) : String := String.ofList (unlines (printedRows bs))

/-! ## Numbers -/

theorem isDigit_of_mem_numeral {n : Nat} {c : Char} (hc : c ∈ numeral n) : c.isDigit = true :=
  isDigit_of_mem_toString hc

theorem isNumeral_numeral (n : Nat) : IsNumeral (numeral n) := by
  constructor
  · exact toList_toString_ne_nil n
  · intro c hc
    simp [isDigit, digitValue?_of_isDigit (isDigit_of_mem_numeral hc)]

/-- A number is read as it is printed. -/
@[simp]
theorem natural_numeral (n : Nat) : natural (numeral n) = n := natural_toString n

/-! ## Lines as they are printed -/

section

variable {s t : List Char} {c : Char}

@[simp]
theorem isPlain_cons : IsPlain (c :: s) ↔ (isRowBreak c = false ∧ c ≠ '\x1b') ∧ IsPlain s := by
  simp [IsPlain]

@[simp]
theorem isPlain_append : IsPlain (s ++ t) ↔ IsPlain s ∧ IsPlain t := List.forall_mem_append

theorem IsPlain.isUnbroken (h : IsPlain s) : IsUnbroken s := fun c hc => (h c hc).1

theorem isRowBreak_eq_false (h : isBlank c = false) : isRowBreak c = false := by
  by_contra hbreak
  simp [isBlank_of_isRowBreak (by simpa using hbreak)] at h

theorem isPlain_numeral (n : Nat) : IsPlain (numeral n) := by
  intro c hc
  refine ⟨isRowBreak_eq_false ((isNumeral_numeral n).isBlank hc), ?_⟩
  rintro rfl
  exact absurd (isDigit_of_mem_numeral hc) (by decide)

theorem IsRuleName.isPlain (h : IsRuleName s) : IsPlain s := by
  intro c hc
  refine ⟨isRowBreak_eq_false (h.isBlank hc), ?_⟩
  rintro rfl
  have hescape : isRuleChar '\x1b' = false := by decide
  simpa [hescape] using h.of_mem hc

theorem uncoloured_eq_self (h : '\x1b' ∉ s) : uncoloured 0 s = s := by
  induction s with
  | nil => rfl
  | cons c s ih =>
    simp only [List.mem_cons, not_or] at h
    rw [uncoloured, if_neg (Ne.symm h.1), ih h.2]

theorem IsPlain.clean_eq (h : IsPlain s) : clean s = trimEnd s := by
  rw [clean, uncoloured_eq_self fun hmem => (h _ hmem).2 rfl]

/-- A line that ends in no blank is clean as it is printed. -/
theorem IsPlain.clean_eq_self (h : IsPlain s) (hlast : ∀ c ∈ s.getLast?, isBlank c = false) :
    clean s = s := by
  rw [h.clean_eq, trimEnd_eq_self hlast]

/-- A text ends in no blank if it ends in a text without blanks. -/
theorem getLast?_append_isBlank (hne : t ≠ []) (h : ∀ c ∈ t, isBlank c = false) :
    ∀ c ∈ (s ++ t).getLast?, isBlank c = false := by
  intro c hc
  rw [List.getLast?_append_of_ne_nil _ hne] at hc
  exact h c (List.mem_of_getLast? hc)

theorem IsSourcePath.getLast?_isBlank (h : IsSourcePath s) :
    ∀ c ∈ s.getLast?, isBlank c = false := by
  obtain ⟨c, stem, e, he, rfl, -⟩ := h
  exact getLast?_append_isBlank (List.cons_ne_nil _ _) fun _ => isBlank_of_mem_extension he

end

namespace Finding

variable (f : Finding)

/-- What is read in the line of a problem. -/
def detail : Detail := ⟨numeral f.line, numeral f.column, f.severity, f.message, f.rule⟩

theorem isDetail_row : IsDetail f.row f.detail := by
  have hgap : IsGap "  ".toList := ⟨by decide, by decide⟩
  have h := IsDetail.mk f.severity (isNumeral_numeral f.line) (isNumeral_numeral f.column)
    f.message_ne_nil f.isRuleName_rule allBlank_nil hgap ⟨List.cons_ne_nil ' ' [], by decide⟩ hgap
    allBlank_nil
  rw [f.message_trimmed.trim_eq] at h
  simpa [row, detail] using h

theorem isShort_detail : f.detail.IsShort := ⟨f.isShort_line, f.isShort_column⟩

theorem diagnostic_detail (file : List Char) : f.detail.diagnostic file = f.diagnostic file := by
  simp [Detail.diagnostic, detail, diagnostic]

theorem isPlain_row : IsPlain f.row := by
  have hgap : IsPlain "  ".toList := by decide
  have hcolon : isRowBreak ':' = false ∧ ':' ≠ '\x1b' := by decide
  have hmark : IsPlain ": ".toList := by decide
  have hheading : IsPlain (heading f.severity) := by
    cases f.severity <;> decide
  simp only [row, isPlain_append, isPlain_cons]
  exact ⟨⟨⟨⟨⟨⟨⟨isPlain_numeral _, hcolon, isPlain_numeral _⟩, hgap⟩, hheading⟩, hmark⟩,
    f.message_isPlain⟩, hgap⟩, f.isRuleName_rule.isPlain⟩

theorem clean_row : clean f.row = f.row :=
  f.isPlain_row.clean_eq_self
    (getLast?_append_isBlank f.isRuleName_rule.ne_nil fun _ => f.isRuleName_rule.isBlank)

end Finding

/-! ## Blocks are read -/

theorem blockDetails?_rows (file : List Char) (findings : List Finding) :
    blockDetails? file (findings.map Finding.row) =
      some (findings.map (Finding.diagnostic file)) := by
  induction findings with
  | nil => rfl
  | cons f findings ih =>
    rw [List.map_cons, blockDetails?_of_isDetail f.isDetail_row, ih,
      Detail.diagnostic?_eq_some f.isShort_detail, f.diagnostic_detail]
    rfl

/-- The findings of a block open nothing themselves. -/
theorem readLines_findings (findings : List Finding) :
    readLines (findings.map Finding.row) = [] := by
  induction findings with
  | nil => rfl
  | cons f findings ih =>
    rw [List.map_cons, readLines, openedBy, Line.ofText_eq_iff.2 (.detail f.isDetail_row), ih]
    rfl

/-- A block of a linter is read as it is printed. -/
theorem LintBlock.readLines_rows (b : LintBlock) :
    readLines ((Block.lint b).rows.map clean) = (Block.lint b).diagnostics := by
  have hrows : b.findings.map (clean ∘ Finding.row) = b.findings.map Finding.row := by
    refine List.map_congr_left fun f _ => ?_
    rw [Function.comp_apply, f.clean_row]
  have hclean : (Block.lint b).rows.map clean = b.file :: b.findings.map Finding.row := by
    rw [Block.rows, List.map_cons, List.map_map, hrows,
      b.file_isPlain.clean_eq_self b.isSourcePath_file.getLast?_isBlank]
  have htake : (b.findings.map Finding.row).take lookahead = b.findings.map Finding.row := by
    refine List.take_of_length_le ?_
    rw [List.length_map]
    exact b.length_le
  rw [hclean, readLines, readLines_findings, openedBy,
    Line.ofText_eq_iff.2 (.header b.isSourcePath_file)]
  simp only [htake, blockDetails?_rows, Option.getD_some, List.append_nil]
  rfl

namespace TypeBlock

variable (b : TypeBlock)

theorem isLocation_location :
    IsLocation b.location b.file (numeral b.line) (numeral b.column) :=
  ⟨rfl, b.isSourcePath_file, isNumeral_numeral _, isNumeral_numeral _⟩

theorem isPlain_location : IsPlain b.location := by
  have hcolon : isRowBreak ':' = false ∧ ':' ≠ '\x1b' := by decide
  simp only [location, isPlain_append, isPlain_cons]
  exact ⟨⟨b.file_isPlain, hcolon, isPlain_numeral _⟩, hcolon, isPlain_numeral _⟩

theorem clean_location : clean b.location = b.location := by
  refine b.isPlain_location.clean_eq_self
    (getLast?_append_isBlank (List.cons_ne_nil _ _) fun c hc => ?_)
  rcases List.mem_cons.1 hc with rfl | hc
  · decide
  · exact (isNumeral_numeral _).isBlank hc

theorem complaint_eq : b.complaint = "Type error:".toList ++ ' ' :: b.message := rfl

theorem isPlain_complaint : IsPlain b.complaint :=
  isPlain_append.2 ⟨by decide, isPlain_cons.2 ⟨by decide, b.message_isPlain⟩⟩

/-- The message is read whether or not the blank in front of it goes with an empty one. -/
theorem typeError?_complaint : typeError? (clean b.complaint) = some b.message := by
  have hstart (r : List Char) :
      trimStart ("Type error:".toList ++ r) = "Type error:".toList ++ r := by
    refine trimStart_eq_iff.2 ⟨[], rfl, rfl, fun c hc => ?_⟩
    obtain rfl : 'T' = c := Option.some.inj hc
    decide
  rw [b.isPlain_complaint.clean_eq, complaint_eq]
  rcases eq_or_ne b.message [] with hnil | hne
  · rw [hnil]
    decide +kernel
  · have hlast : ∀ c ∈ ("Type error:".toList ++ ' ' :: b.message).getLast?, isBlank c = false := by
      rw [List.getLast?_append_of_ne_nil _ (List.cons_ne_nil _ _), List.getLast?_cons_of_ne_nil hne]
      exact b.message_trimmed.last
    have htrim : trim (' ' :: b.message) = b.message :=
      trim_eq_iff.2 ⟨[' '], [], by simp, rfl, rfl, b.message_trimmed⟩
    rw [trimEnd_eq_self hlast, typeError?_eq_some_iff]
    exact ⟨_, hstart _, htrim.symm⟩

/-- A block of a type checker is read as it is printed. -/
theorem readLines_rows :
    readLines ((Block.typeError b).rows.map clean) = (Block.typeError b).diagnostics := by
  have herror : typeErrorAt? b.file (numeral b.line) (numeral b.column) [clean b.complaint] =
      some (typeDiagnostic b.file (numeral b.line) (numeral b.column) b.message) :=
    typeErrorAt?_eq_some_iff.2 ⟨b.isShort_line, b.isShort_column, _, _, rfl,
      b.typeError?_complaint, rfl⟩
  rw [Block.rows, List.map_cons, List.map_singleton, b.clean_location, readLines,
    readLines_singleton, openedBy, Line.ofText_eq_iff.2 (.location b.isLocation_location)]
  simp only [herror, Option.toList_some, List.append_nil, Block.diagnostics, typeDiagnostic,
    natural_numeral]

end TypeBlock

theorem Block.readLines_rows (b : Block) : readLines (b.rows.map clean) = b.diagnostics := by
  cases b with
  | lint b => exact b.readLines_rows
  | typeError b => exact b.readLines_rows

/-! ## Logs are read -/

theorem readLines_printedRows (bs : List Block) :
    readLines ((printedRows bs).map clean) = bs.flatMap Block.diagnostics := by
  have hempty : clean [] = [] := rfl
  induction bs with
  | nil => rfl
  | cons b bs ih =>
    rw [List.flatMap_cons, ← ih, ← b.readLines_rows]
    cases bs with
    | nil => simp [printedRows, readLines]
    | cons b' bs =>
      rw [printedRows, List.map_append, List.map_cons, hempty, readLines_append_nil_cons]

/-- The rows of a block are plain, and none of them is empty. -/
theorem Block.isPlain_of_mem_rows {b : Block} {l : List Char} (hl : l ∈ b.rows) :
    IsPlain l ∧ l ≠ [] := by
  cases b with
  | lint b =>
    rcases List.mem_cons.1 hl with rfl | hl
    · refine ⟨b.file_isPlain, ?_⟩
      obtain ⟨c, stem, e, -, hfile, -⟩ := b.isSourcePath_file
      simp [hfile]
    · obtain ⟨f, -, rfl⟩ := List.mem_map.1 hl
      exact ⟨f.isPlain_row, by simp [Finding.row]⟩
  | typeError b =>
    rcases List.mem_pair.1 hl with rfl | rfl
    · exact ⟨b.isPlain_location, by simp [TypeBlock.location]⟩
    · exact ⟨b.isPlain_complaint, List.append_ne_nil_of_left_ne_nil (by decide) _⟩

theorem Block.rows_ne_nil (b : Block) : b.rows ≠ [] := by
  cases b <;> simp [rows]

theorem isUnbroken_of_mem_printedRows {bs : List Block} {l : List Char}
    (hl : l ∈ printedRows bs) : IsUnbroken l := by
  induction bs with
  | nil => simp [printedRows] at hl
  | cons b bs ih =>
    cases bs with
    | nil => exact (Block.isPlain_of_mem_rows hl).1.isUnbroken
    | cons b' bs =>
      rw [printedRows, List.mem_append, List.mem_cons] at hl
      rcases hl with hl | rfl | hl
      · exact (Block.isPlain_of_mem_rows hl).1.isUnbroken
      · exact isUnbroken_nil
      · exact ih hl

theorem printedRows_ne_nil (b : Block) (bs : List Block) : printedRows (b :: bs) ≠ [] := by
  cases bs with
  | nil => exact b.rows_ne_nil
  | cons b' bs => simp [printedRows]

theorem nil_not_mem_getLast?_printedRows (bs : List Block) :
    [] ∉ (printedRows bs).getLast? := by
  induction bs with
  | nil => simp [printedRows]
  | cons b bs ih =>
    cases bs with
    | nil => exact fun h => (Block.isPlain_of_mem_rows (List.mem_of_getLast? h)).2 rfl
    | cons b' bs =>
      rwa [printedRows, List.getLast?_append_of_ne_nil _ (List.cons_ne_nil _ _),
        List.getLast?_cons_of_ne_nil (printedRows_ne_nil b' bs)]

/-- The diagnostics of a printed log are those that were printed, whether or not there is a line
    feed at its end. -/
theorem read_print (bs : List Block) :
    read (print bs) = bs.flatMap Block.diagnostics ∧
      read (print bs ++ "\n") = bs.flatMap Block.diagnostics := by
  have hunbroken : ∀ l ∈ printedRows bs, IsUnbroken l := fun _ => isUnbroken_of_mem_printedRows
  have hrows := rows_unlines hunbroken (nil_not_mem_getLast?_printedRows bs)
  constructor
  · rw [read, cleanLines, print, String.toList_ofList, hrows, readLines_printedRows]
  · cases bs with
    | nil => rfl
    | cons b bs =>
      rw [read, cleanLines, print, String.toList_append, String.toList_ofList,
        show "\n".toList = ['\n'] from rfl,
        rows_unlines_newline hunbroken (printedRows_ne_nil b bs), readLines_printedRows]

/-- A log with a block of each kind, where the message of the second looks like a header. -/
theorem read_print_both : ∃ bs : List Block,
    print bs =
        "./a.tsx\n2:18  Error: 'x' is unused.  no-unused-vars\n\nb.ts:1:8\nType error: c.ts" ∧
      read (print bs) =
        [⟨"./a.tsx", 2, 18, "'x' is unused.", some "no-unused-vars", .error, .lint⟩,
          ⟨"b.ts", 1, 8, "c.ts", none, .error, .typeChecker⟩] := by
  refine ⟨[.lint ⟨"./a.tsx".toList, [⟨2, 18, .error, "'x' is unused.".toList,
      "no-unused-vars".toList, ?_, ?_, ?_, ?_, ?_, ?_⟩], ?_, ?_, ?_, ?_⟩,
    .typeError ⟨"b.ts".toList, 1, 8, "c.ts".toList, ?_, ?_, ?_, ?_, ?_, ?_⟩], ?_, (read_print _).1⟩
  all_goals decide +kernel

end Mender.BuildLog
