import Mathlib.Data.List.DropRight
import Mender.Build.Process
import Mender.Proofs.BuildLog.Printing
import Mender.Proofs.Text.Utf8

/-!
# Logs of two streams

A build writes to two streams, and its output is what it wrote to the second right behind what
it wrote to the first. A log that is continued keeps what it reports: the block of a header only
grows (`blockDetails?_append`), and what stands above a line does not change what it opens. So
the diagnostics of either stream are diagnostics of the output (`sublist_read_run`).

The exception is the *seam*. Without a line break there, the last line of the first stream and
the first line of the second are one line, and what either of them had to say is lost unless that
line is still the same (`IsTight`). A line break on either side of the seam is enough
(`isTight_of_getLast?`, `isTight_of_head?`).
-/

namespace Mender

open Text

namespace BuildLog

/-! ## Lines below others -/

variable {ls ms us : List (List Char)} {l s t : List Char}

/-- All details have numbers that can be read. -/
def AllShort (ls : List (List Char)) : Prop := ∀ l ∈ ls, ∀ d, IsDetail l d → d.IsShort

theorem allShort_iff :
    AllShort ls ↔ ∀ l ∈ ls, ∀ d ∈ Detail.ofText? l, d.line.length ≤ maxDigits ∧
      d.column.length ≤ maxDigits := by
  simp only [Option.mem_def, Detail.ofText?_eq_some_iff]
  rfl

instance (ls : List (List Char)) : Decidable (AllShort ls) := decidable_of_iff _ allShort_iff.symm

theorem allShort_cons : AllShort (l :: ls) ↔ (∀ d, IsDetail l d → d.IsShort) ∧ AllShort ls :=
  List.forall_mem_cons

theorem AllShort.of_subset (h : AllShort ms) (hsub : ls ⊆ ms) : AllShort ls :=
  fun l hl => h l (hsub hl)

theorem AllShort.isShort_of_isDetailIn {j : Nat} {d : Detail} (h : AllShort ls)
    (hd : IsDetailIn ls j d) : d.IsShort := by
  obtain ⟨⟨l, hl, hd⟩, -⟩ := hd
  exact h l (List.mem_of_getElem? hl) d hd

/-- More lines below a header can only bring more details. -/
theorem blockDetails?_append (file : List Char) (h : AllShort (ls ++ ms)) :
    ∃ dgs dgs', blockDetails? file ls = some dgs ∧
      blockDetails? file (ls ++ ms) = some (dgs ++ dgs') := by
  induction ls with
  | nil =>
    obtain ⟨dgs, hdgs, -⟩ := exists_blockDetails? file fun _ _ hd => h.isShort_of_isDetailIn hd
    exact ⟨[], dgs, rfl, hdgs⟩
  | cons l ls ih =>
    rw [List.cons_append, allShort_cons] at h
    obtain ⟨dgs, dgs', hdgs, hdgs'⟩ := ih h.2
    rw [List.cons_append]
    by_cases hend : EndsBlock l
    · exact ⟨[], [], blockDetails?_of_endsBlock hend, blockDetails?_of_endsBlock hend⟩
    by_cases hdetail : ∃ d, IsDetail l d
    · obtain ⟨d, hd⟩ := hdetail
      refine ⟨d.diagnostic file :: dgs, dgs', ?_, ?_⟩
      · simp [blockDetails?_of_isDetail hd, Detail.diagnostic?_eq_some (h.1 d hd), hdgs]
      · simp [blockDetails?_of_isDetail hd, Detail.diagnostic?_eq_some (h.1 d hd), hdgs']
    · rw [blockDetails?_of_other hend (not_exists.1 hdetail),
        blockDetails?_of_other hend (not_exists.1 hdetail)]
      exact ⟨dgs, dgs', hdgs, hdgs'⟩

theorem openedBy_prefix (h : AllShort (ls ++ ms)) (l : List Char) :
    openedBy l ls <+: openedBy l (ls ++ ms) := by
  rw [openedBy, openedBy]
  cases Line.ofText l with
  | header file =>
    have hnear : AllShort (ls.take lookahead ++ ms.take (lookahead - ls.length)) := by
      rw [← List.take_append]
      exact h.of_subset (List.take_subset _ _)
    obtain ⟨dgs, dgs', hdgs, hdgs'⟩ := blockDetails?_append file hnear
    simp only [List.take_append, hdgs, hdgs', Option.getD_some]
    exact List.prefix_append _ _
  | location file line column =>
    cases ls with
    | nil => exact List.nil_prefix
    | cons l ls => exact List.prefix_rfl
  | _ => exact List.prefix_rfl

theorem read_ofList (s : List Char) : read (String.ofList s) = readLines (cleanLines s) := by
  rw [read, String.toList_ofList]

/-- Of two logs, the second begins with lines that the first one ends with, and that open
    nothing there. In one log, all is read that is read in either. -/
theorem sublist_readLines_append (hshort : AllShort (ls ++ ms)) (hus : us <+: ms)
    (hnone : readLines us = []) :
    (readLines (ls ++ us) ++ readLines ms).Sublist (readLines (ls ++ ms)) := by
  induction ls with
  | nil => simp [hnone]
  | cons l ls ih =>
    rw [List.cons_append, allShort_cons] at hshort
    obtain ⟨ms', rfl⟩ := hus
    have hopened : openedBy l (ls ++ us) <+: openedBy l (ls ++ (us ++ ms')) := by
      rw [← List.append_assoc]
      exact openedBy_prefix (by simpa using hshort.2) l
    rw [List.cons_append, List.cons_append, readLines, readLines, List.append_assoc]
    exact hopened.sublist.append (ih hshort.2)

/-! ## The seam -/

/-- A text up to its last line break. -/
def closedPart (s : List Char) : List Char := s.rdropWhile (!isRowBreak ·)

/-- The last line of a text, empty if a line break ends the text. -/
def openEnd (s : List Char) : List Char := s.rtakeWhile (!isRowBreak ·)

/-- The first line of a text. -/
def firstLine (s : List Char) : List Char := s.takeWhile (!isRowBreak ·)

/-- A text from its first line break on. -/
def belowFirst (s : List Char) : List Char := s.dropWhile (!isRowBreak ·)

/-- The line in which two texts meet. -/
def seam (s t : List Char) : List Char := clean (openEnd s ++ firstLine t)

/-- The line in which two texts meet is the last line of the first text, unless that text reports
    as much without it, and likewise the first line of the second text. -/
structure IsTight (s t : List Char) : Prop where
  last : seam s t = clean (openEnd s) ∨
    read (String.ofList s) = read (String.ofList (closedPart s))
  first : seam s t = clean (firstLine t) ∨
    read (String.ofList t) = read (String.ofList (belowFirst t))

theorem closedPart_append_openEnd (s : List Char) : closedPart s ++ openEnd s = s :=
  List.rdropWhile_append_rtakeWhile

theorem firstLine_append_belowFirst (s : List Char) : firstLine s ++ belowFirst s = s :=
  List.takeWhile_append_dropWhile

theorem isRowBreak_getLast?_closedPart (s : List Char) :
    ∀ c ∈ (closedPart s).getLast?, isRowBreak c = true := by
  intro c hc
  obtain ⟨hne, rfl⟩ := List.mem_getLast?_eq_getLast hc
  simpa [closedPart] using List.rdropWhile_last_not _ _ hne

theorem isRowBreak_head?_belowFirst (s : List Char) :
    ∀ c ∈ (belowFirst s).head?, isRowBreak c = true := by
  intro c hc
  have hnot := List.head?_dropWhile_not (!isRowBreak ·) s
  rw [belowFirst] at hc
  rw [Option.mem_def.1 hc] at hnot
  simpa using hnot

theorem isUnbroken_openEnd (s : List Char) : IsUnbroken (openEnd s) := fun _ hc => by
  simpa using List.mem_rtakeWhile_imp hc

theorem isUnbroken_firstLine (s : List Char) : IsUnbroken (firstLine s) := fun _ hc => by
  simpa using List.mem_takeWhile_imp hc

theorem return_not_mem_belowFirst (h : '\r' ∉ s) : '\r' ∉ belowFirst s := fun hmem =>
  h ((List.dropWhile_suffix _).subset hmem)

/-- A text that ends in a line break, or an empty one, may go in front of any other. -/
theorem isTight_of_getLast? (h : ∀ c ∈ s.getLast?, isRowBreak c = true) (t : List Char) :
    IsTight s t := by
  have hopen : openEnd s = [] := by
    rw [openEnd, List.rtakeWhile_eq_nil_iff]
    intro hne
    simp [h _ (List.getLast?_eq_getLast_of_ne_nil hne)]
  have hclosed : closedPart s = s := by
    have hwhole := closedPart_append_openEnd s
    rwa [hopen, List.append_nil] at hwhole
  refine ⟨.inr (by rw [hclosed]), .inl ?_⟩
  rw [seam, hopen, List.nil_append]

/-- A text that begins with a line break, or an empty one, may go behind any other. -/
theorem isTight_of_head? (s : List Char) (h : ∀ c ∈ t.head?, isRowBreak c = true) :
    IsTight s t := by
  have hfirst : firstLine t = [] := by
    cases t with
    | nil => rfl
    | cons c t => exact List.takeWhile_cons_of_neg (by simp [h c rfl])
  have hbelow : belowFirst t = t := by
    have hwhole := firstLine_append_belowFirst t
    rwa [hfirst, List.nil_append] at hwhole
  refine ⟨.inl ?_, .inr (by rw [hbelow])⟩
  rw [seam, hfirst, List.append_nil]

/-! ## Texts in a row -/

/-- The first text keeps its lines, but for the last one. -/
theorem cleanLines_append (hs : '\r' ∉ s) (t : List Char) :
    cleanLines (s ++ t) = cleanLines (closedPart s) ++ cleanLines (openEnd s ++ t) := by
  have hclosed : '\r' ∉ closedPart s := fun h => hs ((List.rdropWhile_prefix _ s).subset h)
  rw [← closedPart_append_openEnd s, List.append_assoc, cleanLines,
    rows_append hclosed (isRowBreak_getLast?_closedPart s), List.map_append,
    closedPart_append_openEnd]
  rfl

/-- The second text keeps its lines, but for the first one. -/
theorem cleanLines_openEnd_append (ht : '\r' ∉ t) (hne : openEnd s ++ t ≠ []) :
    cleanLines (openEnd s ++ t) = seam s t :: (cleanLines (belowFirst t)).tail := by
  have hunbroken : IsUnbroken (openEnd s ++ firstLine t) :=
    isUnbroken_append.2 ⟨isUnbroken_openEnd s, isUnbroken_firstLine t⟩
  rw [← firstLine_append_belowFirst t, ← List.append_assoc] at hne ⊢
  rw [cleanLines, rows_append_eq_cons hunbroken (isRowBreak_head?_belowFirst t)
    (return_not_mem_belowFirst ht) hne, List.map_cons, List.map_tail, firstLine_append_belowFirst]
  rfl

/-- The empty line in front of a line break opens nothing. -/
theorem readLines_belowFirst (ht : '\r' ∉ t) :
    readLines (cleanLines (belowFirst t)) = readLines (cleanLines (belowFirst t)).tail := by
  have hbelow := return_not_mem_belowFirst ht
  have hhead := isRowBreak_head?_belowFirst t
  generalize belowFirst t = r at hbelow hhead ⊢
  cases r with
  | nil => rfl
  | cons c r =>
    rw [List.mem_cons, not_or] at hbelow
    rw [cleanLines, rows_cons_of_isRowBreak (hhead c rfl) hbelow.1]
    exact readLines_nil_cons _

/-- What the first text reports comes from the lines that it still has in front of the second. -/
theorem exists_kept (hs : '\r' ∉ s) (rest : List (List Char))
    (h : seam s t = clean (openEnd s) ∨
      read (String.ofList s) = read (String.ofList (closedPart s))) :
    ∃ us, us <+: seam s t :: rest ∧ readLines us = [] ∧
      read (String.ofList s) = readLines (cleanLines (closedPart s) ++ us) := by
  simp only [read_ofList] at h ⊢
  have hlines := cleanLines_append hs []
  rw [List.append_nil, List.append_nil] at hlines
  by_cases hopen : openEnd s = []
  · exact ⟨[], List.nil_prefix, rfl, by rw [hlines, hopen]; rfl⟩
  rcases h with h | h
  · have hlast : cleanLines (openEnd s) = [clean (openEnd s)] := by
      rw [cleanLines, rows_of_isUnbroken (isUnbroken_openEnd s) hopen]
      rfl
    rw [h, hlines, hlast]
    exact ⟨_, List.prefix_append [_] rest, readLines_singleton _, rfl⟩
  · exact ⟨[], List.nil_prefix, rfl, by rw [h, List.append_nil]⟩

/-- What the second text reports is opened by lines that it still has behind the first. -/
theorem sublist_readLines_seam (ht : '\r' ∉ t)
    (h : seam s t = clean (firstLine t) ∨
      read (String.ofList t) = read (String.ofList (belowFirst t))) :
    (read (String.ofList t)).Sublist
      (readLines (seam s t :: (cleanLines (belowFirst t)).tail)) := by
  simp only [read_ofList] at h ⊢
  rcases h with h | h
  · by_cases hnil : t = []
    · subst hnil
      exact List.nil_sublist _
    · have hlines : cleanLines t = clean (firstLine t) :: (cleanLines (belowFirst t)).tail :=
        cleanLines_openEnd_append (s := []) ht hnil
      rw [h, hlines]
  · rw [h, readLines_belowFirst ht, readLines]
    exact List.sublist_append_right _ _

/-- All is read in two texts in a row that is read in either, if nothing is lost where they meet. -/
theorem sublist_read_append (hs : '\r' ∉ s) (ht : '\r' ∉ t)
    (hshort : AllShort (cleanLines (s ++ t))) (h : IsTight s t) :
    (read (String.ofList s) ++ read (String.ofList t)).Sublist
      (read (String.ofList (s ++ t))) := by
  by_cases hnil : openEnd s ++ t = []
  · rw [List.append_eq_nil_iff] at hnil
    obtain rfl : t = [] := hnil.2
    have hread : read (String.ofList []) = [] := rfl
    rw [hread, List.append_nil, List.append_nil]
  · have hlines : cleanLines (s ++ t) = cleanLines (closedPart s) ++
        seam s t :: (cleanLines (belowFirst t)).tail := by
      rw [cleanLines_append hs, cleanLines_openEnd_append ht hnil]
    obtain ⟨us, hus, hnone, hread⟩ := exists_kept hs (cleanLines (belowFirst t)).tail h.last
    have hsecond := sublist_readLines_seam ht h.first
    rw [hlines] at hshort
    have hjoined := sublist_readLines_append hshort hus hnone
    rw [hread, read_ofList (s ++ t), hlines]
    exact ((List.Sublist.refl _).append hsecond).trans hjoined

end BuildLog

/-! ## Processes that end -/

namespace Build

variable {stdout stderr : Bytes} {exitCode : Int} {attempts : Nat} {p : Processes}

/-- When a process is started at most so many times, one of them ends. -/
inductive Ends (stdout stderr : Bytes) (exitCode : Int) : (attempts : Nat) → Script Launch → Prop
  | now {attempts : Nat} {launches : Script Launch} :
      launches.take.1 = .ended stdout stderr exitCode →
      Ends stdout stderr exitCode (attempts + 1) launches
  | later {attempts : Nat} {launches : Script Launch} {why : String} :
      launches.take.1 = .refused why → Ends stdout stderr exitCode attempts launches.take.2 →
      Ends stdout stderr exitCode (attempts + 1) launches

theorem Command.attempt_of_ends (c : Command) (error : String)
    (h : Ends stdout stderr exitCode attempts p.launches) :
    (c.attempt attempts error p).1 = .returned (.ofEnd stdout stderr exitCode) := by
  generalize hl : p.launches = launches at h
  induction h generalizing p error with
  | now hend => simp only [attempt, hl, hend]
  | later hrefused _ ih =>
    simp only [attempt, hl, hrefused]
    exact ih _ rfl

theorem Command.output_run (c : Command) {retries : Int}
    (h : Ends stdout stderr exitCode (retries + 1).toNat p.launches) :
    (c.run retries p).1.output = String.ofList (outputText stdout ++ outputText stderr) := by
  rw [run, c.attempt_of_ends "" h]
  rfl

theorem outputText_encode (s : List Char) : outputText (Utf8.encode s) = unixBreaks s := by
  rw [outputText, Utf8.decodeLossy_encode]

end Build

namespace BuildLog

open Build

/-- When the process of a build ends, the diagnostics in its output include those in what it wrote
    to either stream, in their order, if nothing is lost where the streams meet. -/
theorem sublist_read_run (c : Command) {retries : Int} {p : Processes} {stdout stderr : Bytes}
    {exitCode : Int} (hend : Ends stdout stderr exitCode (retries + 1).toNat p.launches)
    (hshort : AllShort (cleanLines (c.run retries p).1.output.toList))
    (htight : IsTight (outputText stdout) (outputText stderr)) :
    (read (String.ofList (outputText stdout)) ++ read (String.ofList (outputText stderr))).Sublist
      (read (c.run retries p).1.output) := by
  rw [c.output_run hend, String.toList_ofList] at hshort
  rw [c.output_run hend]
  exact sublist_read_append (return_not_mem_unixBreaks _) (return_not_mem_unixBreaks _) hshort
    htight

/-- The first stream has no line break behind its last line, but reports nothing there. -/
theorem sublist_read_run_unended :
    let stdout := Utf8.encode "a.ts\n1:1  Error: m  r\n\nDone".toList
    let stderr := Utf8.encode " in 2s\nb.ts:1:8\nType error: n\n".toList
    let ended := Launch.ended stdout stderr 1
    let p := Processes.ofScript (.ofList ended [.refused "busy", ended])
    [⟨"a.ts", 1, 1, "m", some "r", .error, .lint⟩,
      ⟨"b.ts", 1, 8, "n", none, .error, .typeChecker⟩].Sublist
      (read ((⟨"build", "site", 9⟩ : Command).run 1 p).1.output) := by
  intro stdout stderr ended p
  have hend : Ends stdout stderr 1 ((1 : Int) + 1).toNat p.launches := .later rfl (.now rfl)
  have hshort : AllShort
      (cleanLines ((⟨"build", "site", 9⟩ : Command).run 1 p).1.output.toList) := by
    rw [Command.output_run _ hend, outputText_encode, outputText_encode]
    decide +kernel
  have htight : IsTight (outputText stdout) (outputText stderr) := by
    rw [outputText_encode, outputText_encode]
    exact ⟨.inr (by decide +kernel), .inr (by decide +kernel)⟩
  have hsublist := sublist_read_run _ hend hshort htight
  rw [outputText_encode, outputText_encode] at hsublist
  have hread : read (String.ofList (unixBreaks "a.ts\n1:1  Error: m  r\n\nDone".toList)) ++
      read (String.ofList (unixBreaks " in 2s\nb.ts:1:8\nType error: n\n".toList)) =
        [⟨"a.ts", 1, 1, "m", some "r", .error, .lint⟩,
          ⟨"b.ts", 1, 8, "n", none, .error, .typeChecker⟩] := by decide +kernel
  rwa [hread] at hsublist

/-- A word of the second stream becomes a part of a rule, and one of the first a part of a path. -/
theorem renamed_at_seam :
    let output (stdout stderr : String) :=
      ((⟨"build", "site", 9⟩ : Command).run 0 (.ofScript (.always
        (.ended (Utf8.encode stdout.toList) (Utf8.encode stderr.toList) 1)))).1.output
    let d : Diagnostic := ⟨"a.ts", 1, 1, "m", some "r", .error, .lint⟩
    d ∈ read "a.ts\n1:1  Error: m  r" ∧
      read (output "a.ts\n1:1  Error: m  r" "x\n") = [{ d with ruleId := some "rx" }] ∧
      read (output "Done" "a.ts\n1:1  Error: m  r") = [{ d with file := "Donea.ts" }] := by
  intro output d
  have houtput (stdout stderr : String) : output stdout stderr =
      String.ofList (unixBreaks stdout.toList ++ unixBreaks stderr.toList) := by
    rw [← outputText_encode, ← outputText_encode]
    exact Command.output_run _ (.now rfl)
  simp only [houtput]
  decide +kernel

end BuildLog

end Mender
