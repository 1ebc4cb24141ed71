import Mender.Proofs.Repair.HeadImport
import Mender.Proofs.Repair.Line
import Mender.Proofs.Repair.SingleDeclaration

/-!
# Line ends

A file may end its lines with a carriage return and a line feed (`IsCrlf`). Lines are cut at line
feeds only, so that every line but the last has a carriage return at its end
(`isCrlf_iff_lines`), which a rule has to carry over to what it writes in the place of the line.

A rule keeps the line ends of such a file exactly if it does not write a line of its own in front
of a line feed (`Rule.CarriesReturns`, `Rule.isCrlf_apply_iff`): an empty line where an import goes
as a whole, the import of the head component, or the import that others are merged into. These
lines have no carriage return (`bare_line_feeds_written`). All else that the rules write keeps what
stands at the end of a line.
-/

namespace Mender.Repair

open Text

variable {s t l m : List Char} {ls above below : List (List Char)} {n : Int}

/-! ## Carriage returns -/

/-- Every line feed has a carriage return before it. -/
def IsCrlf (s : List Char) : Prop := ∀ a b, s = a ++ '\n' :: b → a.getLast? = some '\r'

/-- The line ends in a carriage return. -/
def EndsInReturn (l : List Char) : Prop := l.getLast? = some '\r'

instance (l : List Char) : Decidable (EndsInReturn l) :=
  inferInstanceAs (Decidable (l.getLast? = some '\r'))

/-- Every line but the last ends in a carriage return. -/
def Returned (ls : List (List Char)) : Prop := ∀ l ∈ ls.dropLast, EndsInReturn l

theorem EndsInReturn.ne_nil (h : EndsInReturn l) : l ≠ [] := by
  rintro rfl
  simp [EndsInReturn] at h

/-- How a line ends is decided by what stands last. -/
theorem endsInReturn_append (hne : l ≠ []) : EndsInReturn (s ++ l) ↔ EndsInReturn l := by
  rw [EndsInReturn, EndsInReturn, List.getLast?_append_of_ne_nil _ hne]

theorem endsInReturn_cons {c : Char} (hne : l ≠ []) : EndsInReturn (c :: l) ↔ EndsInReturn l :=
  endsInReturn_append (s := [c]) hne

/-- A line goes on behind its first character as it did before. -/
theorem EndsInReturn.cons {c : Char} (h : EndsInReturn (c :: s)) (hnil : s = [] → t = [])
    (hst : EndsInReturn s → EndsInReturn t) : EndsInReturn (c :: t) := by
  rcases eq_or_ne s [] with rfl | hs
  · rwa [hnil rfl]
  · have ht := hst ((endsInReturn_cons hs).1 h)
    exact (endsInReturn_cons ht.ne_nil).2 ht

/-- The carriage return does not stand in a beginning without one. -/
theorem EndsInReturn.of_append (h : EndsInReturn (s ++ l)) (hs : ¬EndsInReturn s) :
    EndsInReturn l := by
  rcases eq_or_ne l [] with rfl | hne
  · rw [List.append_nil] at h
    exact absurd h hs
  · exact (endsInReturn_append hne).1 h

/-- Of lines that end in a return, each one does but the last of all. -/
theorem returned_append_cons :
    Returned (above ++ l :: below) ↔
      (∀ m ∈ above, EndsInReturn m) ∧ (below ≠ [] → EndsInReturn l) ∧ Returned below := by
  rw [Returned, List.dropLast_append_cons, List.forall_mem_append]
  refine and_congr_right' ?_
  cases below with
  | nil => simp [Returned]
  | cons m below => simp [Returned]

/-- Lines that end in a return still do when some are taken out. -/
theorem Returned.sublist (h : Returned ls) {ms : List (List Char)} (hms : ms.Sublist ls) :
    Returned ms := by
  have hdrop : ms.dropLast.Sublist ls.dropLast := by
    rw [← List.reverse_sublist, ← List.tail_reverse, ← List.tail_reverse]
    exact hms.reverse.tail
  exact fun l hl => h l (hdrop.subset hl)

/-- The text down to a line ends with it, and with a line feed if the line is empty. -/
theorem endsInReturn_unlines_concat : EndsInReturn (unlines (ls ++ [l])) ↔ EndsInReturn l := by
  rcases eq_or_ne ls [] with rfl | hls
  · rfl
  · have hsingle : unlines [l] = l := rfl
    rw [unlines_append hls (List.cons_ne_nil l []), hsingle,
      endsInReturn_append (List.cons_ne_nil _ _)]
    rcases eq_or_ne l [] with rfl | hl
    · decide
    · exact endsInReturn_cons hl

/-- In terms of lines: all of them but the last end in a carriage return. -/
theorem isCrlf_iff_lines : IsCrlf s ↔ Returned (lines s) := by
  constructor
  · intro h l hl
    -- Below the line there is another one, and so a line feed behind it.
    obtain ⟨above, rest, hls⟩ := List.append_of_mem hl
    have hcut : lines s = (above ++ [l]) ++ (rest ++ [(lines s).getLast (lines_ne_nil s)]) := by
      rw [← List.append_assoc, List.append_assoc above, List.singleton_append, ← hls,
        List.dropLast_append_getLast]
    have hs : s = unlines (above ++ [l]) ++
        '\n' :: unlines (rest ++ [(lines s).getLast (lines_ne_nil s)]) := by
      rw [← unlines_append (by simp) (by simp), ← hcut, unlines_lines]
    exact endsInReturn_unlines_concat.1 (h _ _ hs)
  · rintro h a b rfl
    rw [lines_append_lines] at h
    obtain ⟨l, below, hb⟩ := List.exists_cons_of_ne_nil (lines_ne_nil b)
    rw [hb, returned_append_cons] at h
    have ha := List.dropLast_append_getLast (lines_ne_nil a)
    rw [← unlines_lines a, ← ha]
    exact endsInReturn_unlines_concat.2 (h.1 _ (List.getLast_mem _))

instance (s : List Char) : Decidable (IsCrlf s) :=
  decidable_of_iff (∀ l ∈ (lines s).dropLast, EndsInReturn l) isCrlf_iff_lines.symm

/-! ## Rules of a line -/

/-- A change of a line keeps the line ends exactly if the line has its carriage return then, or
    there is nothing below it. -/
theorem isCrlf_modifyLine_iff {f : List Char → List Char} (hf : KeepsLine f) (h : IsCrlf s) :
    IsCrlf (modifyLine n f s) ↔
      ∀ above l below, lines s = above ++ l :: below → (above.length : Int) + 1 = n →
        below ≠ [] → EndsInReturn (f l) := by
  rw [isCrlf_iff_lines] at h ⊢
  constructor
  · intro hmod above l below hs hn
    rw [lines_modifyLine hf hs hn, returned_append_cons] at hmod
    exact hmod.2.1
  · intro hline
    by_cases hrange : 1 ≤ n ∧ n ≤ (lines s).length
    · obtain ⟨above, l, below, hs, hn⟩ := exists_line hrange.1 hrange.2
      rw [hs, returned_append_cons] at h
      rw [lines_modifyLine hf hs hn, returned_append_cons]
      exact ⟨h.1, hline above l below hs hn, h.2.2⟩
    · -- No line has the number.
      have hsame : lines (modifyLine n f s) = lines s := by
        refine List.ext_getElem? fun j => ?_
        rw [getElem?_lines_modifyLine hf]
        split
        · rw [List.getElem?_eq_none (by omega)]
          rfl
        · rfl
      rwa [hsame]

namespace ExplicitAny

/-- To narrow the types of a line keeps its return. -/
theorem endsInReturn_narrow (skip : Nat) (before s : List Char) (h : EndsInReturn (s.drop skip)) :
    EndsInReturn (narrow skip before s) := by
  fun_induction narrow skip before s with
  | case1 => simp [EndsInReturn] at h
  | case2 skip before c s ih => exact ih h
  | case3 before c s r hr hany ih =>
    -- The type ends in a letter, so that the carriage return stands behind it.
    have hword := word?_eq_some_iff.1 hr
    have hrest : s.drop 2 = r := by
      rw [← List.drop_succ_cons (a := c), hword]
      rfl
    have hreturn : EndsInReturn r := by
      rw [List.drop_zero, hword] at h
      exact h.of_append (by decide)
    rw [hrest] at ih
    exact (endsInReturn_append (ih hreturn).ne_nil).2 (ih hreturn)
  | case4 before c s r hr hany ih => exact h.cons (by rintro rfl; rfl) ih
  | case5 before c s hr ih => exact h.cons (by rintro rfl; rfl) ih

end ExplicitAny

namespace Entity

/-- To escape the quotes of a line keeps its return. -/
theorem endsInReturn_escape (q : Quotes) (skip : Nat) (h : EndsInReturn s) :
    EndsInReturn (escape q skip s) := by
  fun_induction escape q skip s with
  | case1 => exact h
  | case2 skip c s ih => exact h.cons (by rintro rfl; rfl) ih
  | case3 c s n hn ih => exact h.cons (by rintro rfl; rfl) ih
  | case4 c s hn ih =>
    rcases eq_or_ne s [] with rfl | hs
    · obtain rfl : c = '\r' := by simpa [EndsInReturn] using h
      simp [escape, Quotes.entity, EndsInReturn]
    · have hreturn := ih ((endsInReturn_cons hs).1 h)
      exact (endsInReturn_append hreturn.ne_nil).2 hreturn

end Entity

namespace UnusedImport

variable {name : List Char} {i : Import}

/-- The import of the line goes as a whole with the name: it has no default, and all that stands
    between its braces binds the name. -/
def GoesAsWhole (name l : List Char) : Prop :=
  ∃ i ∈ Import.ofLine? l, i.default? = none ∧ i.specifiers ≠ [] ∧
    ∀ specifier ∈ i.specifiers, boundName specifier = name

theorem suffix_of_defaultName? {r : List Char} (h : defaultName? s = some (name, r)) : r <:+ s := by
  rw [defaultName?] at h
  split at h
  · simp at h
  · next name' r' hne hspan =>
    split at h
    · next r'' hcomma =>
      obtain ⟨rfl, rfl⟩ : name' = name ∧ trimStart r'' = r := by simpa using h
      obtain ⟨rfl, -, -⟩ := span_eq_iff.1 hspan
      have hr : ',' :: r'' <:+ r' := hcomma ▸ List.dropWhile_suffix isBlank
      exact (((List.dropWhile_suffix _).trans (List.suffix_cons _ _)).trans hr).trans
        (List.suffix_append _ _)
    · simp at h

/-- What stands behind the braces of an import is the end of its line. -/
theorem source_suffix (h : Import.ofLine? l = some i) : i.source <:+ l ∧ i.source ≠ [] := by
  unfold Import.ofLine? at h
  simp only [Option.bind_eq_bind, Option.bind_eq_some_iff, Option.ite_none_right_eq_some] at h
  obtain ⟨r, hr, names, hnames, ⟨named, source⟩, hbraced, hsource, hi⟩ := h
  obtain rfl := Option.some.inj hi
  have hkeyword : r <:+ l :=
    (word?_eq_some_iff.1 hr ▸ List.suffix_append _ r).trans (List.dropWhile_suffix _)
  have hsuffix : names <:+ l := by
    obtain ⟨b, rfl, -⟩ := blanks?_eq_some_iff.1 hnames
    exact (List.suffix_append b names).trans hkeyword
  have hend {u : List Char} (hu : braced? u = some (named, source)) : source <:+ u := by
    obtain ⟨rfl, -⟩ := braced?_eq_some_iff.1 hu
    exact ⟨'{' :: (named ++ ['}']), by simp⟩
  have hne : source ≠ [] := by
    rintro rfl
    exact (by decide : ¬isSource [] = true) hsource
  refine ⟨?_, hne⟩
  cases hdefault : defaultName? names with
  | none =>
    simp only [hdefault] at hbraced
    exact (hend hbraced).trans hsuffix
  | some d =>
    obtain ⟨name, r'⟩ := d
    simp only [hdefault] at hbraced
    exact ((hend hbraced).trans (suffix_of_defaultName? hdefault)).trans hsuffix

/-- An import of some names, or of a default, ends as the line did. -/
theorem endsInReturn_text_iff (h : EndsInReturn i.source) (names : List (List Char)) :
    EndsInReturn (i.text names) ↔ ¬(i.default? = none ∧ names = []) := by
  unfold Import.text
  split
  · next hdefault => simp [EndsInReturn, hdefault]
  · next hdefault hnames =>
    exact iff_of_true ((endsInReturn_append h.ne_nil).2 h) fun hnil => hnames hnil.2
  · next name hdefault =>
    exact iff_of_true ((endsInReturn_append h.ne_nil).2 h) (by simp [hdefault])
  · next name hdefault hnames =>
    exact iff_of_true ((endsInReturn_append h.ne_nil).2 h) (by simp [hdefault])

/-- An import from which a name is taken out keeps its return unless it goes as a whole. -/
theorem endsInReturn_without_iff (h : EndsInReturn l) :
    EndsInReturn (without name l) ↔ ¬GoesAsWhole name l := by
  rw [without]
  cases hi : Import.ofLine? l with
  | none => simp [h, GoesAsWhole, hi]
  | some i =>
    obtain ⟨⟨u, hu⟩, hne⟩ := source_suffix hi
    have hsource : EndsInReturn i.source := by
      rw [← hu, endsInReturn_append hne] at h
      exact h
    have hwhole : GoesAsWhole name l ↔ i.default? = none ∧ i.specifiers ≠ [] ∧
        i.specifiers.filter (boundName · ≠ name) = [] := by
      simp [GoesAsWhole, hi]
    rw [hwhole]
    dsimp only
    split
    · next hall =>
      -- The name is not there, so that all specifiers are kept.
      refine iff_of_true h fun ⟨_, hspecifiers, hnil⟩ => hspecifiers ?_
      rw [hnil] at hall
      exact List.length_eq_zero_iff.1 hall.symm
    · next hsome =>
      rw [endsInReturn_text_iff hsource]
      refine not_congr (and_congr_right' ⟨fun hnil => ⟨?_, hnil⟩, And.right⟩)
      rintro hspecifiers
      simp [hspecifiers] at hsome

end UnusedImport

/-! ## Rules of a file -/

namespace HeadElement

variable {a b r : List Char} {k : Nat} {p : List Char → Option (Nat × List Char)}

/-- The scanner takes tags, which do not end in a carriage return, and writes no line feed. -/
def TakesTags (p : List Char → Option (Nat × List Char)) : Prop :=
  ∀ s m, p s = some m → '\n' ∉ m.2 ∧
    ∃ tag r, s = tag ++ r ∧ tag.length = m.1 + 1 ∧ ¬EndsInReturn tag

theorem takesTags_openTag : TakesTags openTag? := by
  intro s m hm
  obtain ⟨c, t, rfl, -, rfl⟩ := openTag?_eq_some_iff.1 hm
  exact ⟨by decide, "<head".toList, c :: t, rfl, rfl, by decide⟩

theorem takesTags_closeTag : TakesTags closeTag? := by
  intro s m hm
  obtain ⟨b, t, rfl, -, rfl⟩ := closeTag?_eq_some_iff.1 hm
  refine ⟨(by decide : '\n' ∉ "</Head>".toList), closing b, t, rfl, ?_, ?_⟩
  · rw [length_closing]
    omega
  · rw [closing_eq, endsInReturn_append (by simp), endsInReturn_append (List.cons_ne_nil _ _)]
    decide

/-- What stands before a line feed that is left stood there before. -/
theorem exists_of_substitute_newline (hp : TakesTags p)
    (h : substitute p k s = a ++ '\n' :: b) :
    ∃ a' b', s.drop k = a' ++ '\n' :: b' ∧ (a' = [] → a = []) ∧
      (EndsInReturn a' → EndsInReturn a) := by
  fun_induction substitute p k s generalizing a with
  | case1 => simp at h
  | case2 k c s ih => exact ih h
  | case3 c s k t hm ih =>
    obtain ⟨ht, tag, r, hs, hlength, htag⟩ := hp _ _ hm
    have hr : s.drop k = r := by
      rw [← List.drop_succ_cons (a := c), hs, ← hlength, List.drop_left]
    obtain ⟨u, rfl, hu⟩ := exists_of_append_newline ht h.symm
    obtain ⟨a', b', ha', -, hend⟩ := ih hu
    refine ⟨tag ++ a', b', ?_, fun hnil => ?_, fun hreturn => ?_⟩
    · rw [List.drop_zero, hs, ← hr, ha', List.append_assoc]
    · rw [List.append_eq_nil_iff] at hnil
      simp [hnil.1] at hlength
    · have hua := hend (hreturn.of_append htag)
      exact (endsInReturn_append hua.ne_nil).2 hua
  | case4 c s hm ih =>
    cases a with
    | nil =>
      obtain ⟨rfl, -⟩ := List.cons.inj h
      exact ⟨[], s, rfl, fun _ => rfl, id⟩
    | cons d a =>
      obtain ⟨rfl, ha⟩ := List.cons.inj h
      obtain ⟨a', b', ha', hnil, hend⟩ := ih ha
      rw [List.drop_zero] at ha'
      exact ⟨c :: a', b', by rw [ha']; rfl, (absurd · (List.cons_ne_nil c a')),
        fun hreturn => hreturn.cons hnil hend⟩

/-- To rename tags keeps the line ends. -/
theorem isCrlf_substitute (hp : TakesTags p) (h : IsCrlf s) : IsCrlf (substitute p 0 s) := by
  intro a b hab
  obtain ⟨a', b', hs, -, hend⟩ := exists_of_substitute_newline hp hab
  exact hend (h a' b' hs)

/-- The tags are renamed without a change of the line ends. -/
theorem isCrlf_renameTags (h : IsCrlf s) : IsCrlf (renameTags s) :=
  isCrlf_substitute takesTags_closeTag (isCrlf_substitute takesTags_openTag h)

/-- The new import has no carriage return, so that there may be no line below it; the line above it
    has one already. -/
theorem isCrlf_addImport_iff (h : IsCrlf s) :
    IsCrlf (addImport s) ↔
      importPlace (lines s) = (lines s).length ∧ ∀ l ∈ (lines s).getLast?, EndsInReturn l := by
  have himport : ¬EndsInReturn headImport := by decide
  rw [isCrlf_iff_lines] at h ⊢
  rw [lines_addImport, returned_append_cons]
  have hle := importPlace_le (lines s)
  constructor
  · rintro ⟨habove, hbelow, -⟩
    have hlast : importPlace (lines s) = (lines s).length := by
      by_contra hne
      exact himport (hbelow fun hnil => hne (by
        rw [List.drop_eq_nil_iff] at hnil
        omega))
    rw [hlast, List.take_length] at habove
    exact ⟨hlast, fun l hl => habove l (List.mem_of_getLast? hl)⟩
  · rintro ⟨hplace, hlast⟩
    rw [hplace, List.take_length, List.drop_length]
    refine ⟨fun l hl => ?_, fun hne => absurd rfl hne, by simp [Returned]⟩
    rw [← List.dropLast_append_getLast (lines_ne_nil s), List.mem_append,
      List.mem_singleton] at hl
    rcases hl with hl | rfl
    · exact h l hl
    · exact hlast _ (List.getLast?_eq_getLast_of_ne_nil _)

end HeadElement

namespace Duplicate

/-- The import in place of many has no return. -/
theorem not_endsInReturn_merged (s : List Char) : ¬EndsInReturn (merged s) := by
  rw [merged, mergedImport]
  split
  · decide
  · rw [endsInReturn_append (by decide)]
    decide

/-- The merged import has no carriage return, so that there may be no line below it. -/
theorem isCrlf_mergeImports_iff (h : IsCrlf s) :
    IsCrlf (mergeImports s) ↔ (lines s).countP isReactImport < 2 ∨
      (lines s).Pairwise fun l m => isReactImport l = true → isReactImport m = true := by
  by_cases hmany : 2 ≤ (lines s).countP isReactImport
  · obtain ⟨above, l, below, hs, hl, habove, hlines⟩ := exists_lines_mergeImports hmany
    rw [isCrlf_iff_lines] at h ⊢
    rw [hs, returned_append_cons] at h
    have hpair : (above ++ l :: below).Pairwise
        (fun l m => isReactImport l = true → isReactImport m = true) ↔
        below.filter (!isReactImport ·) = [] := by
      rw [List.filter_eq_nil_iff, List.pairwise_append, List.pairwise_cons]
      constructor
      · rintro ⟨-, ⟨hbelow, -⟩, -⟩ m hm
        simp [hbelow m hm hl]
      · intro hall
        have himports : ∀ m ∈ below, isReactImport m = true := fun m hm => by
          simpa using hall m hm
        -- There is no import above the first one.
        have hfirst : ∀ {m}, m ∈ above → isReactImport m = true → False := fun hm hyes => by
          simp [habove _ hm] at hyes
        refine ⟨List.pairwise_of_forall_mem_list fun m hm m' _ hyes => (hfirst hm hyes).elim,
          ⟨fun m hm _ => himports m hm, ?_⟩, fun m hm m' _ hyes => (hfirst hm hyes).elim⟩
        exact List.pairwise_of_forall_mem_list fun _ _ m hm _ => himports m hm
    rw [hlines, returned_append_cons, or_iff_right (by omega), hs, hpair]
    constructor
    · intro hcrlf
      by_contra hne
      exact not_endsInReturn_merged s (hcrlf.2.1 hne)
    · intro hnil
      rw [hnil]
      exact ⟨h.1, fun hne => absurd rfl hne, by simp [Returned]⟩
  · have hfew : (lines s).countP isReactImport < 2 := by omega
    rw [mergeImports_eq_self hfew]
    exact iff_of_true h (.inl hfew)

/-- To keep the last export keeps the line ends. -/
theorem isCrlf_keepLastExport (h : IsCrlf s) : IsCrlf (keepLastExport s) := by
  rw [isCrlf_iff_lines] at h ⊢
  rw [lines_keepLastExport]
  exact h.sublist keepLast_sublist

end Duplicate

/-! ## All rules -/

namespace Rule

/-- The rule writes no line of its own in front of a line feed. -/
def CarriesReturns (n : Int) (message s : List Char) : Rule → Prop
  -- The reported line, if there is one below it, is not taken for an import that goes as a whole.
  | unusedImport =>
    ∀ name ∈ UnusedImport.unusedName? message, ∀ above l below, lines s = above ++ l :: below →
      (above.length : Int) + 1 = n → below ≠ [] → ¬UnusedImport.GoesAsWhole name l
  -- The component is imported already, or goes behind the last line.
  | headElement =>
    let renamed := HeadElement.renameTags s
    HeadElement.importsHead true renamed = true ∨
      HeadElement.importPlace (lines renamed) = (lines renamed).length ∧
        ∀ l ∈ (lines renamed).getLast?, EndsInReturn l
  -- There is at most one import of the framework, or nothing but others below the first.
  | duplicateReactImport =>
    (lines s).countP Duplicate.isReactImport < 2 ∨ (lines s).Pairwise fun l m =>
      Duplicate.isReactImport l = true → Duplicate.isReactImport m = true
  | explicitAny | unescapedEntity | duplicateDefaultExport => True

/-- A repair keeps the line ends just if its rule carries the returns along. -/
theorem isCrlf_revise_iff (h : IsCrlf s) (n : Int) (message : List Char) (r : Rule) :
    IsCrlf (r.revise n message s) ↔ r.CarriesReturns n message s := by
  -- A line that has another one below it ends in a carriage return.
  have hline {above below l} (hs : lines s = above ++ l :: below) (hne : below ≠ []) :
      EndsInReturn l := by
    rw [isCrlf_iff_lines, hs, returned_append_cons] at h
    exact h.2.1 hne
  cases r with
  | unusedImport =>
    rw [revise, UnusedImport.repair, CarriesReturns]
    cases UnusedImport.unusedName? message with
    | none => exact iff_of_true h fun name hname => absurd hname (Option.not_mem_none name)
    | some name =>
      rw [isCrlf_modifyLine_iff (UnusedImport.keepsLine_without name) h]
      constructor
      · rintro hmod _ ⟨⟩ above l below hs hn hne
        exact (UnusedImport.endsInReturn_without_iff (hline hs hne)).1
          (hmod above l below hs hn hne)
      · intro hkeeps above l below hs hn hne
        exact (UnusedImport.endsInReturn_without_iff (hline hs hne)).2
          (hkeeps name rfl above l below hs hn hne)
  | explicitAny =>
    refine iff_of_true ((isCrlf_modifyLine_iff ExplicitAny.keepsLine_narrow h).2 ?_) trivial
    exact fun _ _ _ hs _ hne => ExplicitAny.endsInReturn_narrow 0 [] _ (hline hs hne)
  | unescapedEntity =>
    refine iff_of_true ((isCrlf_modifyLine_iff (Entity.keepsLine_escape _) h).2 ?_) trivial
    exact fun _ _ _ hs _ hne => Entity.endsInReturn_escape _ 0 (hline hs hne)
  | headElement =>
    have hrenamed := HeadElement.isCrlf_renameTags h
    rw [revise, HeadElement.repair, CarriesReturns]
    split
    · next hthere => exact iff_of_true hrenamed (.inl hthere)
    · next hnew =>
      rw [HeadElement.isCrlf_addImport_iff hrenamed]
      exact (or_iff_right hnew).symm
  | duplicateReactImport => exact Duplicate.isCrlf_mergeImports_iff h
  | duplicateDefaultExport => exact iff_of_true (Duplicate.isCrlf_keepLastExport h) trivial

/-- A rule keeps the carriage returns of a file exactly if it writes no line of its own in front of
    a line feed. -/
theorem isCrlf_apply_iff (r : Rule) (d : Diagnostic) {content : String}
    (h : IsCrlf content.toList) :
    IsCrlf (r.apply d content).toList ↔
      r.CarriesReturns d.line d.message.toList content.toList := by
  rw [apply, String.toList_ofList]
  exact isCrlf_revise_iff h d.line d.message.toList r

/-- An import that other names are left in is written with the carriage return of its line. -/
theorem isCrlf_apply_alias :
    let content := "'use client';\r\nimport React, \x7b a, b as c \x7d from 'd';\r\na();\r\n"
    let d : Diagnostic :=
      ⟨"a.ts", 2, 1, "'c' is defined but never used.", none, .error, .lint⟩
    IsCrlf content.toList ∧
      unusedImport.apply d content =
        "'use client';\r\nimport React, \x7b a \x7d from 'd';\r\na();\r\n" ∧
      unusedImport.CarriesReturns 2 d.message.toList content.toList := by
  intro content d
  have hcontent : IsCrlf content.toList := by decide +kernel
  have hresult : IsCrlf (unusedImport.apply d content).toList := by decide +kernel
  exact ⟨hcontent, by decide +kernel, (isCrlf_apply_iff unusedImport d hcontent).1 hresult⟩

/-- Three rules write a line without a carriage return in front of a line feed: where an import was,
    with the head component, and with merged imports. -/
theorem bare_line_feeds_written :
    let d (message : String) : Diagnostic := ⟨"a.ts", 1, 1, message, none, .error, .lint⟩
    let unused := "import \x7b a \x7d from 'b';\r\nrun();\r\n"
    let head := "<head></head>\r\n"
    let twice := "import React from 'react';\r\nimport React from 'react';\r\nrun();\r\n"
    (IsCrlf unused.toList ∧
      unusedImport.apply (d "'a' is defined but never used.") unused = "\nrun();\r\n" ∧
      ¬IsCrlf "\nrun();\r\n".toList) ∧
    (IsCrlf head.toList ∧
      headElement.apply (d "no head") head =
        "import Head from 'next/head';\n<Head></Head>\r\n" ∧
      ¬IsCrlf "import Head from 'next/head';\n<Head></Head>\r\n".toList) ∧
    IsCrlf twice.toList ∧
      duplicateReactImport.apply (d "Duplicate identifier 'React'.") twice =
        "import React from 'react';\nrun();\r\n" ∧
      ¬IsCrlf "import React from 'react';\nrun();\r\n".toList := by
  decide +kernel

end Rule

end Mender.Repair
