import Mender.Proofs.Repair.ImportNames

/-!
# The declaration that is left

The rules for duplicate declarations leave one line of its kind, the first of the imports of the
framework and the last of the default exports, and all other lines as they are, in their order
(`exists_lines_mergeImports`, `exists_lines_keepLastExport`). So there is nothing to do for them the
next time (`mergeImports_mergeImports`, `keepLastExport_keepLastExport`).

The line that is left of the imports lists the names that were read off them, each once, in the
order in which they come first (`listedNames_merged`). These are the names in the braces of the
lines, if they stand behind the name of the framework (`OfFramework.readNames_eq`); what other
lines list that count as imports of the framework is lost (`names_of_others_lost`).
-/

namespace Mender.Repair.Duplicate

open Text UnusedImport

variable {s l m above named below lead : List Char} {ls names : List (List Char)}
variable {p : List Char → Bool}

/-! ## Names in braces -/

/-- The first braces of the line stand around `named`. -/
structure Braces (l above named below : List Char) : Prop where
  eq : l = above ++ '{' :: (named ++ '}' :: below)
  isFirst : '{' ∉ above
  closes : '}' ∉ named

/-- The names in the first braces of a line. -/
def listedNames (l : List Char) : List (List Char) := listed (l.dropWhile (· ≠ '{'))

theorem dropWhile_ne_append {c : Char} (h : c ∉ above) (r : List Char) :
    (above ++ c :: r).dropWhile (· ≠ c) = c :: r := by
  have hspan := span_ne_append h r
  rw [List.span_eq_takeWhile_dropWhile, Prod.mk.injEq] at hspan
  exact hspan.2

theorem dropWhile_ne_of_not_mem {c : Char} (h : c ∉ s) : s.dropWhile (· ≠ c) = [] := by
  rw [List.dropWhile_eq_nil_iff]
  exact fun d hd => decide_eq_true fun heq => h (heq ▸ hd)

/-- The first braces of a line are at one place. -/
theorem Braces.unique {above' named' below' : List Char} (h : Braces l above named below)
    (h' : Braces l above' named' below') : above = above' ∧ named = named' := by
  have hopen := congrArg (List.span (· ≠ '{')) (h.eq.symm.trans h'.eq)
  rw [span_ne_append h.isFirst, span_ne_append h'.isFirst, Prod.mk.injEq] at hopen
  have hclose := congrArg (List.span (· ≠ '}')) (List.cons.inj hopen.2).2
  rw [span_ne_append h.closes, span_ne_append h'.closes, Prod.mk.injEq] at hclose
  exact ⟨hopen.1, hclose.1⟩

/-- The names listed are those between the first braces. -/
theorem Braces.listedNames_eq (h : Braces l above named below) :
    listedNames l = ((fields ',' named).map trim).filter (· ≠ []) := by
  rw [listedNames, h.eq, dropWhile_ne_append h.isFirst, listed,
    braced?_eq_some_iff.2 ⟨rfl, h.closes⟩]

/-- Where there are braces, there are first ones. -/
theorem exists_braces {r : List Char} (h : l = above ++ '{' :: r) (hr : '}' ∈ r) :
    ∃ above named below, Braces l above named below := by
  obtain ⟨u, v, hl, hu⟩ := List.eq_append_cons_of_mem (h ▸ by simp : '{' ∈ l)
  have hv : '}' ∈ v := by
    rw [h] at hl
    rcases List.append_eq_append_iff.1 hl with ⟨w, rfl, hw⟩ | ⟨w, rfl, hw⟩
    · cases w with
      | nil => simp_all
      | cons c w => simp_all
    · cases w with
      | nil => simp_all
      | cons c w =>
        obtain ⟨-, rfl⟩ := List.cons.inj hw
        simp [hr]
  obtain ⟨named, below, rfl, hnamed⟩ := List.eq_append_cons_of_mem hv
  exact ⟨u, named, below, hl, hu, hnamed⟩

/-- Without braces no names are listed. -/
theorem listedNames_eq_nil (h : ¬∃ above named below, Braces l above named below) :
    listedNames l = [] := by
  by_cases hopen : '{' ∈ l
  · obtain ⟨u, v, rfl, hu⟩ := List.eq_append_cons_of_mem hopen
    have hclose : '}' ∉ v := fun hv => h (exists_braces rfl hv)
    rw [listedNames, dropWhile_ne_append hu, listed]
    cases hbraced : braced? ('{' :: v) with
    | none => rfl
    | some b =>
      obtain ⟨heq, -⟩ := braced?_eq_some_iff.1 hbraced
      obtain ⟨-, rfl⟩ := List.cons.inj heq
      exact absurd (by simp) hclose
  · rw [listedNames, dropWhile_ne_of_not_mem hopen]
    rfl

/-! ## Names of the framework -/

/-- The text leads to the names in an import of the framework. -/
def LeadsToNames (s : List Char) : Prop :=
  ∃ b₁ b₂ b₃, s = "import".toList ++ b₁ ++ "React".toList ++ b₂ ++ ',' :: b₃ ∧ b₁ ≠ [] ∧
    allBlank b₁ = true ∧ allBlank b₂ = true ∧ allBlank b₃ = true

/-- The names in braces on the line are those of an import of the framework. -/
def OfFramework (l : List Char) : Prop :=
  ∀ above named below, Braces l above named below → ∃ lead, LeadsToNames lead ∧ lead <:+ above

theorem LeadsToNames.not_mem (h : LeadsToNames lead) : '{' ∉ lead := by
  obtain ⟨b₁, b₂, b₃, rfl, -, hb₁, hb₂, hb₃⟩ := h
  have hblank {b : List Char} (hb : allBlank b = true) : '{' ∉ b := fun hc =>
    absurd (isBlank_of_mem hb hc) (by decide)
  have himport : '{' ∉ "import".toList := by decide
  have hframework : '{' ∉ "React".toList := by decide
  simp only [List.mem_append, List.mem_cons, not_or]
  exact ⟨⟨⟨⟨himport, hblank hb₁⟩, hframework⟩, hblank hb₂⟩, by decide, hblank hb₃⟩

/-- Names are read behind what leads to them. -/
theorem namedAt?_eq_some_iff :
    namedAt? s = some named ↔
      ∃ lead below, s = lead ++ '{' :: (named ++ '}' :: below) ∧ LeadsToNames lead ∧
        '}' ∉ named := by
  constructor
  · intro h
    unfold namedAt? at h
    simp only [Option.bind_eq_bind, Option.bind_eq_some_iff, word?_eq_some_iff,
      blanks?_eq_some_iff, trimStart_eq_iff] at h
    obtain ⟨_, rfl, _, ⟨b₁, rfl, hne, hb₁, -⟩, _, rfl, u, ⟨b₂, rfl, hb₂, -⟩, v,
      ⟨b₃, rfl, hb₃, -⟩, h⟩ := h
    split at h
    · next named' c r hspan =>
      obtain rfl := Option.some.inj h
      obtain ⟨rfl, hnamed, hc⟩ := span_eq_iff.1 hspan
      obtain rfl : c = '}' := by simpa using hc c rfl
      exact ⟨_, r, by simp, ⟨b₁, b₂, b₃, rfl, hne, hb₁, hb₂, hb₃⟩,
        fun hmem => by simpa using hnamed _ hmem⟩
    · simp at h
  · rintro ⟨_, below, rfl, ⟨b₁, b₂, b₃, rfl, hne, hb₁, hb₂, hb₃⟩, hnamed⟩
    obtain ⟨list, hlist⟩ : ∃ list, list = '{' :: (named ++ '}' :: below) := ⟨_, rfl⟩
    have hcomma : trimStart (b₂ ++ ',' :: (b₃ ++ list)) = ',' :: (b₃ ++ list) :=
      trimStart_append hb₂ (by simp; decide)
    have hbrace : trimStart (b₃ ++ list) = list :=
      trimStart_append hb₃ (by simp [hlist]; decide)
    have himport : word? "import".toList ("import".toList ++ b₁ ++ "React".toList ++ b₂ ++
        ',' :: b₃ ++ list) = some (b₁ ++ ("React".toList ++ (b₂ ++ ',' :: (b₃ ++ list)))) :=
      word?_eq_some_iff.2 (by simp)
    have hblanks : blanks? (b₁ ++ ("React".toList ++ (b₂ ++ ',' :: (b₃ ++ list)))) =
        some ("React".toList ++ (b₂ ++ ',' :: (b₃ ++ list))) :=
      blanks?_eq_some_iff.2 ⟨b₁, rfl, hne, hb₁, by simp; decide⟩
    have hframework : word? "React".toList ("React".toList ++ (b₂ ++ ',' :: (b₃ ++ list))) =
        some (b₂ ++ ',' :: (b₃ ++ list)) := word?_eq_some_iff.2 rfl
    have hopen : word? ['{'] list = some (named ++ '}' :: below) := word?_eq_some_iff.2 hlist
    rw [← hlist]
    simp only [namedAt?, Option.bind_eq_bind, Option.bind_some, himport, hblanks, hframework,
      hcomma, word?, if_true, hbrace, hopen, span_ne_append hnamed]

/-- What is read off a line at first is read off its first braces, if it leads there. -/
theorem Braces.findMap?_namedAt? (h : Braces l above named below) (hlead : LeadsToNames lead)
    (hsuffix : lead <:+ above) : findMap? namedAt? l = some named := by
  obtain ⟨front, rfl⟩ := hsuffix
  induction front generalizing l with
  | nil =>
    rw [h.eq]
    exact findMap?_of_eq_some (namedAt?_eq_some_iff.2 ⟨lead, below, rfl, hlead, h.closes⟩)
  | cons c front ih =>
    have hrest := ih ⟨rfl, fun hc => h.isFirst (List.mem_cons_of_mem c hc), h.closes⟩
    have hl : l = c :: (front ++ lead ++ '{' :: (named ++ '}' :: below)) := h.eq
    rw [hl, findMap?, ← hl]
    split
    · next named' hnamed =>
      -- A match that begins further in front ends in the same braces.
      obtain ⟨lead', below', heq, hlead', hclose⟩ := namedAt?_eq_some_iff.1 hnamed
      rw [(h.unique ⟨heq, hlead'.not_mem, hclose⟩).2]
    · exact hrest

/-- Without braces no names are merged. -/
theorem importedNames_eq_nil (h : ¬∃ above named below, Braces l above named below) :
    importedNames l = [] := by
  unfold importedNames
  split
  · next named hnamed =>
    obtain ⟨u, ⟨v, rfl⟩, hu⟩ := exists_suffix_of_findMap? hnamed
    obtain ⟨lead, below, rfl, -, -⟩ := namedAt?_eq_some_iff.1 hu
    have hl : v ++ (lead ++ '{' :: (named ++ '}' :: below)) =
        (v ++ lead) ++ '{' :: (named ++ '}' :: below) := (List.append_assoc _ _ _).symm
    exact absurd (exists_braces hl (by simp)) h
  · rfl

/-- The names that are read off a line. -/
def readNames (l : List Char) : List (List Char) := (importedNames l).filter (· ≠ [])

/-- All names in the first braces are read off a line, if they are those of the framework. -/
theorem OfFramework.readNames_eq (h : OfFramework l) : readNames l = listedNames l := by
  by_cases hbraces : ∃ above named below, Braces l above named below
  · obtain ⟨above, named, below, hbraces⟩ := hbraces
    obtain ⟨lead, hlead, hsuffix⟩ := h above named below hbraces
    rw [readNames, importedNames, hbraces.findMap?_namedAt? hlead hsuffix,
      hbraces.listedNames_eq]
  · rw [readNames, importedNames_eq_nil hbraces, listedNames_eq_nil hbraces]
    rfl

/-- A line is of the framework if what stands before its braces leads to the names in them. -/
theorem Braces.ofFramework (h : Braces l above named below) (hlead : LeadsToNames lead)
    (hsuffix : lead <:+ above) : OfFramework l := by
  intro above' named' below' h'
  rw [← (h.unique h').1]
  exact ⟨lead, hlead, hsuffix⟩

/-- A line without braces lists no names but those of the framework. -/
theorem ofFramework_of_not_mem (h : '{' ∉ l) : OfFramework l := by
  intro above named below hbraces
  rw [hbraces.eq] at h
  exact absurd (by simp) h

/-! ## The import that is left -/

theorem leadsToNames_framework : LeadsToNames "import React, ".toList :=
  ⟨[' '], [], [' '], by decide, by decide, by decide, rfl, by decide⟩

/-- The import in place of many lists its names between braces. -/
theorem braces_mergedImport (hne : names ≠ []) (h : ∀ n ∈ names, IsListed n) :
    Braces (mergedImport names) "import React, ".toList
      ([' '] ++ joined ", ".toList names ++ [' ']) " from 'react';".toList where
  eq := by
    rw [mergedImport, if_neg hne]
    simp
  isFirst := by decide
  closes := by
    simp only [List.mem_append, not_or]
    refine ⟨⟨by decide, fun hc => ?_⟩, by decide⟩
    rcases mem_joined hc with hc | ⟨n, hn, hc⟩
    · exact absurd hc (by decide)
    · exact (h n hn).brace hc

theorem ofFramework_mergedImport (h : ∀ n ∈ names, IsListed n) :
    OfFramework (mergedImport names) := by
  by_cases hne : names = []
  · subst hne
    exact ofFramework_of_not_mem (by decide)
  · exact (braces_mergedImport hne h).ofFramework leadsToNames_framework List.suffix_rfl

/-- The import in place of many lists the names that it is made of. -/
theorem listedNames_mergedImport (h : ∀ n ∈ names, IsListed n) :
    listedNames (mergedImport names) = names := by
  by_cases hne : names = []
  · subst hne
    decide
  · have hfilter : names.filter (· ≠ []) = names :=
      List.filter_eq_self.2 fun n hn => decide_eq_true (h n hn).ne_nil
    rw [(braces_mergedImport hne h).listedNames_eq, map_trim_fields hne h rfl rfl, hfilter]

/-- Each of the names is kept where it comes first. -/
theorem distinct_eq (names : List (List Char)) :
    distinct names = (names.filter (· ≠ [])).eraseDups := by
  induction names using List.reverseRecOn with
  | nil => rfl
  | append_singleton names n ih =>
    have hstep : distinct (names ++ [n]) =
        if n = [] ∨ n ∈ distinct names then distinct names else distinct names ++ [n] := by
      rw [distinct, List.foldl_append]
      rfl
    by_cases hn : n = []
    · rw [hstep, if_pos (.inl hn), ih]
      simp [hn]
    · have hsingle : [n].filter (· ≠ []) = [n] := by simp [hn]
      rw [List.filter_append, hsingle, List.eraseDups_append, ← ih, hstep]
      by_cases hmem : n ∈ names
      · rw [if_pos (.inr (mem_distinct_iff.2 ⟨hmem, hn⟩))]
        simp [List.removeAll, hmem, hn]
      · rw [if_neg (by rw [mem_distinct_iff]; tauto)]
        simp [List.removeAll, hmem, List.eraseDups_cons]

theorem isListed_of_mem_merged {n : List Char}
    (hn : n ∈ distinct (((lines s).filter isReactImport).flatMap importedNames)) : IsListed n := by
  obtain ⟨hn, hne⟩ := mem_distinct_iff.1 hn
  obtain ⟨l, -, hn⟩ := List.mem_flatMap.1 hn
  exact isListed_of_mem_importedNames hn hne

/-- The import in place of many lists no names but those of the framework. -/
theorem ofFramework_merged (s : List Char) : OfFramework (merged s) :=
  ofFramework_mergedImport fun _ => isListed_of_mem_merged

/-- The import that is left lists the names that were read, each where it comes first. -/
theorem listedNames_merged (s : List Char) :
    listedNames (merged s) =
      (((lines s).filter isReactImport).flatMap readNames).eraseDups := by
  rw [merged, listedNames_mergedImport fun _ => isListed_of_mem_merged, distinct_eq,
    List.filter_flatMap]
  rfl

/-- The import that is left is an import of the framework. -/
theorem isReactImport_mergedImport (names : List (List Char)) :
    isReactImport (mergedImport names) = true := by
  obtain ⟨r, hr⟩ : ∃ r, mergedImport names = "import React".toList ++ (r ++ [';']) := by
    rw [mergedImport]
    split
    · exact ⟨" from 'react'".toList, rfl⟩
    · exact ⟨", \x7b ".toList ++ joined ", ".toList names ++ " \x7d from 'react'".toList, by simp⟩
  have hlast : ∀ c ∈ (mergedImport names).getLast?, isBlank c = false := by
    rw [hr, ← List.append_assoc, List.getLast?_concat]
    intro c hc
    obtain rfl : ';' = c := by simpa using hc
    decide
  have hhead : ∀ c ∈ (mergedImport names).head?, isBlank c = false := by
    rw [hr]
    intro c hc
    obtain rfl : 'i' = c := by simpa using hc
    decide
  have htrimmed : Trimmed (mergedImport names) := ⟨hhead, hlast⟩
  rw [isReactImport, htrimmed.trim_eq, startsWith_iff]
  exact ⟨_, hr.symm⟩

/-! ## Lines that are left -/

/-- The first line with the property is replaced, and those below it go. -/
theorem exists_collapse (m : List Char) (h : 0 < ls.countP p) :
    ∃ above l below, ls = above ++ l :: below ∧ p l = true ∧ (∀ l' ∈ above, p l' = false) ∧
      collapse p m ls = above ++ m :: below.filter (!p ·) := by
  induction ls with
  | nil => simp at h
  | cons l ls ih =>
    cases hl : p l with
    | true => exact ⟨[], l, ls, rfl, hl, nofun, by simp [collapse, hl]⟩
    | false =>
      rw [List.countP_cons_of_neg (by simp [hl])] at h
      obtain ⟨above, l', below, rfl, hl', habove, hcollapse⟩ := ih h
      refine ⟨l :: above, l', below, rfl, hl', ?_, by simp [collapse, hl, hcollapse]⟩
      simpa [hl] using habove

/-- A single line with the property stays. -/
theorem keepLast_eq_self (h : ls.countP p ≤ 1) : keepLast p ls = ls := by
  induction ls with
  | nil => rfl
  | cons l ls ih =>
    rw [List.countP_cons] at h
    have hkept : (p l && ls.any p) = false := by
      by_contra hout
      rw [Bool.not_eq_false, Bool.and_eq_true, List.any_eq_true] at hout
      have hpos := List.countP_pos_iff.2 hout.2
      rw [if_pos hout.1] at h
      omega
    rw [keepLast, hkept, ih (by omega)]
    rfl

/-- The last line with the property stays, and those above it go. -/
theorem exists_keepLast (h : 0 < ls.countP p) :
    ∃ above l below, ls = above ++ l :: below ∧ p l = true ∧ (∀ l' ∈ below, p l' = false) ∧
      keepLast p ls = above.filter (!p ·) ++ l :: below := by
  induction ls with
  | nil => simp at h
  | cons l ls ih =>
    by_cases hls : 0 < ls.countP p
    · obtain ⟨above, l', below, rfl, hl', hbelow, hkeep⟩ := ih hls
      refine ⟨l :: above, l', below, rfl, hl', hbelow, ?_⟩
      rw [keepLast, hkeep]
      cases hl : p l <;> simp [hl, hl']
    · have hzero : ls.countP p = 0 := by omega
      have hl : p l = true := by
        by_contra hl
        rw [List.countP_cons_of_neg hl] at h
        exact hls h
      refine ⟨[], l, ls, rfl, hl, ?_, keepLast_eq_self ?_⟩
      · simpa [List.countP_eq_zero] using hzero
      · rw [List.countP_cons_of_pos hl, hzero]

theorem countP_filter_not (p : List Char → Bool) (ls : List (List Char)) :
    (ls.filter (!p ·)).countP p = 0 := by
  simp [List.countP_eq_zero]

/-- Of several imports the first becomes the import of all names, and the others go. -/
theorem exists_lines_mergeImports (h : 2 ≤ (lines s).countP isReactImport) :
    ∃ above l below, lines s = above ++ l :: below ∧ isReactImport l = true ∧
      (∀ l' ∈ above, isReactImport l' = false) ∧
      lines (mergeImports s) = above ++ merged s :: below.filter (!isReactImport ·) := by
  obtain ⟨above, l, below, hs, hl, habove, hcollapse⟩ :=
    exists_collapse (merged s) (by omega : 0 < (lines s).countP isReactImport)
  exact ⟨above, l, below, hs, hl, habove, by rw [lines_mergeImports, if_pos h, hcollapse]⟩

/-- Of several default exports the last stays, and the others go. -/
theorem exists_lines_keepLastExport (h : 2 ≤ (lines s).countP isDefaultExport) :
    ∃ above l below, lines s = above ++ l :: below ∧ isDefaultExport l = true ∧
      (∀ l' ∈ below, isDefaultExport l' = false) ∧
      lines (keepLastExport s) = above.filter (!isDefaultExport ·) ++ l :: below := by
  obtain ⟨above, l, below, hs, hl, hbelow, hkeep⟩ :=
    exists_keepLast (by omega : 0 < (lines s).countP isDefaultExport)
  exact ⟨above, l, below, hs, hl, hbelow, by rw [lines_keepLastExport, hkeep]⟩

/-- Of several imports of the framework one is left. -/
theorem countP_lines_mergeImports (h : 2 ≤ (lines s).countP isReactImport) :
    (lines (mergeImports s)).countP isReactImport = 1 := by
  obtain ⟨above, l, below, -, -, habove, hlines⟩ := exists_lines_mergeImports h
  have hmerged : isReactImport (merged s) = true := isReactImport_mergedImport _
  rw [hlines, List.countP_append, List.countP_cons_of_pos hmerged,
    countP_filter_not, List.countP_eq_zero.2 fun l' hl' => by simp [habove l' hl']]

/-- Of several default exports one is left. -/
theorem countP_lines_keepLastExport (h : 2 ≤ (lines s).countP isDefaultExport) :
    (lines (keepLastExport s)).countP isDefaultExport = 1 := by
  obtain ⟨above, l, below, -, hl, hbelow, hlines⟩ := exists_lines_keepLastExport h
  rw [hlines, List.countP_append, List.countP_cons_of_pos hl, countP_filter_not,
    List.countP_eq_zero.2 fun l' hl' => by simp [hbelow l' hl']]

/-- A single import of the framework is left alone. -/
theorem mergeImports_eq_self (h : (lines s).countP isReactImport < 2) : mergeImports s = s :=
  lines_injective (by rw [lines_mergeImports, if_neg (by omega)])

/-- A single default export is left alone. -/
theorem keepLastExport_eq_self (h : (lines s).countP isDefaultExport < 2) :
    keepLastExport s = s :=
  lines_injective (by rw [lines_keepLastExport, keepLast_eq_self (by omega)])

/-- Merging changes nothing the next time. -/
theorem mergeImports_mergeImports (s : List Char) :
    mergeImports (mergeImports s) = mergeImports s := by
  by_cases h : 2 ≤ (lines s).countP isReactImport
  · exact mergeImports_eq_self (by rw [countP_lines_mergeImports h]; omega)
  · have hs : mergeImports s = s := mergeImports_eq_self (by omega)
    rw [hs, hs]

/-- To keep the last export another time changes nothing. -/
theorem keepLastExport_keepLastExport (s : List Char) :
    keepLastExport (keepLastExport s) = keepLastExport s := by
  by_cases h : 2 ≤ (lines s).countP isDefaultExport
  · exact keepLastExport_eq_self (by rw [countP_lines_keepLastExport h]; omega)
  · have hs : keepLastExport s = s := keepLastExport_eq_self (by omega)
    rw [hs, hs]

/-! ## One declaration -/

/-- Of several imports one line is left, in the place of the first, and of several default exports
    the last, with all other lines as they were; so that nothing is left to do the next time. The
    line of the imports lists the names read off them, each where it comes first, which are the
    names in their braces if those stand behind the name of the framework. -/
theorem one_declaration_left (s : List Char) :
    (2 ≤ (lines s).countP isReactImport →
      (∃ above l below, lines s = above ++ l :: below ∧ isReactImport l = true ∧
        (∀ l' ∈ above, isReactImport l' = false) ∧
        lines (mergeImports s) = above ++ merged s :: below.filter (!isReactImport ·)) ∧
      (lines (mergeImports s)).countP isReactImport = 1 ∧
      readNames (merged s) = (((lines s).filter isReactImport).flatMap readNames).eraseDups ∧
      ((∀ l ∈ (lines s).filter isReactImport, OfFramework l) →
        listedNames (merged s) =
          (((lines s).filter isReactImport).flatMap listedNames).eraseDups)) ∧
    (2 ≤ (lines s).countP isDefaultExport →
      (∃ above l below, lines s = above ++ l :: below ∧ isDefaultExport l = true ∧
        (∀ l' ∈ below, isDefaultExport l' = false) ∧
        lines (keepLastExport s) = above.filter (!isDefaultExport ·) ++ l :: below) ∧
      (lines (keepLastExport s)).countP isDefaultExport = 1) ∧
    mergeImports (mergeImports s) = mergeImports s ∧
    keepLastExport (keepLastExport s) = keepLastExport s := by
  refine ⟨fun h =>
      ⟨exists_lines_mergeImports h, countP_lines_mergeImports h, ?_, fun himports => ?_⟩,
    fun h => ⟨exists_lines_keepLastExport h, countP_lines_keepLastExport h⟩,
    mergeImports_mergeImports s, keepLastExport_keepLastExport s⟩
  · rw [(ofFramework_merged s).readNames_eq, listedNames_merged]
  · rw [listedNames_merged]
    exact congrArg List.eraseDups (List.flatMap_congr fun l hl => (himports l hl).readNames_eq)

/-- Three imports, one of them indented and one without names, and two default exports. -/
theorem one_declaration_left_of_several :
    let first := "  import React, \x7b memo, , useState \x7d from 'react';".toList
    let second := "import React,\x7buseState as s,useState,useRef\x7dfrom 'react'".toList
    let third := "import React from 'react';".toList
    let s := unlines [first, "export default a;".toList, second, third, "export default b;".toList]
    2 ≤ (lines s).countP isReactImport ∧ 2 ≤ (lines s).countP isDefaultExport ∧
      (∀ l ∈ (lines s).filter isReactImport, OfFramework l) ∧
      listedNames (merged s) =
        ["memo".toList, "useState".toList, "useState as s".toList, "useRef".toList] ∧
      (lines (keepLastExport s)).countP isDefaultExport = 1 := by
  intro first second third s
  have hbraces : Braces first "  import React, ".toList " memo, , useState ".toList
      " from 'react';".toList := ⟨by decide, by decide, by decide⟩
  have hbraces' : Braces second "import React,".toList "useState as s,useState,useRef".toList
      "from 'react'".toList := ⟨by decide, by decide, by decide⟩
  have hfirst : OfFramework first := hbraces.ofFramework leadsToNames_framework (by decide)
  have hsecond : OfFramework second := hbraces'.ofFramework
    ⟨[' '], [], [], by decide, by decide, by decide, rfl, rfl⟩ List.suffix_rfl
  have hthird : OfFramework third := ofFramework_of_not_mem (by decide)
  have himports : (lines s).filter isReactImport = [first, second, third] := by decide +kernel
  have hframework : ∀ l ∈ (lines s).filter isReactImport, OfFramework l := by
    rw [himports]
    simp only [List.forall_mem_cons]
    exact ⟨hfirst, hsecond, hthird, nofun⟩
  have hmany : 2 ≤ (lines s).countP isReactImport := by
    rw [List.countP_eq_length_filter, himports]
    decide
  have hmany' : 2 ≤ (lines s).countP isDefaultExport := by decide +kernel
  obtain ⟨hmerge, hkeep, -, -⟩ := one_declaration_left s
  refine ⟨hmany, hmany', hframework, ?_, (hkeep hmany').2⟩
  rw [(hmerge hmany).2.2.2 hframework]
  decide +kernel

/-- The name in the braces of the second import is on neither line in the end. -/
theorem names_of_others_lost :
    let other := "import ReactDOM, \x7b render \x7d from 'react-dom';".toList
    let s := unlines ["import React from 'react';".toList, other]
    2 ≤ (lines s).countP isReactImport ∧ listedNames other = ["render".toList] ∧
      lines (mergeImports s) = [merged s] ∧ listedNames (merged s) = [] ∧
      listedNames (merged s) ≠
        (((lines s).filter isReactImport).flatMap listedNames).eraseDups := by
  decide +kernel

end Mender.Repair.Duplicate
