import Mender.Proofs.Repair.NamedImport

/-!
# Names taken out of imports

When a name is taken out of a named import, the line that is left should say the same without the
specifiers that bind the name, and the text behind the declaration should be there in any case
(`Written.Keeps`).

That is so exactly if the rule knows the line for an import and knows what its specifiers bind, and
if it does not join two words or take out a line on which there is more (`Written.IsRemovable`,
`getElem?_lines_repair_import`). Otherwise words are joined, statements are lost, or the name stays
where it is (`names_not_taken_out`).
-/

namespace Mender.Repair.UnusedImport

open Text

variable {s t r b l w name message : List Char} {c : Char}

/-! ## What should be kept -/

namespace Written

variable (w : Written)

/-- The text behind the declaration, which a semicolon may end. -/
def rest : List Char :=
  match trimStart w.tail with
  | ';' :: r => r
  | _ => w.tail

/-- The specifiers that bind another name. -/
def others (name : List Char) : List (List Char) := w.specifiers.filter (lastWord · ≠ name)

/-- The line keeps what it should when a name is taken out of the import: the declaration without
    the specifiers that bind the name, if there is anything left to be imported, and the text
    behind it in any case. -/
def Keeps (name l : List Char) : Prop :=
  if w.default? = none ∧ w.others name = [] then trim l = trim w.rest
  else Declaration.read? l = some ⟨w.name?, w.others name, w.origin, w.tail⟩

instance (name l : List Char) : Decidable (w.Keeps name l) :=
  inferInstanceAs (Decidable (if w.default? = none ∧ w.others name = [] then trim l = trim w.rest
    else Declaration.read? l = some ⟨w.name?, w.others name, w.origin, w.tail⟩))

/-- The rule can take the name out of the import and nothing else. -/
structure IsRemovable (name : List Char) : Prop where
  /-- There are blanks behind the keyword and behind the word `from`. -/
  gap : w.gap ≠ []
  behind : w.behind ≠ []
  /-- The name can be told from what stands before it in a specifier: only words with a space on
      either side of `as` between them do. -/
  bound : ∀ n ∈ w.specifiers, lastWord n = name → boundName n = name
  /-- There are blanks before the word `from`, if it comes next to the default import. -/
  before : w.others name = [] → w.default? ≠ none → w.before ≠ []
  /-- There is nothing behind a declaration that goes as a whole. -/
  rest : w.others name = [] → w.default? = none → allBlank w.rest = true

/-! ## Reading by the rule -/

/-- The default is found where there is one. -/
theorem defaultName?_names :
    defaultName? (w.defaultText ++ w.list) = w.name?.map (·, w.list) := by
  rw [defaultText, name?]
  cases hd : w.default? with
  | none =>
    simp only [List.nil_append, defaultName?, w.span_list]
    rfl
  | some d =>
    obtain ⟨c, n, hn⟩ := List.exists_cons_of_ne_nil d.isIdentifier_name.1
    rw [defaultName?, d.span_text, hn]
    dsimp only
    rw [d.trimStart_comma]
    simp only [w.trimStart_list d.allBlank_behind, Option.map_some, ← hn]

theorem isSource_source : isSource w.source = true ↔ w.behind ≠ [] := by
  have hword : word? "from".toList (trimStart w.source) =
      some (w.behind ++ (w.origin ++ w.tail)) := word?_eq_some_iff.2 w.trimStart_source
  have horigin : ∃ c d r, w.origin ++ w.tail = c :: d :: r ∧ isBlank c = false := by
    obtain ⟨d, r, hr⟩ : ∃ d r, w.path ++ (w.quote :: w.tail) = d :: r :=
      List.exists_cons_of_ne_nil (by simp)
    refine ⟨w.quote, d, r, by rw [← hr]; simp [origin], ?_⟩
    exact (w.head?_origin w.tail _ (by simp [origin])).1
  obtain ⟨c, d, r, horigin, hc⟩ := horigin
  rw [isSource, hword, horigin]
  have hblank := w.allBlank_behind
  cases hb : w.behind with
  | nil => simp [hc]
  | cons e b =>
    rw [hb, allBlank_cons] at hblank
    obtain ⟨d', r', hr⟩ : ∃ d' r', b ++ c :: d :: r = d' :: r' :=
      List.exists_cons_of_ne_nil (by simp)
    simp [hr, hblank.1]

/-- What is imported is found behind blanks. -/
theorem blanks?_names :
    blanks? (w.gap ++ (w.defaultText ++ w.list)) =
      if w.gap = [] then none else some (w.defaultText ++ w.list) := by
  split
  · next h =>
    rw [h, List.nil_append, defaultText, w.default?_eq_none h]
    rfl
  · next h => exact blanks?_eq_some_iff.2 ⟨w.gap, rfl, h, w.allBlank_gap, w.head?_names⟩

/-- The rule knows a line for a named import if there are blanks behind the keyword and behind the
    word `from`. -/
theorem ofLine?_text :
    Import.ofLine? w.text =
      if w.gap = [] ∨ w.behind = [] then none
      else some ⟨w.lead, w.name?, w.named, w.source⟩ := by
  have hword : word? "import".toList (trimStart w.text) =
      some (w.gap ++ (w.defaultText ++ w.list)) := word?_eq_some_iff.2 (w.trimStart_lead _)
  have hlead : w.text.take (w.text.length - (w.defaultText ++ w.list).length) = w.lead := by
    rw [text, List.length_append, Nat.add_sub_cancel, List.take_left' rfl]
  simp only [Import.ofLine?, hword, Option.bind_eq_bind, Option.bind_some, w.blanks?_names]
  by_cases hgap : w.gap = []
  · simp [hgap]
  · simp only [hgap, if_false, Option.bind_some, hlead, w.defaultName?_names, false_or]
    -- Without a default import, the list is all that is left.
    have hrest : w.name? = none → w.defaultText ++ w.list = w.list := by
      rw [name?, Option.map_eq_none_iff, defaultText]
      intro h
      rw [h]
      rfl
    cases hname : w.name? with
    | none =>
      simp only [Option.map_none, hrest hname, w.braced?_list, Option.bind_some, w.isSource_source,
        ite_not]
    | some n =>
      simp only [Option.map_some, w.braced?_list, Option.bind_some, w.isSource_source, ite_not]

end Written

/-! ## What a specifier binds -/

/-- The last word stands behind the last blank. -/
theorem lastWord_append (hs : ∀ c ∈ s.getLast?, isBlank c = true)
    (ht : ∀ c ∈ t, isBlank c = false) : lastWord (s ++ t) = t := by
  have hspan : (s ++ t).reverse.span (!isBlank ·) = (t.reverse, s.reverse) := by
    refine span_eq_iff.2 ⟨by simp, fun c hc => ?_, fun c hc => ?_⟩
    · simp [ht c (List.mem_reverse.1 hc)]
    · simp [hs c (by simpa using hc)]
  rw [List.span_eq_takeWhile_dropWhile] at hspan
  rw [lastWord, (Prod.mk.inj hspan).1, List.reverse_reverse]

/-- A name that the rule takes for what a specifier binds is the last word of it. -/
theorem lastWord_of_boundName (hs : Trimmed s) (hname : IsIdentifier name)
    (h : boundName s = name) : lastWord s = name := by
  have hsep : " as ".toList ≠ [] := by decide
  obtain ⟨p, hp, hpiece⟩ := exists_getLast?_pieces hsep s
  rw [boundName, Option.mem_def.1 hp, Option.getD_some] at h
  obtain ⟨b, b', rfl, hb, hb', -⟩ := trim_eq_iff.1 h
  -- Before the piece there is nothing, or the blank of a separator.
  obtain ⟨u, rfl, hu⟩ : ∃ u, s = u ++ (b ++ name ++ b') ∧ ∀ c ∈ u.getLast?, isBlank c = true := by
    rcases hpiece with rfl | ⟨u, rfl⟩
    · exact ⟨[], rfl, nofun⟩
    · refine ⟨u ++ " as ".toList, rfl, fun c hc => ?_⟩
      rw [List.getLast?_append_of_ne_nil _ (by decide)] at hc
      obtain rfl : ' ' = c := by simpa using hc
      decide
  -- Behind the name there is nothing, as the specifier is trimmed.
  obtain rfl : b' = [] := by
    by_contra hne
    obtain ⟨c, hc⟩ : ∃ c, b'.getLast? = some c := by
      rw [← Option.isSome_iff_exists, List.getLast?_isSome]
      exact hne
    have hlast := hs.last c (by simp [List.getLast?_append_of_ne_nil _ hne, hc])
    simp [isBlank_of_mem hb' (List.mem_of_getLast? hc)] at hlast
  rw [List.append_nil, ← List.append_assoc]
  refine lastWord_append (fun c hc => ?_) fun c => isBlank_of_mem_identifier hname
  rcases eq_or_ne b [] with rfl | hne
  · exact hu c (by simpa using hc)
  · rw [List.getLast?_append_of_ne_nil _ hne] at hc
    exact isBlank_of_mem hb (List.mem_of_getLast? hc)

/-- A specifier in a list can be listed again. -/
theorem isListed_of_mem_specifiersOf {n named : List Char} (hbrace : '}' ∉ named)
    (h : n ∈ specifiersOf named) : Duplicate.IsListed n := by
  obtain ⟨hn, hne⟩ := List.mem_filter.1 h
  obtain ⟨part, hpart, rfl⟩ := List.mem_map.1 hn
  obtain ⟨b, b', -, -, -, htrimmed⟩ := trim_eq_iff.1 (rfl : trim part = _)
  exact ⟨by simpa using hne, htrimmed,
    fun hc => not_mem_of_mem_fields hpart (trim_subset part hc),
    fun hc => hbrace (subset_of_mem_fields hpart (trim_subset part hc))⟩

/-- The specifiers that are written are those of the list. -/
theorem specifiersOf_nameList {names : List (List Char)} (hne : names ≠ [])
    (h : ∀ n ∈ names, Duplicate.IsListed n) :
    specifiersOf ([' '] ++ nameList names ++ [' ']) = names := by
  rw [specifiersOf, nameList, Duplicate.map_trim_fields hne h rfl rfl]
  exact List.filter_eq_self.2 fun n hn => by simpa using (h n hn).ne_nil

/-! ## What the rule writes -/

/-- The default import with nothing but a space behind the comma. -/
def DefaultPart.tidy (d : DefaultPart) : DefaultPart :=
  ⟨d.name, [], [' '], d.isIdentifier_name, rfl, rfl⟩

namespace Written

variable (w : Written)

/-- The import with another list of specifiers. -/
def withSpecifiers (names : List (List Char)) (h : ∀ n ∈ names, '}' ∉ n) : Written where
  indent := w.indent
  gap := w.gap
  default? := w.default?.map DefaultPart.tidy
  named := [' '] ++ nameList names ++ [' ']
  before := w.before
  behind := w.behind
  quote := w.quote
  path := w.path
  tail := w.tail
  allBlank_indent := w.allBlank_indent
  allBlank_gap := w.allBlank_gap
  allBlank_before := w.allBlank_before
  allBlank_behind := w.allBlank_behind
  gap_ne_nil := by simpa using w.gap_ne_nil
  brace_not_mem := by
    simp only [List.mem_append, not_or]
    refine ⟨⟨by decide, fun hc => ?_⟩, by decide⟩
    rcases mem_joined hc with hc | ⟨n, hn, hc⟩
    · exact absurd hc (by decide)
    · exact h n hn hc
  isQuote_quote := w.isQuote_quote
  quote_not_mem := w.quote_not_mem

/-- The import with other specifiers is written as the rule writes it. -/
theorem text_withSpecifiers {names : List (List Char)} (hne : names ≠ [])
    (h : ∀ n ∈ names, '}' ∉ n) :
    (w.withSpecifiers names h).text = Import.text ⟨w.lead, w.name?, w.named, w.source⟩ names := by
  obtain ⟨n, ns, rfl⟩ := List.exists_cons_of_ne_nil hne
  cases hd : w.default? with
  | none =>
    simp [Import.text, text, lead, defaultText, list, source, origin, withSpecifiers, name?, hd]
  | some d =>
    simp [Import.text, text, lead, defaultText, list, source, origin, withSpecifiers, name?, hd,
      DefaultPart.text, DefaultPart.tidy]

/-- The specifiers that the rule keeps. -/
def kept (name : List Char) : List (List Char) := w.specifiers.filter (boundName · ≠ name)

theorem isListed (n : List Char) (hn : n ∈ w.specifiers) : Duplicate.IsListed n :=
  isListed_of_mem_specifiersOf w.brace_not_mem hn

/-- A line that the rule does not know for an import stays as it is. -/
theorem without_text_of_unknown (h : w.gap = [] ∨ w.behind = []) (name : List Char) :
    without name w.text = w.text := by
  rw [without, w.ofLine?_text, if_pos h]

/-- The rule takes the specifiers of the name out of the import, if there are any. -/
theorem without_text (h : ¬(w.gap = [] ∨ w.behind = [])) (name : List Char) :
    without name w.text =
      if (w.kept name).length = w.specifiers.length then w.text
      else Import.text ⟨w.lead, w.name?, w.named, w.source⟩ (w.kept name) := by
  rw [without, w.ofLine?_text, if_neg h]
  rfl

/-- Where specifiers are left, the line is a named import with these. -/
theorem exists_written (h : ¬(w.gap = [] ∨ w.behind = [])) (hkept : w.kept name ≠ []) :
    ∃ w' : Written, without name w.text = w'.text ∧ w'.name? = w.name? ∧
      w'.specifiers = w.kept name ∧ w'.origin = w.origin ∧ w'.tail = w.tail := by
  rw [w.without_text h]
  split
  · next hall =>
    have hsame : w.kept name = w.specifiers := List.filter_sublist.eq_of_length hall
    exact ⟨w, rfl, rfl, hsame.symm, rfl, rfl⟩
  · have hlisted : ∀ n ∈ w.kept name, Duplicate.IsListed n := fun n hn =>
      w.isListed n (List.mem_filter.1 hn).1
    refine ⟨w.withSpecifiers (w.kept name) fun n hn => (hlisted n hn).brace,
      (w.text_withSpecifiers hkept _).symm, ?_, specifiersOf_nameList hkept hlisted, rfl, rfl⟩
    rw [name?, name?, withSpecifiers, Option.map_map]
    rfl

/-! ## What is kept -/

/-- What is behind the declaration is the end of its tail. -/
theorem exists_rest : ∃ u, w.tail = u ++ w.rest := by
  rw [rest]
  split
  · next r hr =>
    obtain ⟨b, hb, -⟩ := trimStart_eq_iff.1 hr
    exact ⟨b ++ [';'], by simp [hb]⟩
  · exact ⟨[], rfl⟩

/-- A line with the import on it has more to it than the text behind it. -/
theorem trim_text_ne : trim w.text ≠ trim w.rest := by
  have hcount (s : List Char) : (trim s).countP (!isBlank ·) = s.countP (!isBlank ·) := by
    obtain ⟨b, b', hs, hb, hb', -⟩ := trim_eq_iff.1 (rfl : trim s = trim s)
    have hzero {b : List Char} (hb : allBlank b = true) : b.countP (!isBlank ·) = 0 :=
      List.countP_eq_zero.2 fun c hc => by simp [isBlank_of_mem hb hc]
    rw [← Nat.zero_add (List.countP _ (trim s)), ← hzero hb, ← List.countP_append,
      ← Nat.add_zero (List.countP _ (b ++ _)), ← hzero hb', ← List.countP_append, ← hs]
  obtain ⟨u, hu⟩ := w.exists_rest
  obtain ⟨v, hv⟩ : ∃ v, w.text = w.indent ++ ("import".toList ++ (v ++ w.rest)) :=
    ⟨w.gap ++ (w.defaultText ++ ('{' :: (w.named ++ '}' :: (w.before ++ ("from".toList ++
      (w.behind ++ (w.origin ++ u))))))), by simp [text, lead, list, source, hu]⟩
  intro h
  have hsame := congrArg (List.countP (!isBlank ·)) h
  have hkeyword : "import".toList.countP (!isBlank ·) = 6 := rfl
  rw [hcount, hcount, hv] at hsame
  simp only [List.countP_append, hkeyword] at hsame
  omega

/-- A named import with the same default import and origin keeps what it should if it has the
    specifiers that bind other names. -/
theorem keeps_text_iff {w w' : Written} (hname : w'.name? = w.name?)
    (horigin : w'.origin = w.origin) (htail : w'.tail = w.tail) :
    w.Keeps name w'.text ↔
      ¬(w.default? = none ∧ w.others name = []) ∧ w'.specifiers = w.others name := by
  have hrest : w'.rest = w.rest := by rw [rest, rest, htail]
  rw [Keeps]
  split
  · next h => exact iff_of_false (hrest ▸ w'.trim_text_ne) fun h' => h'.1 h
  · next h =>
    rw [w'.read?_text, hname, horigin, htail]
    simp [h]

theorem ne_others (hbound : ∃ n ∈ w.specifiers, lastWord n = name) :
    w.specifiers ≠ w.others name := by
  intro h
  obtain ⟨n, hn, hlast⟩ := hbound
  rw [h] at hn
  simpa [hlast] using (List.mem_filter.1 hn).2

/-- The rule keeps the specifiers that bind another name, and those of which it cannot tell. -/
theorem others_subset_kept (hname : IsIdentifier name) : w.others name ⊆ w.kept name := by
  intro n hn
  obtain ⟨hmem, hlast⟩ := List.mem_filter.1 hn
  refine List.mem_filter.2 ⟨hmem, ?_⟩
  have hne : lastWord n ≠ name := by simpa using hlast
  have htrimmed := (w.isListed n hmem).trimmed
  simpa using fun h => hne (lastWord_of_boundName htrimmed hname h)

/-- What the rule keeps is right just if no specifier ends in the name and binds another. -/
theorem kept_eq_others_iff (hname : IsIdentifier name) :
    w.kept name = w.others name ↔
      ∀ n ∈ w.specifiers, lastWord n = name → boundName n = name := by
  constructor
  · intro h n hn hlast
    by_contra hbound
    have hkept : n ∈ w.kept name := List.mem_filter.2 ⟨hn, by simpa using hbound⟩
    rw [h] at hkept
    simpa [hlast] using (List.mem_filter.1 hkept).2
  · intro h
    refine List.filter_congr fun n hn => ?_
    have hiff : boundName n = name ↔ lastWord n = name :=
      ⟨lastWord_of_boundName (w.isListed n hn).trimmed hname, h n hn⟩
    simp [hiff]

/-- The word `from` is missing where it has gone with the default import. -/
theorem origin?_behind : origin? (w.behind ++ (w.origin ++ w.tail)) = none := by
  have hquote : 'f' ≠ w.quote := by
    rcases w.isQuote_cases with h | h <;> rw [h] <;> decide
  have hword : word? "from".toList (w.origin ++ w.tail) = none := if_neg hquote
  simp only [origin?, w.trimStart_behind, keyword?, hword, Option.filter_none, Option.bind_eq_bind,
    Option.bind_none]

/-- Without blanks before the word `from`, a default import and that word are one name. -/
theorem names?_joined {n : List Char} (hn : IsIdentifier n) :
    names? (n ++ "from".toList ++ (w.behind ++ (w.origin ++ w.tail))) =
      some (some (n ++ "from".toList), [], w.behind ++ (w.origin ++ w.tail)) := by
  have hjoined : IsIdentifier (n ++ "from".toList) := by
    refine ⟨by simp [hn.1], fun c hc => ?_⟩
    rcases List.mem_append.1 hc with hc | hc
    · exact hn.2 c hc
    · exact List.all_eq_true.1 (by decide : "from".toList.all isNameChar = true) c hc
  have hcomma : (w.origin ++ w.tail).head? ≠ some ',' := by
    have hquote : ',' ≠ w.quote := by
      rcases w.isQuote_cases with h | h <;> rw [h] <;> decide
    simpa [origin] using hquote.symm
  exact names?_default hjoined (head?_isNameChar w.allBlank_behind
    fun _ c hc => (w.head?_origin w.tail c hc).2) (w.trimStart_behind.symm ▸ hcomma)

/-- Without its braces, a default import is read as one if there are blanks before the word `from`.
    Otherwise that word goes with the name. -/
theorem read?_default {d : DefaultPart} (hd : w.default? = some d) :
    Declaration.read? (w.lead ++ (d.name ++ w.source)) =
      if w.before = [] then none else some ⟨some d.name, [], w.origin, w.tail⟩ := by
  have hgap : w.gap ≠ [] := w.gap_ne_nil (by simp [hd])
  have hblank := head?_isBlank_of_isIdentifier d.isIdentifier_name w.source
  rw [w.read?_lead hblank fun h => absurd h hgap]
  split
  · next hbefore =>
    have htext : d.name ++ w.source =
        d.name ++ "from".toList ++ (w.behind ++ (w.origin ++ w.tail)) := by
      simp [source, hbefore]
    rw [htext, w.names?_joined d.isIdentifier_name]
    simp only [Option.bind_some, w.origin?_behind, Option.bind_none]
  · next hbefore =>
    have hcomma : (trimStart w.source).head? ≠ some ',' := by
      rw [w.trimStart_source]
      simp
    have hword : ∀ c ∈ w.source.head?, isNameChar c = false :=
      head?_isNameChar w.allBlank_before fun h => absurd h hbefore
    rw [names?_default d.isIdentifier_name hword hcomma]
    simp only [Option.bind_some, w.origin?_source]

/-- Where no specifier is left, the declaration goes, or its braces do. -/
theorem keeps_of_kept_eq_nil (h : ¬(w.gap = [] ∨ w.behind = [])) (hkept : w.kept name = [])
    (hspecifiers : w.specifiers ≠ []) (hothers : w.others name = []) :
    w.Keeps name (without name w.text) ↔
      (w.default? ≠ none → w.before ≠ []) ∧ (w.default? = none → allBlank w.rest = true) := by
  have hlength : (w.kept name).length ≠ w.specifiers.length := by
    rw [hkept]
    exact (List.length_pos_iff.2 hspecifiers).ne
  rw [w.without_text h, if_neg hlength, hkept, Keeps, hothers]
  cases hd : w.default? with
  | none =>
    have hnil : Import.text ⟨w.lead, w.name?, w.named, w.source⟩ [] = [] := by
      simp [Import.text, name?, hd]
    simp [hnil, show trim [] = [] from rfl, trim_eq_nil_iff]
  | some d =>
    have hdefault : Import.text ⟨w.lead, w.name?, w.named, w.source⟩ [] =
        w.lead ++ (d.name ++ w.source) := by
      simp [Import.text, name?, hd]
    rw [hdefault, w.read?_default hd]
    by_cases hbefore : w.before = []
    · simp [hbefore]
    · simp [hbefore, name?, hd]

/-- The rule takes a name out and keeps the rest exactly if the name can be taken out of the line
    by what the rule knows. -/
theorem keeps_without_iff (hname : IsIdentifier name)
    (hbound : ∃ n ∈ w.specifiers, lastWord n = name) :
    w.Keeps name (without name w.text) ↔ w.IsRemovable name := by
  by_cases hknown : w.gap = [] ∨ w.behind = []
  · rw [w.without_text_of_unknown hknown, keeps_text_iff rfl rfl rfl]
    refine iff_of_false (fun h => w.ne_others hbound h.2) fun h => ?_
    exact hknown.elim h.gap h.behind
  · obtain ⟨hgap, hbehind⟩ := not_or.1 hknown
    have hspecifiers : w.specifiers ≠ [] := by
      obtain ⟨n, hn, -⟩ := hbound
      exact List.ne_nil_of_mem hn
    by_cases hkept : w.kept name = []
    · have hothers : w.others name = [] :=
        List.eq_nil_of_subset_nil (hkept ▸ w.others_subset_kept hname)
      have hall := (w.kept_eq_others_iff hname).1 (hkept.trans hothers.symm)
      rw [w.keeps_of_kept_eq_nil hknown hkept hspecifiers hothers]
      exact ⟨fun h => ⟨hgap, hbehind, hall, fun _ => h.1, fun _ => h.2⟩,
        fun h => ⟨h.before hothers, h.rest hothers⟩⟩
    · obtain ⟨w', htext, hdefault, hlist, horigin, htail⟩ := w.exists_written hknown hkept
      rw [htext, keeps_text_iff hdefault horigin htail, hlist, w.kept_eq_others_iff hname]
      constructor
      · rintro ⟨-, hall⟩
        have hothers : w.others name ≠ [] := (w.kept_eq_others_iff hname).2 hall ▸ hkept
        exact ⟨hgap, hbehind, hall, fun h => absurd h hothers, fun h => absurd h hothers⟩
      · intro h
        have hothers : w.others name ≠ [] := (w.kept_eq_others_iff hname).2 h.bound ▸ hkept
        exact ⟨fun h' => hothers h'.2, h.bound⟩

end Written

/-! ## Names that messages call unused -/

/-- The name that is reported is an identifier. -/
theorem isIdentifier_of_unusedName? (h : unusedName? message = some name) : IsIdentifier name := by
  obtain ⟨u, -, hu⟩ := exists_suffix_of_findMap? h
  unfold unusedAt? at hu
  split at hu
  · next s =>
    rcases hspan : s.span isNameChar with ⟨n, r⟩
    simp only [hspan, Option.ite_none_right_eq_some, Option.some.injEq] at hu
    obtain ⟨⟨hne, -⟩, rfl⟩ := hu
    exact ⟨hne, (span_eq_iff.1 hspan).2.1⟩
  · simp at hu

/-- When a message calls a name unused that the named import on its line binds, the other lines stay
    as they are, and the line keeps all but the specifiers of that name, the text behind the import
    included, exactly if the rule can take the name out. -/
theorem getElem?_lines_repair_import {j : Nat} (w : Written) (hline : (lines s)[j]? = some w.text)
    (hname : unusedName? message = some name) (hbound : ∃ n ∈ w.specifiers, lastWord n = name) :
    ∃ l, (lines (repair ((j : Int) + 1) message s))[j]? = some l ∧
      (∀ k, k ≠ j → (lines (repair ((j : Int) + 1) message s))[k]? = (lines s)[k]?) ∧
      (w.Keeps name l ↔ w.IsRemovable name) := by
  have hrepair :
      repair ((j : Int) + 1) message s = modifyLine ((j : Int) + 1) (without name) s := by
    rw [repair, hname]
  have hlines := getElem?_lines_modifyLine (keepsLine_without name) ((j : Int) + 1) s
  refine ⟨without name w.text, ?_, fun k hk => ?_,
    w.keeps_without_iff (isIdentifier_of_unusedName? hname) hbound⟩
  · rw [hrepair, hlines, if_pos rfl, hline]
    rfl
  · rw [hrepair, hlines, if_neg (by omega)]

/-- A hook by another name, with more on the line behind the import. -/
def aliasImport : Written where
  indent := []
  gap := [' ']
  default? := some ⟨"React".toList, [], [' '], by decide, rfl, rfl⟩
  named := "useState as st".toList
  before := [' ']
  behind := [' ']
  quote := '\''
  path := "react".toList
  tail := "; run();".toList
  allBlank_indent := rfl
  allBlank_gap := rfl
  allBlank_before := rfl
  allBlank_behind := rfl
  gap_ne_nil := by simp
  brace_not_mem := by decide
  isQuote_quote := by decide
  quote_not_mem := by decide

/-- The braces go with the only name in them. -/
theorem getElem?_lines_repair_alias :
    let s := unlines ["'use client';".toList,
      "import React, \x7buseState as st\x7d from 'react'; run();".toList]
    ∃ l, (lines (repair 2 "'st' is defined but never used.".toList s))[1]? = some l ∧
      Declaration.read? l =
        some ⟨some "React".toList, [], "'react'".toList, "; run();".toList⟩ := by
  intro s
  have hline : (lines s)[1]? = some aliasImport.text := by decide +kernel
  have hname : unusedName? "'st' is defined but never used.".toList = some "st".toList := by
    decide +kernel
  obtain ⟨l, hl, -, hkeeps⟩ := getElem?_lines_repair_import aliasImport hline hname
    (by decide +kernel)
  refine ⟨l, hl, ?_⟩
  have hread := hkeeps.2 ⟨by decide, by decide, by decide +kernel, fun _ _ => by decide, nofun⟩
  rw [Written.Keeps, if_neg (by simp [aliasImport])] at hread
  rw [hread]
  decide +kernel

/-- The word `from` is joined with the default import, a statement behind an import is lost, and a
    name stays that is imported as a type, or from a path that the word `from` touches. -/
theorem names_not_taken_out :
    (∃ w : Written, w.text = "import React, \x7buseState\x7dfrom 'react'; run();".toList ∧
      without "useState".toList w.text = "import Reactfrom 'react'; run();".toList ∧
      ¬w.Keeps "useState".toList (without "useState".toList w.text)) ∧
    (∃ w : Written, w.text = "import \x7buseState\x7d from 'react'; run();".toList ∧
      without "useState".toList w.text = [] ∧
      ¬w.Keeps "useState".toList (without "useState".toList w.text)) ∧
    (∃ w : Written, w.text = "import React, \x7btype FC\x7d from 'react'; run();".toList ∧
      without "FC".toList w.text = w.text ∧ ¬w.Keeps "FC".toList (without "FC".toList w.text)) ∧
    ∃ w : Written, w.text = "import React, \x7bmemo\x7d from'react'; run();".toList ∧
      without "memo".toList w.text = w.text ∧
      ¬w.Keeps "memo".toList (without "memo".toList w.text) := by
  refine ⟨⟨{ aliasImport with
      named := "useState".toList, before := [], brace_not_mem := by decide,
      allBlank_before := rfl }, ?_⟩, ⟨{ aliasImport with
      default? := none, named := "useState".toList, brace_not_mem := by decide,
      gap_ne_nil := by simp }, ?_⟩, ⟨{ aliasImport with
      named := "type FC".toList, brace_not_mem := by decide }, ?_⟩, ⟨{ aliasImport with
      named := "memo".toList, behind := [], brace_not_mem := by decide,
      allBlank_behind := rfl }, ?_⟩⟩ <;> decide +kernel

end Mender.Repair.UnusedImport
