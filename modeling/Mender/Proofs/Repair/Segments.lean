import Mender.Proofs.Repair.Markup

/-!
# Texts and the code between them

A line is a row of texts with a piece of code between two of them (`Segments`). It is cut from left
to right: where a piece of code begins it is taken, and every other character belongs to a text
(`IsSplit`), so that there is one way to cut it (`isSplit_iff`).

Escaping changes the texts alone (`IsSplit.escape`), as it puts in no bracket: the same code is cut
out of the line again. The entities that it puts in stand for the quotes that it takes out
(`decoded_escape`), and none of those is left to be taken out another time (`escape_escape`).
-/

namespace Mender.Repair.Entity

open Text

/-- A piece of code begins with the first character. -/
def BeginsCode (s : List Char) : Prop := ∃ k, IsCode k ∧ k <+: s

/-- A row of texts with a piece of code between two of them. -/
structure Segments where
  first : List Char
  /-- The pieces of code, each with the text behind it. -/
  rest : List (List Char × List Char)
  deriving DecidableEq, Repr

namespace Segments

/-- The pieces of code. -/
def codes (g : Segments) : List (List Char) := g.rest.map Prod.fst

def texts (g : Segments) : List (List Char) := g.first :: g.rest.map Prod.snd

/-- The characters of all texts and of the code between them. -/
def chars (g : Segments) : List Char := g.first ++ g.rest.flatMap fun p => p.1 ++ p.2

/-- The row with more text in front. -/
def addText (t : List Char) (g : Segments) : Segments := { g with first := t ++ g.first }

/-- The row with a piece of code in front. -/
def addCode (k : List Char) (g : Segments) : Segments := ⟨[], (k, g.first) :: g.rest⟩

/-- The row with another text in place of each. -/
def mapTexts (f : List Char → List Char) (g : Segments) : Segments :=
  ⟨f g.first, g.rest.map fun p => (p.1, f p.2)⟩

/-- The code stays when the texts are changed. -/
@[simp]
theorem codes_mapTexts (f : List Char → List Char) (g : Segments) :
    (g.mapTexts f).codes = g.codes := by
  simp [codes, mapTexts]

/-- Each text is changed by itself. -/
@[simp]
theorem texts_mapTexts (f : List Char → List Char) (g : Segments) :
    (g.mapTexts f).texts = g.texts.map f := by
  simp [texts, mapTexts]

end Segments

/-- The texts and the code of a line, of which the first `skip` characters are left out. -/
def split : (skip : Nat) → List Char → Segments
  | _, [] => ⟨[], []⟩
  | skip + 1, _ :: s => split skip s
  | 0, c :: s =>
    match codeLength? (c :: s) with
    | some n => (split n s).addCode (c :: s.take n)
    | none => (split 0 s).addText [c]

/-- The line is cut into the row. -/
inductive IsSplit : List Char → Segments → Prop
  | nil : IsSplit [] ⟨[], []⟩
  | code {k s : List Char} {g : Segments} : IsCode k → IsSplit s g → IsSplit (k ++ s) (g.addCode k)
  | text {c : Char} {s : List Char} {g : Segments} : ¬BeginsCode (c :: s) → IsSplit s g →
      IsSplit (c :: s) (g.addText [c])

variable {q : Quotes} {g : Segments} {s v w message : List Char} {c d : Char} {n : Nat}

/-! ## Where code begins -/

/-- An opening bracket begins a piece of code if a closing one follows somewhere. -/
theorem beginsCode_cons_iff : BeginsCode (c :: s) ↔ c = '<' ∧ '>' ∈ s ∨ c = '{' ∧ '}' ∈ s := by
  constructor
  · rintro ⟨_, hk | hk, hprefix⟩ <;> obtain ⟨rfl, ⟨r, rfl⟩⟩ := List.cons_prefix_cons.1 hprefix
    · exact .inl ⟨rfl, by simp⟩
    · exact .inr ⟨rfl, by simp⟩
  · rintro (⟨rfl, hs⟩ | ⟨rfl, hs⟩) <;> obtain ⟨u, r, rfl, hu⟩ := List.eq_append_cons_of_mem hs
    · exact ⟨_, .tag hu, ⟨r, by simp⟩⟩
    · exact ⟨_, .expression hu, ⟨r, by simp⟩⟩

/-- No code is found where none begins. -/
theorem codeLength?_of_not_beginsCode (h : ¬BeginsCode (c :: s)) :
    codeLength? (c :: s) = none := by
  rw [beginsCode_cons_iff, not_or] at h
  by_cases htag : c = '<'
  · subst htag
    simp [codeLength?, findIdx?_of_not_mem fun hs => h.1 ⟨rfl, hs⟩]
  · by_cases hbrace : c = '{'
    · subst hbrace
      simp [codeLength?, findIdx?_of_not_mem fun hs => h.2 ⟨rfl, hs⟩]
    · exact codeLength?_eq_none ⟨htag, hbrace⟩ s

/-! ## Cutting a line -/

theorem split_eq_drop (n : Nat) (s : List Char) : split n s = split 0 (s.drop n) := by
  induction s generalizing n with
  | nil => simp [split]
  | cons c s ih =>
    cases n with
    | zero => rfl
    | succ n => exact ih n

/-- Code at the front is split off. -/
theorem split_code (h : IsCode s) (r : List Char) : split 0 (s ++ r) = (split 0 r).addCode s := by
  obtain ⟨c, s, rfl⟩ := h.exists_cons
  rw [List.cons_append]
  simp only [split, codeLength?_of_isCode h, split_eq_drop s.length, List.drop_left,
    List.take_left]

/-- A character at the front that begins no code belongs to a text. -/
theorem split_text (h : ¬BeginsCode (c :: s)) : split 0 (c :: s) = (split 0 s).addText [c] := by
  simp only [split, codeLength?_of_not_beginsCode h]

/-- A line begins with code or with a character of a text, if it is not empty. -/
theorem exists_isSplit (s : List Char) : ∃ g, IsSplit s g := by
  induction hlength : s.length using Nat.strong_induction_on generalizing s with
  | h n ih =>
    cases s with
    | nil => exact ⟨_, .nil⟩
    | cons c s =>
      by_cases hcode : BeginsCode (c :: s)
      · obtain ⟨k, hk, r, hr⟩ := hcode
        obtain ⟨d, k, rfl⟩ := hk.exists_cons
        have hlt : r.length < n := by
          rw [← hlength, ← hr, List.length_append, List.length_cons]
          omega
        obtain ⟨g, hg⟩ := ih _ hlt r rfl
        exact ⟨g.addCode (d :: k), hr ▸ hg.code hk⟩
      · have hlt : s.length < n := by
          rw [← hlength, List.length_cons]
          omega
        obtain ⟨g, hg⟩ := ih _ hlt s rfl
        exact ⟨g.addText [c], hg.text hcode⟩

/-- A text is split in one way only. -/
theorem IsSplit.eq (h : IsSplit s g) : split 0 s = g := by
  induction h with
  | nil => rfl
  | code hk _ ih => rw [split_code hk, ih]
  | text hcode _ ih => rw [split_text hcode, ih]

/-- There is one way to cut a line. -/
theorem isSplit_iff : IsSplit s g ↔ split 0 s = g := by
  refine ⟨IsSplit.eq, ?_⟩
  rintro rfl
  obtain ⟨g, hg⟩ := exists_isSplit s
  rwa [hg.eq]

example : split 0 "<p a=\"b\">it's \x7bx\x7d 1 < 2".toList =
    ⟨[], [("<p a=\"b\">".toList, "it's ".toList), ("\x7bx\x7d".toList, " 1 < 2".toList)]⟩ := by
  decide

/-- A text is split into code and texts. -/
theorem isSplit_split (s : List Char) : IsSplit s (split 0 s) := isSplit_iff.2 rfl

/-- The line is what it is cut into. -/
theorem IsSplit.chars_eq (h : IsSplit s g) : g.chars = s := by
  induction h with
  | nil => rfl
  | @code k s g _ _ ih => rw [← ih]; simp [Segments.chars, Segments.addCode]
  | @text c s g _ _ ih => rw [← ih]; simp [Segments.chars, Segments.addText]

/-- What has no opening bracket in it is text. -/
theorem IsSplit.append (h : IsSplit s g) (htag : '<' ∉ w) (hbrace : '{' ∉ w) :
    IsSplit (w ++ s) (g.addText w) := by
  induction w with
  | nil => exact h
  | cons c w ih =>
    rw [List.mem_cons, not_or] at htag hbrace
    refine .text (g := g.addText w) ?_ (ih htag.2 hbrace.2)
    rw [beginsCode_cons_iff]
    rintro (⟨rfl, -⟩ | ⟨rfl, -⟩)
    · exact htag.1 rfl
    · exact hbrace.1 rfl

/-! ## Entities -/

/-- The word stands for the quote. -/
inductive IsEntity : List Char → Char → Prop
  | double : IsEntity "&quot;".toList '"'
  | single : IsEntity "&apos;".toList '\''

/-- A character stays as it is, or it is a quote that becomes an entity. -/
theorem entity_cases (q : Quotes) (c : Char) : q.entity c = [c] ∨ IsEntity (q.entity c) c := by
  fun_cases Quotes.entity q c with
  | case1 h => obtain ⟨rfl, -⟩ := h; exact .inr .double
  | case2 _ h => obtain ⟨rfl, -⟩ := h; exact .inr .single
  | case3 => exact .inl rfl

theorem IsEntity.not_mem (h : IsEntity w c) (hd : d ∈ ['"', '\'', '<', '{']) : d ∉ w := by
  simp only [List.mem_cons, List.not_mem_nil, or_false] at hd
  rcases h with _ | _ <;> rcases hd with rfl | rfl | rfl | rfl <;> decide

/-- An entity stands for a quote. -/
theorem IsEntity.isQuote (h : IsEntity w c) : c = '"' ∨ c = '\'' := by
  cases h with
  | double => exact .inl rfl
  | single => exact .inr rfl

/-- Nothing in an entity is to be escaped. -/
theorem flatMap_entity_entity (q : Quotes) (c : Char) :
    (q.entity c).flatMap q.entity = q.entity c := by
  rcases entity_cases q c with hc | hc
  · simp [hc]
  · have hplain : ∀ d ∈ q.entity c, q.entity d = [d] := by
      intro d hd
      refine (entity_cases q d).resolve_right fun h => ?_
      rcases h.isQuote with rfl | rfl
      · exact hc.not_mem (by decide) hd
      · exact hc.not_mem (by decide) hd
    rw [List.flatMap_congr hplain, List.flatMap_singleton']

/-! ## Escaping texts -/

theorem escape_eq_drop (q : Quotes) (n : Nat) (s : List Char) :
    escape q n s = s.take n ++ escape q 0 (s.drop n) := by
  induction s generalizing n with
  | nil => simp [escape]
  | cons c s ih =>
    cases n with
    | zero => rfl
    | succ n => simp [escape, ih n]

/-- Code is not escaped. -/
theorem escape_code (h : IsCode s) (r : List Char) :
    escape q 0 (s ++ r) = s ++ escape q 0 r := by
  obtain ⟨c, s, rfl⟩ := h.exists_cons
  rw [List.cons_append, List.cons_append]
  simp only [escape, codeLength?_of_isCode h]
  rw [escape_eq_drop, List.take_left, List.drop_left]

/-- Where no code begins, none begins after escaping. -/
theorem not_beginsCode_escape (h : ¬BeginsCode (c :: s)) :
    ¬BeginsCode (c :: escape q 0 s) := by
  have hmem {d : Char} (hdouble : d ∉ "&quot;".toList) (hsingle : d ∉ "&apos;".toList)
      (hd : d ∈ escape q 0 s) : d ∈ s :=
    not_imp_not.1 (not_mem_escape q hdouble hsingle 0 s) hd
  rw [beginsCode_cons_iff] at h ⊢
  exact mt (Or.imp (And.imp_right (hmem (by decide) (by decide)))
    (And.imp_right (hmem (by decide) (by decide)))) h

/-- The texts of a line are escaped, and its code stays. -/
theorem IsSplit.escape (h : IsSplit s g) (q : Quotes) :
    IsSplit (escape q 0 s) (g.mapTexts (List.flatMap q.entity)) := by
  induction h with
  | nil => exact .nil
  | code hk _ ih =>
    rw [escape_code hk]
    exact .code hk ih
  | @text c s g hcode _ ih =>
    have hescape : Entity.escape q 0 (c :: s) = q.entity c ++ Entity.escape q 0 s := by
      simp only [Entity.escape, codeLength?_of_not_beginsCode hcode]
    have hrow : (g.addText [c]).mapTexts (List.flatMap q.entity) =
        (g.mapTexts (List.flatMap q.entity)).addText (q.entity c) := by
      simp [Segments.mapTexts, Segments.addText]
    rw [hescape, hrow]
    rcases entity_cases q c with hc | hc
    · rw [hc]
      exact .text (not_beginsCode_escape hcode) ih
    · exact ih.append (hc.not_mem (by decide)) (hc.not_mem (by decide))

/-- Nothing is to be escaped in an escaped line. -/
theorem escape_escape (q : Quotes) (s : List Char) :
    escape q 0 (escape q 0 s) = escape q 0 s := by
  obtain ⟨g, hg⟩ := exists_isSplit s
  have hagain : (g.mapTexts (List.flatMap q.entity)).mapTexts (List.flatMap q.entity) =
      g.mapTexts (List.flatMap q.entity) := by
    have htext (t : List Char) :
        (t.flatMap q.entity).flatMap q.entity = t.flatMap q.entity := by
      simp only [List.flatMap_assoc, flatMap_entity_entity]
    simp [Segments.mapTexts, htext]
  rw [← ((hg.escape q).escape q).chars_eq, hagain, (hg.escape q).chars_eq]

/-! ## Reading entities -/

/-- An entity that a text starts with: the number of its characters behind the first, and the
    quote. -/
def entity? (s : List Char) : Option (Nat × List Char) :=
  if startsWith "&quot;".toList s then some (5, ['"'])
  else if startsWith "&apos;".toList s then some (5, ['\''])
  else none

/-- The text with the quotes that its entities stand for. -/
def decoded (s : List Char) : List Char := substitute entity? 0 s

/-- An entity is decoded to what it stands for. -/
theorem decoded_entity (h : IsEntity w c) (s : List Char) : decoded (w ++ s) = c :: decoded s := by
  cases h with
  | double | single => rfl

/-- What begins no entity is decoded to itself. -/
theorem decoded_cons (h : ∀ w d, IsEntity w d → ¬w <+: c :: s) :
    decoded (c :: s) = c :: decoded s := by
  have hnone : entity? (c :: s) = none := by
    rw [entity?, if_neg, if_neg]
    · exact mt startsWith_iff.1 (h _ _ .single)
    · exact mt startsWith_iff.1 (h _ _ .double)
  simp only [decoded, substitute, hnone]

/-- A character stays as it is, or it is a quote that becomes an entity. -/
theorem escape_cons (q : Quotes) (n : Nat) (c : Char) (s : List Char) :
    (∃ m, escape q n (c :: s) = c :: escape q m s) ∨
      ∃ w, IsEntity w c ∧ escape q n (c :: s) = w ++ escape q 0 s := by
  cases n with
  | succ n => exact .inl ⟨n, rfl⟩
  | zero =>
    cases hcode : codeLength? (c :: s) with
    | some n => exact .inl ⟨n, by simp only [escape, hcode]⟩
    | none =>
      have hescape : escape q 0 (c :: s) = q.entity c ++ escape q 0 s := by
        simp only [escape, hcode]
      rcases entity_cases q c with hc | hc
      · exact .inl ⟨0, by rw [hescape, hc, List.singleton_append]⟩
      · exact .inr ⟨_, hc, hescape⟩

/-- What is no quote stays as it is. -/
theorem exists_escape_append (hdouble : '"' ∉ w) (hsingle : '\'' ∉ w) (n : Nat) (s : List Char) :
    ∃ m, escape q n (w ++ s) = w ++ escape q m s := by
  induction w generalizing n with
  | nil => exact ⟨n, rfl⟩
  | cons c w ih =>
    rw [List.mem_cons, not_or] at hdouble hsingle
    rcases escape_cons q n c (w ++ s) with ⟨m, hm⟩ | ⟨_, hc, -⟩
    · obtain ⟨m', hm'⟩ := ih hdouble.2 hsingle.2 m
      exact ⟨m', by rw [List.cons_append, hm, hm', List.cons_append]⟩
    · rcases hc.isQuote with rfl | rfl
      · exact absurd rfl hdouble.1
      · exact absurd rfl hsingle.1

/-- An entity has an ampersand at its head, and nowhere else. -/
theorem IsEntity.exists_cons (h : IsEntity w c) : ∃ v, w = '&' :: v ∧ '&' ∉ v := by
  cases h with
  | double => exact ⟨"quot;".toList, rfl, by decide⟩
  | single => exact ⟨"apos;".toList, rfl, by decide⟩

/-- What an escaped line starts with was there before, if no entity begins in it. -/
theorem prefix_of_prefix_escape (hv : '&' ∉ v) (h : v <+: escape q n s) : v <+: s := by
  induction v generalizing n s with
  | nil => exact List.nil_prefix
  | cons d v ih =>
    rw [List.mem_cons, not_or] at hv
    cases s with
    | nil => simp [escape] at h
    | cons c s =>
      rcases escape_cons q n c s with ⟨m, hm⟩ | ⟨w, hw, hm⟩
      · rw [hm, List.cons_prefix_cons] at h
        exact List.cons_prefix_cons.2 ⟨h.1, ih hv.2 h.2⟩
      · obtain ⟨u, rfl, -⟩ := hw.exists_cons
        rw [hm, List.cons_append, List.cons_prefix_cons] at h
        exact absurd h.1.symm hv.1

/-- The entities of the escaped line stand for what was there before. -/
theorem decoded_escape (q : Quotes) (n : Nat) (s : List Char) :
    decoded (escape q n s) = decoded s := by
  induction hlength : s.length using Nat.strong_induction_on generalizing n s with
  | h l ih =>
    by_cases hentity : ∃ w d, IsEntity w d ∧ w <+: s
    · -- An entity that is there already stays as it is.
      obtain ⟨w, d, hw, r, rfl⟩ := hentity
      obtain ⟨m, hm⟩ := exists_escape_append (q := q) (hw.not_mem (by decide))
        (hw.not_mem (by decide)) n r
      obtain ⟨u, rfl, -⟩ := hw.exists_cons
      have hlt : r.length < l := by
        rw [← hlength, List.length_append, List.length_cons]
        omega
      rw [hm, decoded_entity hw, decoded_entity hw, ih _ hlt m r rfl]
    · cases s with
      | nil => rfl
      | cons c s =>
        have hnone : ∀ w d, IsEntity w d → ¬w <+: c :: s :=
          fun w d hw hprefix => hentity ⟨w, d, hw, hprefix⟩
        have hlt : s.length < l := by
          rw [← hlength, List.length_cons]
          omega
        rcases escape_cons q n c s with ⟨m, hm⟩ | ⟨w, hw, hm⟩
        · rw [hm, decoded_cons hnone, decoded_cons, ih _ hlt m s rfl]
          -- No entity comes about from an ampersand and what is put in behind it.
          intro w d hw hprefix
          obtain ⟨u, rfl, hu⟩ := hw.exists_cons
          obtain ⟨rfl, hrest⟩ := List.cons_prefix_cons.1 hprefix
          exact hnone _ d hw (List.cons_prefix_cons.2 ⟨rfl, prefix_of_prefix_escape hu hrest⟩)
        · rw [hm, decoded_entity hw, decoded_cons hnone, ih _ hlt 0 s rfl]

/-! ## Escaping a line -/

/-- The message names the quote. -/
def IsNamed (message : List Char) (c : Char) : Prop := ['\x60', c, '\x60'] <:+: message

/-- The quote is one that the message names, or the message names none. -/
def IsSelected (message : List Char) (c : Char) : Prop :=
  c ∈ ['"', '\''] ∧ (IsNamed message c ∨ ∀ d ∈ ['"', '\''], ¬IsNamed message d)

/-- A quote that is selected is escaped by an entity for it. -/
theorem isEntity_of_isSelected (h : IsSelected message c) :
    IsEntity ((Quotes.ofMessage message).entity c) c := by
  have hnamed (d : Char) : occurs ['\x60', d, '\x60'] message = true ↔ IsNamed message d :=
    occurs_iff
  obtain ⟨hc, h⟩ := h
  simp only [List.mem_cons, List.not_mem_nil, or_false, forall_eq_or_imp, forall_eq, ← hnamed,
    Bool.not_eq_true] at hc h
  rcases hc with rfl | rfl
  · have hdouble : (Quotes.ofMessage message).double = true := by
      rcases h with h | ⟨h, h'⟩ <;> simp [Quotes.ofMessage, *]
    have hentity : (Quotes.ofMessage message).entity '"' = "&quot;".toList := if_pos ⟨rfl, hdouble⟩
    exact hentity ▸ .double
  · have hsingle : (Quotes.ofMessage message).single = true := by
      rcases h with h | ⟨h, h'⟩ <;> simp [Quotes.ofMessage, *]
    have hentity : (Quotes.ofMessage message).entity '\'' = "&apos;".toList := by
      rw [Quotes.entity, if_neg (by simp), if_pos ⟨rfl, hsingle⟩]
    exact hentity ▸ .single

/-- A quote that is to be escaped is in no text any more. -/
theorem not_mem_flatMap_entity (h : IsEntity (q.entity c) c) (t : List Char) :
    c ∉ t.flatMap q.entity := by
  rw [List.mem_flatMap]
  rintro ⟨d, -, hc⟩
  rcases entity_cases q d with hd | hd
  · obtain rfl : c = d := by simpa [hd] using hc
    obtain ⟨v, hv, -⟩ := h.exists_cons
    rcases h.isQuote with rfl | rfl <;> simp [hd] at hv
  · rcases h.isQuote with rfl | rfl
    · exact hd.not_mem (by decide) hc
    · exact hd.not_mem (by decide) hc

/-- The line is cut into the same code before and after it is escaped, its texts are free of the
    quotes that are to be escaped, and its entities and quotes read the same. Escaping it another
    time changes nothing. The other lines stay as they are. -/
theorem getElem?_lines_repair_segments (n : Int) (message content : List Char) :
    repair n message (repair n message content) = repair n message content ∧
    ∀ (i : Nat) (line : List Char), (lines content)[i]? = some line →
      ∃ line', (lines (repair n message content))[i]? = some line' ∧
        if (i : Int) + 1 = n then
          (split 0 line').codes = (split 0 line).codes ∧
          (∀ t ∈ (split 0 line').texts, ∀ c, IsSelected message c → c ∉ t) ∧
          decoded line' = decoded line
        else line' = line := by
  have hlines (s : List Char) := getElem?_lines_modifyLine
    (keepsLine_escape (.ofMessage message)) n s
  constructor
  · exact modifyLine_modifyLine (keepsLine_escape _) (escape_escape _) n content
  · intro i line hline
    simp only [repair, hlines, hline, Option.map_some]
    split
    next =>
      have hsplit := ((isSplit_split line).escape (.ofMessage message)).eq
      refine ⟨_, rfl, ?_, ?_, decoded_escape _ 0 line⟩
      · rw [hsplit, Segments.codes_mapTexts]
      · rw [hsplit, Segments.texts_mapTexts, List.forall_mem_map]
        exact fun t _ c hc => not_mem_flatMap_entity (isEntity_of_isSelected hc) t
    next => exact ⟨line, rfl, rfl⟩

end Mender.Repair.Entity
