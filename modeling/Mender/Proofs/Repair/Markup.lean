import Mender.Proofs.Repair.Line

/-!
# Tags, expressions and the text between them

A line of markup is a row of parts (`Part`): tags, whose attributes may be values in quotes or
expressions in braces, expressions, in which braces are balanced, and text. Only the quotes of
texts are to be written as entities (`Part.escaped`).

A tag is taken to end with its first closing bracket, and an expression with its first closing
brace. What stands behind that in the same part is read from there on like the rest of the line, so
that some of it may pass for text (`Part.misread?`). If no bracket is left open there, the parts of
a line are escaped one by one (`escape_line`), and as they should be exactly if there is nothing to
be escaped in what passes for text (`getElem?_lines_repair_parts`). But an arrow in an attribute
ends a tag, and an object in an expression the expression, and then the quotes that follow in the
same part are escaped (`quotes_of_code_escaped`).
-/

namespace Mender.Repair.Entity

open Text

variable {q : Quotes} {s t r : List Char} {skip : Nat} {c : Char}

/-! ## Parts -/

/-- Braces are balanced in the text. -/
inductive IsBalanced : List Char → Prop
  | nil : IsBalanced []
  | cons {c : Char} {s : List Char} : c ≠ '{' → c ≠ '}' → IsBalanced s → IsBalanced (c :: s)
  | braces {s t : List Char} : IsBalanced s → IsBalanced t → IsBalanced ('{' :: (s ++ '}' :: t))

/-- The text may stand between the brackets of a tag: values in quotes, expressions in braces, and
    what else there is in a tag. -/
inductive IsAttributes : List Char → Prop
  | nil : IsAttributes []
  | cons {c : Char} {s : List Char} : c ∉ ['>', '{', '"', '\''] → IsAttributes s →
      IsAttributes (c :: s)
  | value {c : Char} {v s : List Char} : c ∈ ['"', '\''] → c ∉ v → IsAttributes s →
      IsAttributes (c :: (v ++ c :: s))
  | expression {e s : List Char} : IsBalanced e → IsAttributes s →
      IsAttributes ('{' :: (e ++ '}' :: s))

/-- Text without braces in front of a balanced expression leaves it balanced. -/
theorem IsBalanced.append (hopen : '{' ∉ s) (hclose : '}' ∉ s) (ht : IsBalanced t) :
    IsBalanced (s ++ t) := by
  induction s with
  | nil => exact ht
  | cons c s ih =>
    rw [List.mem_cons, not_or] at hopen hclose
    exact .cons (Ne.symm hopen.1) (Ne.symm hclose.1) (ih hopen.2 hclose.2)

theorem IsBalanced.of_not_mem (hopen : '{' ∉ s) (hclose : '}' ∉ s) : IsBalanced s := by
  simpa using IsBalanced.append hopen hclose .nil

/-- Text without brackets, braces and quotes in front of attributes leaves them attributes. -/
theorem IsAttributes.append (hs : s.all (· ∉ ['>', '{', '"', '\''])) (ht : IsAttributes t) :
    IsAttributes (s ++ t) := by
  induction s with
  | nil => exact ht
  | cons c s ih =>
    rw [List.all_cons, Bool.and_eq_true, decide_eq_true_eq] at hs
    exact .cons hs.1 (ih hs.2)

/-- A part of a line of markup. -/
inductive Part
  | text (s : List Char) (h : '<' ∉ s ∧ '{' ∉ s)
  | tag (attributes : List Char) (h : IsAttributes attributes)
  | expression (body : List Char) (h : IsBalanced body)

/-- What is taken for text: what stands outside of pieces that an opening bracket begins and the
    first closing one ends, given that there is one. The first `skip` characters are code. -/
def outside? : (skip : Nat) → List Char → Option (List Char)
  | 0, [] => some []
  | _ + 1, [] => none
  | skip + 1, _ :: s => outside? skip s
  | 0, c :: s =>
    match codeLength? (c :: s) with
    | some n => outside? n s
    | none => if c = '<' ∨ c = '{' then none else (outside? 0 s).map (c :: ·)

namespace Part

/-- The characters of a part. -/
def chars : Part → List Char
  | text s _ => s
  | tag s _ => '<' :: (s ++ ['>'])
  | expression s _ => '{' :: (s ++ ['}'])

/-- The characters of a part with the quotes of a text as entities. -/
def escaped (q : Quotes) : Part → List Char
  | text s _ => s.flatMap q.entity
  | tag s h => (tag s h).chars
  | expression s h => (expression s h).chars

/-- What of a tag or an expression is taken for text, given that no bracket is left open. -/
def misread? : Part → Option (List Char)
  | text _ _ => some []
  | tag s h => outside? 0 (tag s h).chars
  | expression s h => outside? 0 (expression s h).chars

/-- There is nothing to be escaped in what is taken for text. -/
def IsQuiet (q : Quotes) (p : Part) : Prop := ∀ t ∈ p.misread?, ∀ c ∈ t, q.entity c = [c]

end Part

/-- The line of the given parts. -/
def line (ps : List Part) : List Char := ps.flatMap Part.chars

/-- The line of the given parts, with the quotes of the texts as entities. -/
def escapedLine (q : Quotes) (ps : List Part) : List Char := ps.flatMap (Part.escaped q)

/-! ## Pieces of code -/

/-- A piece of code: an opening bracket, and what follows it up to the first closing one. -/
inductive IsCode : List Char → Prop
  | tag {s : List Char} : '>' ∉ s → IsCode ('<' :: (s ++ ['>']))
  | expression {s : List Char} : '}' ∉ s → IsCode ('{' :: (s ++ ['}']))

theorem IsCode.exists_cons (h : IsCode s) : ∃ c t, s = c :: t := by
  cases h with
  | tag | expression => exact ⟨_, _, rfl⟩

theorem findIdx?_of_not_mem (h : c ∉ s) : s.findIdx? (· == c) = none :=
  List.findIdx?_eq_none_iff.2 fun _ hd => beq_false_of_ne fun heq => h (heq ▸ hd)

theorem findIdx?_append_cons (h : c ∉ s) (r : List Char) :
    (s ++ c :: r).findIdx? (· == c) = some s.length := by
  rw [List.findIdx?_append, findIdx?_of_not_mem h]
  simp [List.findIdx?_cons]

/-- Code is found to its end, whatever follows. -/
theorem codeLength?_of_isCode (h : IsCode (c :: s)) (r : List Char) :
    codeLength? (c :: (s ++ r)) = some s.length := by
  cases h with
  | tag hs | expression hs => simp [codeLength?, findIdx?_append_cons hs]

/-- No code begins with another character than an opening bracket. -/
theorem codeLength?_eq_none (h : c ≠ '<' ∧ c ≠ '{') (s : List Char) :
    codeLength? (c :: s) = none := by
  unfold codeLength?
  split
  · next heq => exact absurd (List.cons.inj heq).1 h.1
  · next heq => exact absurd (List.cons.inj heq).1 h.2
  · rfl

/-- Code that is found is found whatever follows. -/
theorem codeLength?_append {n : Nat} (h : codeLength? s = some n) (r : List Char) :
    codeLength? (s ++ r) = some n := by
  revert h
  fun_cases codeLength? s with
  | case1 s | case2 s =>
    intro h
    obtain ⟨i, hi, rfl⟩ := Option.map_eq_some_iff.1 h
    simp [codeLength?, List.findIdx?_append, hi]
  | case3 => simp

theorem outside?_length (s : List Char) : outside? s.length s = some [] := by
  induction s with
  | nil => rfl
  | cons c s ih => exact ih

/-- Nothing of code is outside of it. -/
theorem outside?_of_isCode (h : IsCode s) : outside? 0 s = some [] := by
  obtain ⟨c, s, rfl⟩ := h.exists_cons
  have hcode := codeLength?_of_isCode h []
  rw [List.append_nil] at hcode
  simp only [outside?, hcode]
  exact outside?_length s

/-! ## Escaping a piece of a line -/

/-- A character that is written as an entity does not begin it. -/
theorem entity_append_eq_cons_iff :
    q.entity c ++ s = c :: t ↔ q.entity c = [c] ∧ s = t := by
  constructor
  · fun_cases Quotes.entity q c with
    | case1 h | case2 _ h =>
      -- The entity begins with an ampersand.
      intro heq
      simp [h.1] at heq
    | case3 =>
      intro heq
      exact ⟨rfl, (List.cons.inj heq).2⟩
  · rintro ⟨hentity, rfl⟩
    rw [hentity, List.singleton_append]

theorem length_entity_pos (q : Quotes) (c : Char) : 0 < (q.entity c).length := by
  unfold Quotes.entity
  split
  · decide
  · split
    · decide
    · exact Nat.one_pos

/-- Escaping makes no line shorter. -/
theorem length_le_length_escape (q : Quotes) (skip : Nat) (s : List Char) :
    s.length ≤ (escape q skip s).length := by
  fun_induction escape q skip s with
  | case1 => exact le_rfl
  | case2 skip c s ih => exact Nat.succ_le_succ ih
  | case3 c s n _ ih => exact Nat.succ_le_succ ih
  | case4 c s _ ih =>
    have := length_entity_pos q c
    rw [List.length_append, List.length_cons]
    omega

/-- If no bracket is left open, then the rest of the line is escaped on its own. -/
theorem escape_append (h : outside? skip s = some t) (r : List Char) :
    escape q skip (s ++ r) = escape q skip s ++ escape q 0 r := by
  fun_induction outside? skip s generalizing t with
  | case1 => simp [escape]
  | case2 => cases h
  | case3 skip c s ih => rw [List.cons_append, escape, escape, ih h, List.cons_append]
  | case4 c s n hn ih =>
    have hcode := codeLength?_append hn r
    rw [List.cons_append] at hcode ⊢
    simp only [escape, hcode, hn, ih h, List.cons_append]
  | case5 => cases h
  | case6 c s hnone hc ih =>
    obtain ⟨u, hu, -⟩ := Option.map_eq_some_iff.1 h
    -- It is no bracket, so no code begins here whatever the rest of the line is.
    have hcode := codeLength?_eq_none (not_or.1 hc) (s ++ r)
    rw [List.cons_append]
    simp only [escape, hcode, hnone, ih hu, List.append_assoc]

/-- The piece stays as it is exactly if there is nothing to be escaped in what is taken for
    text. -/
theorem escape_eq_self_iff (h : outside? skip s = some t) :
    escape q skip s = s ↔ ∀ c ∈ t, q.entity c = [c] := by
  fun_induction outside? skip s generalizing t with
  | case1 => cases h; simp [escape]
  | case2 => cases h
  | case3 skip c s ih => rw [escape, List.cons_inj_right, ih h]
  | case4 c s n hn ih => simp only [escape, hn]; rw [List.cons_inj_right, ih h]
  | case5 => cases h
  | case6 c s hnone _ ih =>
    obtain ⟨u, hu, rfl⟩ := Option.map_eq_some_iff.1 h
    simp only [escape, hnone]
    rw [entity_append_eq_cons_iff, ih hu, List.forall_mem_cons]

/-! ## Escaping a part -/

/-- A text is taken for text. -/
theorem outside?_text (htag : '<' ∉ s) (hbrace : '{' ∉ s) : outside? 0 s = some s := by
  induction s with
  | nil => rfl
  | cons c s ih =>
    rw [List.mem_cons, not_or] at htag hbrace
    have hc : c ≠ '<' ∧ c ≠ '{' := ⟨Ne.symm htag.1, Ne.symm hbrace.1⟩
    simp only [outside?, codeLength?_eq_none hc, if_neg (not_or.2 hc), ih htag.2 hbrace.2,
      Option.map_some]

/-- Text without code is escaped character by character. -/
theorem escape_text (htag : '<' ∉ s) (hbrace : '{' ∉ s) :
    escape q 0 s = s.flatMap q.entity := by
  induction s with
  | nil => rfl
  | cons c s ih =>
    rw [List.mem_cons, not_or] at htag hbrace
    have hc : c ≠ '<' ∧ c ≠ '{' := ⟨Ne.symm htag.1, Ne.symm hbrace.1⟩
    simp only [escape, codeLength?_eq_none hc, ih htag.2 hbrace.2, List.flatMap_cons]

namespace Part

variable {p : Part}

/-- Nothing of a tag passes for text if no other closing bracket stands in it. -/
theorem misread?_tag (h : IsAttributes s) (hs : '>' ∉ s) : (tag s h).misread? = some [] :=
  outside?_of_isCode (.tag hs)

/-- Nothing of an expression passes for text if no other closing brace stands in it. -/
theorem misread?_expression (h : IsBalanced s) (hs : '}' ∉ s) :
    (expression s h).misread? = some [] :=
  outside?_of_isCode (.expression hs)

/-- A part is quiet if nothing that is misread of it is escaped. -/
theorem isQuiet_iff (h : p.misread? = some t) : p.IsQuiet q ↔ ∀ c ∈ t, q.entity c = [c] := by
  simp only [IsQuiet, h, Option.mem_def, Option.some_inj, forall_eq']

/-- There is nothing to be escaped where there are no quotes. -/
theorem isQuiet_of_not_mem (h : p.misread? = some t) (hdouble : '"' ∉ t) (hsingle : '\'' ∉ t) :
    p.IsQuiet q := by
  rw [isQuiet_iff h]
  intro c hc
  have hc₁ : c ≠ '"' := fun heq => hdouble (heq ▸ hc)
  have hc₂ : c ≠ '\'' := fun heq => hsingle (heq ▸ hc)
  simp [Quotes.entity, hc₁, hc₂]

/-- If what is misread of a part is known, none of its brackets is left open. -/
theorem outside?_chars (h : p.misread?.isSome) : ∃ t, outside? 0 p.chars = some t := by
  cases p with
  | text s hs => exact ⟨s, outside?_text hs.1 hs.2⟩
  | tag | expression => exact Option.isSome_iff_exists.1 h

/-- A part is escaped as it should be exactly if there is nothing to be escaped in what of it is
    taken for text without being one. -/
theorem escape_chars_eq_iff (h : p.misread?.isSome) :
    escape q 0 p.chars = p.escaped q ↔ p.IsQuiet q := by
  cases p with
  | text s hs => simp [chars, escaped, IsQuiet, misread?, escape_text hs.1 hs.2]
  | tag | expression =>
    obtain ⟨t, ht⟩ := Option.isSome_iff_exists.1 h
    rw [escaped, isQuiet_iff ht, escape_eq_self_iff ht]

theorem length_escaped_le (q : Quotes) (p : Part) :
    (p.escaped q).length ≤ (escape q 0 p.chars).length := by
  cases p with
  | text s hs => rw [chars, escaped, escape_text hs.1 hs.2]
  | tag | expression => exact length_le_length_escape q 0 _

end Part

/-! ## Escaping a line -/

/-- The parts of a line are escaped one by one. -/
theorem escape_line {ps : List Part} (h : ∀ p ∈ ps, p.misread?.isSome) (r : List Char) :
    escape q 0 (line ps ++ r) = ps.flatMap (fun p => escape q 0 p.chars) ++ escape q 0 r := by
  induction ps with
  | nil => rfl
  | cons p ps ih =>
    obtain ⟨hp, hps⟩ := List.forall_mem_cons.1 h
    obtain ⟨t, ht⟩ := Part.outside?_chars hp
    rw [line, List.flatMap_cons, List.append_assoc, escape_append ht, List.flatMap_cons,
      List.append_assoc]
    exact congrArg _ (ih hps)

/-- What is escaped beside the texts only adds characters. -/
theorem length_escapedLine_le (q : Quotes) (ps : List Part) :
    (escapedLine q ps).length ≤ (ps.flatMap fun p => escape q 0 p.chars).length := by
  induction ps with
  | nil => exact le_rfl
  | cons p ps ih =>
    rw [escapedLine, List.flatMap_cons, List.flatMap_cons, List.length_append, List.length_append]
    exact Nat.add_le_add (p.length_escaped_le q) ih

/-- No part makes up for what another one has too many. -/
theorem flatMap_escape_eq_iff {ps : List Part} (h : ∀ p ∈ ps, p.misread?.isSome) :
    ps.flatMap (fun p => escape q 0 p.chars) = escapedLine q ps ↔ ∀ p ∈ ps, p.IsQuiet q := by
  induction ps with
  | nil => simp [escapedLine]
  | cons p ps ih =>
    obtain ⟨hp, hps⟩ := List.forall_mem_cons.1 h
    have hpart := p.length_escaped_le q
    have hrest := length_escapedLine_le q ps
    rw [List.forall_mem_cons, ← Part.escape_chars_eq_iff hp, ← ih hps, List.flatMap_cons]
    constructor
    · -- The part is no shorter than it should be, and neither are the others.
      intro heq
      have hlength := congrArg List.length heq
      rw [escapedLine, List.flatMap_cons, List.length_append, List.length_append] at hlength
      exact List.append_inj heq (by rw [escapedLine] at hrest; omega)
    · rintro ⟨hp, hps⟩
      rw [hp, hps, escapedLine, escapedLine, List.flatMap_cons]

/-- Of the reported line, as far as it is a row of tags, expressions and texts, the quotes of the
    texts become entities, and the tags and expressions stay as they are, exactly if no quote that
    is to be an entity stands in what of a tag or an expression is taken for text; no bracket may
    be left open there. The other lines stay as they are. -/
theorem getElem?_lines_repair_parts {message content : List Char} {j : Nat} {ps : List Part}
    (hline : (lines content)[j]? = some (line ps ++ r))
    (hps : ∀ p ∈ ps, p.misread?.isSome) :
    ((lines (repair (j + 1) message content))[j]? =
        some (escapedLine (.ofMessage message) ps ++ escape (.ofMessage message) 0 r) ↔
      ∀ p ∈ ps, p.IsQuiet (.ofMessage message)) ∧
    ∀ i ≠ j, (lines (repair (j + 1) message content))[i]? = (lines content)[i]? := by
  have hlines := getElem?_lines_modifyLine (keepsLine_escape (.ofMessage message)) (j + 1) content
  constructor
  · rw [repair, hlines, if_pos rfl, hline, Option.map_some, escape_line hps, Option.some_inj,
      List.append_left_inj, flatMap_escape_eq_iff hps]
  · intro i hi
    rw [repair, hlines, if_neg (by omega)]

/-- The quotes of a value and of an expression stay as they are, also next to an arrow. -/
theorem getElem?_lines_repair_link :
    let message := "`'` can be escaped with `&apos;`".toList
    let link := "a title=\"it's\" onClick=\x7b() => go()\x7d".toList
    let expression := "x ? 'a' : 'b'".toList
    let s := '<' :: (link ++ ">it's \x7b".toList ++ expression ++ "\x7d</a>".toList)
    ∃ ps : List Part, (lines s)[0]? = some (line ps ++ []) ∧ (∀ p ∈ ps, p.misread?.isSome) ∧
      (∀ p ∈ ps, p.IsQuiet (.ofMessage message)) ∧
      (lines (repair 1 message s))[0]? = some
        ('<' :: (link ++ ">it&apos;s \x7b".toList ++ expression ++ "\x7d</a>".toList)) := by
  intro message link expression s
  have hlink : IsAttributes link :=
    .append (s := "a title=".toList) (by decide) <|
    .value (c := '"') (v := "it's".toList) (by decide) (by decide) <|
    .append (s := " onClick=".toList) (by decide) <|
    .expression (e := "() => go()".toList) (.of_not_mem (by decide) (by decide)) .nil
  have hclose : IsAttributes "/a".toList := .append (s := "/a".toList) (by decide) .nil
  let ps : List Part := [.tag link hlink, .text "it's ".toList (by decide),
    .expression expression (.of_not_mem (by decide) (by decide)), .tag "/a".toList hclose]
  have hps : ∀ p ∈ ps, p.misread?.isSome := by
    simp only [ps, List.forall_mem_cons]
    exact ⟨rfl, rfl, rfl, rfl, by simp⟩
  have hquiet : ∀ p ∈ ps, p.IsQuiet (.ofMessage message) := by
    simp only [ps, List.forall_mem_cons]
    have harrow : (Part.tag link hlink).misread? = some " go()\x7d>".toList := rfl
    have hexpression := Part.misread?_expression (s := expression)
      (.of_not_mem (by decide) (by decide)) (by decide)
    have htag := Part.misread?_tag hclose (by decide)
    exact ⟨Part.isQuiet_of_not_mem harrow (by decide) (by decide),
      Part.isQuiet_of_not_mem rfl List.not_mem_nil List.not_mem_nil,
      Part.isQuiet_of_not_mem hexpression List.not_mem_nil List.not_mem_nil,
      Part.isQuiet_of_not_mem htag List.not_mem_nil List.not_mem_nil, by simp⟩
  have hline : (lines s)[0]? = some (line ps ++ []) := rfl
  exact ⟨ps, hline, hps, hquiet, (getElem?_lines_repair_parts (j := 0) hline hps).1.2 hquiet⟩

/-- An arrow ends a tag, and an object in an expression the expression, so that quotes of code are
    replaced. -/
theorem quotes_of_code_escaped :
    let message := "`'` can be escaped with `&apos;`".toList
    IsAttributes "button onClick=\x7b() => f('x')\x7d".toList ∧
    repair 1 message "<button onClick=\x7b() => f('x')\x7d>it's</button>".toList =
      "<button onClick=\x7b() => f(&apos;x&apos;)\x7d>it&apos;s</button>".toList ∧
    IsBalanced "f(\x7b a: 1 \x7d, 'x')".toList ∧
    repair 1 message "<p>\x7bf(\x7b a: 1 \x7d, 'x')\x7d</p>".toList =
      "<p>\x7bf(\x7b a: 1 \x7d, &apos;x&apos;)\x7d</p>".toList := by
  refine ⟨?_, by decide +kernel, ?_, by decide +kernel⟩
  · exact .append (s := "button onClick=".toList) (by decide)
      (.expression (e := "() => f('x')".toList) (.of_not_mem (by decide) (by decide)) .nil)
  · exact .append (s := "f(".toList) (by decide) (by decide)
      (.braces (s := " a: 1 ".toList) (.of_not_mem (by decide) (by decide))
        (.of_not_mem (by decide) (by decide)))

end Mender.Repair.Entity
