import Mathlib.Data.List.Infix
import Mender.BuildLog
import Mender.Proofs.Text.Lines
import Mender.Proofs.Text.Scan

/-!
# The forms of lines

What a line of a build log has to look like, as a grammar: a header is the path of a source
file (`IsSourcePath`), a location such a path with two numbers behind it (`IsLocation`), and
a detail has two numbers, a severity, a message and the name of a rule (`IsDetail`). A text
is cut into these parts in one way at most, and no line has two of the forms, as a line
ends differently in each. So a line is read as the form that it has (`Line.ofText_eq_iff`).
-/

namespace Mender.BuildLog

open Text

/-! ## Parts of lines -/

/-- The path of a source file: a character that is no blank, anything else, a dot, and an
    extension. -/
def IsSourcePath (s : List Char) : Prop :=
  ∃ c stem, ∃ e ∈ extensions, s = c :: stem ++ '.' :: e.toList ∧ isBlank c = false

/-- A number in digits, which may be of any script. -/
def IsNumeral (s : List Char) : Prop := s ≠ [] ∧ ∀ c ∈ s, isDigit c = true

/-- Parts of word characters and hyphens, with slashes between them. -/
def IsBareName (s : List Char) : Prop :=
  ∃ parts, parts ≠ [] ∧ (∀ p ∈ parts, p ≠ [] ∧ ∀ c ∈ p, isRuleChar c = true) ∧
    s = joined ['/'] parts

/-- The name of a lint rule, in front of which there may be an at sign. -/
def IsRuleName (s : List Char) : Prop := IsBareName s ∨ ∃ r, s = '@' :: r ∧ IsBareName r

/-- Blanks, at least one. -/
def IsGap (s : List Char) : Prop := s ≠ [] ∧ allBlank s = true

/-- How a severity is written in a detail. -/
def heading : Severity → List Char
  | .error => "Error".toList
  | .warning => "Warning".toList

/-! ## Lines -/

/-- How a detail is written. Its message is trimmed, as there is more than one way to tell it
    from the blanks around it. -/
inductive IsDetail : List Char → Detail → Prop
  | mk {line column message rule b₀ b₁ b₂ b₃ b₄ : List Char} (severity : Severity) :
      IsNumeral line → IsNumeral column → message ≠ [] → IsRuleName rule →
      allBlank b₀ = true → IsGap b₁ → IsGap b₂ → IsGap b₃ → allBlank b₄ = true →
      IsDetail (b₀ ++ line ++ ':' :: column ++ b₁ ++ heading severity ++ ':' :: b₂ ++ message ++ b₃
        ++ rule ++ b₄) ⟨line, column, severity, trim message, rule⟩

/-- How a location is written. -/
structure IsLocation (s file line column : List Char) : Prop where
  text : s = file ++ ':' :: line ++ ':' :: column
  file : IsSourcePath file
  line : IsNumeral line
  column : IsNumeral column

/-- The form that a line has. -/
inductive Line.IsFormOf : Line → List Char → Prop
  | header {s : List Char} : IsSourcePath s → IsFormOf (.header s) s
  | location {s file line column : List Char} :
      IsLocation s file line column → IsFormOf (.location file line column) s
  | detail {s : List Char} {d : Detail} : IsDetail s d → IsFormOf (.detail d) s
  | blank {s : List Char} : allBlank s = true → IsFormOf .blank s
  | other {s : List Char} : allBlank s = false → ¬IsSourcePath s → (∀ d, ¬IsDetail s d) →
      (∀ file line column, ¬IsLocation s file line column) → IsFormOf .other s

/-! ## Characters -/

theorem isBlank_of_isRuleChar {c : Char} (h : isRuleChar c = true) : isBlank c = false := by
  rw [isRuleChar, Bool.or_eq_true, beq_iff_eq] at h
  rcases h with h | rfl
  · exact isBlank_of_isWord h
  · decide

theorem heading_ne_nil (severity : Severity) : heading severity ≠ [] := by
  cases severity <;> decide

theorem isBlank_of_mem_heading {severity : Severity} {c : Char} (h : c ∈ heading severity) :
    isBlank c = false := by
  have hnone : (heading severity).any isBlank = false := by cases severity <;> decide
  rw [List.any_eq_false] at hnone
  simpa using hnone c h

theorem isBlank_of_mem_extension {e : String} (he : e ∈ extensions) {c : Char}
    (h : c ∈ '.' :: e.toList) : isBlank c = false := by
  have hnone : ∀ e ∈ extensions, ('.' :: e.toList).any isBlank = false := by decide
  have hnone' := hnone e he
  rw [List.any_eq_false] at hnone'
  simpa using hnone' c h

section

variable {s t w r file line column message rule : List Char} {c : Char} {d d' : Detail}

theorem joined_ne_nil {sep : List Char} {fs : List (List Char)} (hne : fs ≠ [])
    (h : ∀ f ∈ fs, f ≠ []) : joined sep fs ≠ [] := by
  cases fs with
  | nil => exact absurd rfl hne
  | cons f fs =>
    have hf : f ≠ [] := h f List.mem_cons_self
    cases fs <;> simp [joined, hf]

theorem IsBareName.ne_nil (h : IsBareName s) : s ≠ [] := by
  obtain ⟨parts, hne, hparts, rfl⟩ := h
  exact joined_ne_nil hne fun p hp => (hparts p hp).1

theorem IsBareName.of_mem (h : IsBareName s) (hc : c ∈ s) : isRuleChar c = true ∨ c = '/' := by
  obtain ⟨parts, -, hparts, rfl⟩ := h
  rcases mem_joined hc with hc | ⟨p, hp, hc⟩
  · exact .inr (by simpa using hc)
  · exact .inl ((hparts p hp).2 c hc)

theorem IsRuleName.ne_nil (h : IsRuleName s) : s ≠ [] := by
  rcases h with h | ⟨r, rfl, -⟩
  · exact h.ne_nil
  · exact List.cons_ne_nil _ _

/-- The characters of the name of a rule. -/
theorem IsRuleName.of_mem (h : IsRuleName s) (hc : c ∈ s) :
    isRuleChar c = true ∨ c = '/' ∨ c = '@' := by
  rcases h with h | ⟨r, rfl, h⟩
  · exact (h.of_mem hc).imp_right .inl
  · rcases List.mem_cons.1 hc with rfl | hc
    · exact .inr (.inr rfl)
    · exact (h.of_mem hc).imp_right .inl

theorem IsRuleName.isBlank (h : IsRuleName s) (hc : c ∈ s) : isBlank c = false := by
  rcases h.of_mem hc with hc | rfl | rfl
  · exact isBlank_of_isRuleChar hc
  · decide
  · decide

/-! ## The parts are found -/

theorem isSourcePath_iff : isSourcePath s = true ↔ IsSourcePath s := by
  simp only [isSourcePath, Bool.and_eq_true, List.any_eq_true, List.isSuffixOf_iff_suffix,
    decide_eq_true_eq, Option.any_eq_true, Bool.not_eq_true']
  constructor
  · rintro ⟨⟨c, hc, hblank⟩, e, he, ⟨stem, rfl⟩, hlen⟩
    cases stem with
    | nil => simp [String.length_toList] at hlen
    | cons d stem =>
      obtain rfl : d = c := by simpa using hc
      exact ⟨d, stem, e, he, rfl, hblank⟩
  · rintro ⟨c, stem, e, he, rfl, hblank⟩
    refine ⟨⟨c, rfl, hblank⟩, e, he, ⟨c :: stem, rfl⟩, ?_⟩
    simp only [List.length_append, List.length_cons, String.length_toList]
    omega

instance (s : List Char) : Decidable (IsSourcePath s) := decidable_of_iff _ isSourcePath_iff

theorem isSourcePath_eq_false (h : ¬IsSourcePath s) : isSourcePath s = false := by
  rwa [← Bool.not_eq_true, isSourcePath_iff]

theorem isBareName_iff :
    ((fields '/' s).all fun part => part ≠ [] && part.all isRuleChar) = true ↔ IsBareName s := by
  simp only [List.all_eq_true, Bool.and_eq_true, decide_eq_true_eq]
  constructor
  · exact fun h => ⟨_, fields_ne_nil '/' s, h, (joined_fields '/' s).symm⟩
  · rintro ⟨parts, hne, hparts, rfl⟩
    rwa [fields_joined hne]
    intro p hp hslash
    exact absurd ((hparts p hp).2 _ hslash) (by decide)

theorem isRuleId_iff : isRuleId s = true ↔ IsRuleName s := by
  by_cases hat : ∃ r, s = '@' :: r
  · obtain ⟨r, rfl⟩ := hat
    -- An at sign is no part of a bare name.
    have hbare : ¬IsBareName ('@' :: r) := fun h =>
      absurd (h.of_mem List.mem_cons_self) (by decide)
    rw [isRuleId, isBareName_iff, IsRuleName]
    simp [hbare]
  · rw [isRuleId, isBareName_iff, IsRuleName]
    · exact ⟨.inl, fun h => h.resolve_right fun ⟨r, hs, _⟩ => hat ⟨r, hs⟩⟩
    · exact fun r hs => hat ⟨r, hs⟩

instance (s : List Char) : Decidable (IsRuleName s) := decidable_of_iff _ isRuleId_iff

theorem IsNumeral.reverse (h : IsNumeral s) : IsNumeral s.reverse :=
  ⟨by simpa using h.1, fun c hc => h.2 c (List.mem_reverse.1 hc)⟩

/-- Digits up to a colon. -/
theorem digits_append_colon (h : IsNumeral s) (r : List Char) :
    digits (s ++ ':' :: r) = (s, ':' :: r) :=
  span_eq_iff.2 ⟨rfl, h.2, by
    intro c hc
    obtain rfl : ':' = c := by simpa using hc
    decide⟩

/-- Two numbers at the end of a text, each behind a colon. -/
theorem trailingNumbers?_eq_some_iff :
    trailingNumbers? s = some (r, line, column) ↔
      s = r ++ ':' :: line ++ ':' :: column ∧ IsNumeral line ∧ IsNumeral column := by
  constructor
  · intro h
    rw [trailingNumbers?] at h
    split at h
    · next column' r₁ hcolumn =>
      split at h
      · next line' r₂ hline =>
        rw [Option.ite_none_left_eq_some, not_or] at h
        obtain ⟨⟨hline', hcolumn'⟩, h⟩ := h
        simp only [Option.some.injEq, Prod.mk.injEq] at h
        obtain ⟨rfl, rfl, rfl⟩ := h
        obtain ⟨hs, hdigits, -⟩ := span_eq_iff.1 hcolumn
        obtain ⟨rfl, hdigits', -⟩ := span_eq_iff.1 hline
        refine ⟨?_, IsNumeral.reverse ⟨hline', hdigits'⟩, IsNumeral.reverse ⟨hcolumn', hdigits⟩⟩
        rw [← List.reverse_reverse s, hs]
        simp
      · simp at h
    · simp at h
  · rintro ⟨rfl, hline, hcolumn⟩
    have hrev : (r ++ ':' :: line ++ ':' :: column).reverse =
        column.reverse ++ ':' :: (line.reverse ++ ':' :: r.reverse) := by simp
    rw [trailingNumbers?, hrev, digits_append_colon hcolumn.reverse]
    simp [digits_append_colon hline.reverse, hline.1, hcolumn.1]

theorem word?_heading {severity : Severity} :
    word? (heading severity ++ [':']) s = some r ↔ s = heading severity ++ ':' :: r := by
  rw [word?_eq_some_iff, List.append_assoc]
  rfl

theorem severity?_eq_some_iff {severity : Severity} :
    severity? s = some (severity, r) ↔ s = heading severity ++ ':' :: r := by
  rw [severity?, show "Error:".toList = heading .error ++ [':'] from rfl,
    show "Warning:".toList = heading .warning ++ [':'] from rfl, ← word?_heading]
  cases he : word? (heading .error ++ [':']) s with
  | none =>
    cases severity with
    | error => simp [he]
    | warning => cases word? (heading .warning ++ [':']) s <;> simp
  | some r' =>
    cases severity with
    | error => simp [he]
    | warning =>
      -- A text starts with one of the words at most.
      rw [word?_heading.1 he, show word? (heading .warning ++ [':']) (heading .error ++ _) = none
        from rfl]
      simp

/-- Between two blanks there is a text that is not empty, unless they are all that there is. -/
theorem exists_gaps (hhead : ∃ c ∈ s.head?, isBlank c = true)
    (hlast : ∃ c ∈ s.getLast?, isBlank c = true) (hlong : allBlank s = true → 3 ≤ s.length) :
    ∃ b m b', s = b ++ m ++ b' ∧ IsGap b ∧ m ≠ [] ∧ IsGap b' ∧ trim m = trim s := by
  obtain ⟨c, hc, hblank⟩ := hhead
  obtain ⟨d, hd, hblank'⟩ := hlast
  by_cases hall : allBlank s = true
  · -- The first and the last blank are enough on either side.
    obtain ⟨s', rfl⟩ : ∃ s', s = c :: s' := List.head?_eq_some_iff.1 hc
    have hlen := hlong hall
    obtain ⟨m, rfl⟩ : ∃ m, s' = m ++ [d] := by
      obtain ⟨m, hm⟩ := List.getLast?_eq_some_iff.1 hd
      cases m with
      | nil => simp at hlen hm; simp [hm] at hlen
      | cons e m => exact ⟨m, (List.cons.inj hm).2⟩
    simp only [allBlank_cons, allBlank_append] at hall
    refine ⟨[c], m, [d], by simp, ⟨by simp, by simp [hblank]⟩, ?_, ⟨by simp, by simp [hblank']⟩, ?_⟩
    · rintro rfl
      simp at hlen
    · rw [trim_eq_nil_iff.2 hall.2.1, trim_eq_nil_iff.2 (by simp [hall])]
  · obtain ⟨t, ht⟩ : ∃ t, trim s = t := ⟨_, rfl⟩
    have hne : t ≠ [] := by
      rintro rfl
      exact hall (trim_eq_nil_iff.1 ht)
    obtain ⟨b, b', rfl, hb, hb', htrimmed⟩ := trim_eq_iff.1 ht
    refine ⟨b, t, b', rfl, ⟨?_, hb⟩, hne, ⟨?_, hb'⟩, by rw [ht, htrimmed.trim_eq]⟩
    · rintro rfl
      rw [List.nil_append, List.head?_append_of_ne_nil _ hne] at hc
      simp [htrimmed.head c hc] at hblank
    · rintro rfl
      rw [List.append_nil, List.getLast?_append_of_ne_nil _ hne] at hd
      simp [htrimmed.last d hd] at hblank'

/-- The message and the rule of a detail have blanks around them. -/
theorem exists_of_messageAndRule? (h : messageAndRule? s = some (message, rule)) :
    ∃ b m b' b'', s = b ++ m ++ b' ++ rule ++ b'' ∧ IsGap b ∧ m ≠ [] ∧ IsGap b' ∧
      IsRuleName rule ∧ allBlank b'' = true ∧ message = trim m := by
  rw [messageAndRule?] at h
  obtain ⟨b'', hs, hb'', -⟩ := exists_trimEnd s
  rcases hspan : (trimEnd s).reverse.span (!isBlank ·) with ⟨word, before⟩
  obtain ⟨hcut, hword, hbefore⟩ := span_eq_iff.1 hspan
  simp only [hspan, Option.ite_none_right_eq_some, Bool.and_eq_true, isRuleId_iff,
    Option.some.injEq, Prod.mk.injEq] at h
  obtain ⟨⟨⟨hrule, hhead⟩, hlong⟩, rfl, rfl⟩ := h
  have hhead' : ∃ c ∈ before.reverse.head?, isBlank c = true := by
    simpa [Option.any_eq_true] using hhead
  -- The word goes back to a blank, as there is something before it.
  have hlast : ∃ c ∈ before.reverse.getLast?, isBlank c = true := by
    rw [List.getLast?_reverse]
    cases before with
    | nil => simp at hhead'
    | cons c before => exact ⟨c, rfl, by simpa using hbefore c rfl⟩
  have hlong' : allBlank before.reverse = true → 3 ≤ before.reverse.length := by
    intro hall
    simpa [hall] using hlong
  obtain ⟨b, m, b', hm, hb, hne, hb', htrim⟩ := exists_gaps hhead' hlast hlong'
  refine ⟨b, m, b', b'', ?_, hb, hne, hb', hrule, hb'', htrim.symm⟩
  rw [← hm, ← List.reverse_append, ← hcut, List.reverse_reverse]
  exact hs

/-- A message and a rule with blanks around them are found. -/
theorem messageAndRule?_append {b m b' b'' : List Char} (hb : IsGap b) (hne : m ≠ [])
    (hb' : IsGap b') (hrule : IsRuleName rule) (hb'' : allBlank b'' = true) :
    messageAndRule? (b ++ m ++ b' ++ rule ++ b'') = some (trim m, rule) := by
  have hend : trimEnd (b ++ m ++ b' ++ rule ++ b'') = b ++ m ++ b' ++ rule := by
    refine trimEnd_eq_iff.2 ⟨b'', rfl, hb'', fun c hc => hrule.isBlank ?_⟩
    rw [List.getLast?_append_of_ne_nil _ hrule.ne_nil] at hc
    exact List.mem_of_getLast? hc
  have hspan : (b ++ m ++ b' ++ rule).reverse.span (!isBlank ·) =
      (rule.reverse, (b ++ m ++ b').reverse) := by
    refine span_eq_iff.2 ⟨by simp, fun c hc => ?_, fun c hc => ?_⟩
    · simp [hrule.isBlank (List.mem_reverse.1 hc)]
    · rw [List.head?_reverse, List.getLast?_append_of_ne_nil _ hb'.1] at hc
      simp [isBlank_of_mem hb'.2 (List.mem_of_getLast? hc)]
  have hhead : (b ++ m ++ b').head?.any isBlank = true := by
    obtain ⟨c, b, rfl⟩ := List.exists_cons_of_ne_nil hb.1
    exact isBlank_of_mem hb.2 List.mem_cons_self
  have hlong : (!allBlank (b ++ m ++ b') || 3 ≤ (b ++ m ++ b').length : Bool) = true := by
    have h₁ := List.length_pos_iff.2 hb.1
    have h₂ := List.length_pos_iff.2 hne
    have h₃ := List.length_pos_iff.2 hb'.1
    simp only [List.length_append, Bool.or_eq_true, decide_eq_true_eq]
    omega
  simp only [messageAndRule?, hend, hspan, List.reverse_reverse, isRuleId_iff.2 hrule, hhead,
    hlong, Bool.and_self, if_true, trim_append hb.2 hb'.2]

theorem IsNumeral.isBlank (h : IsNumeral s) (hc : c ∈ s) : isBlank c = false :=
  isBlank_of_isDigit (h.2 c hc)

theorem isBlank_head_of_ne_nil (hne : s ≠ []) (h : ∀ c ∈ s, isBlank c = false) (r : List Char) :
    ∀ c ∈ (s ++ r).head?, isBlank c = false := by
  intro c hc
  rw [List.head?_append_of_ne_nil _ hne] at hc
  exact h c (List.mem_of_head? hc)

/-- What is found is written. -/
theorem isDetail_of_ofText? (h : Detail.ofText? s = some d) : IsDetail s d := by
  rw [Detail.ofText?] at h
  split at h
  · next line r₀ hline =>
    rcases hcolumn : digits r₀ with ⟨column, r₁⟩
    simp only [hcolumn, Option.ite_none_left_eq_some, not_or, Option.bind_eq_bind,
      Option.bind_eq_some_iff] at h
    obtain ⟨⟨hline', hcolumn'⟩, r₂, hgap, ⟨severity, r₃⟩, hseverity, ⟨message, rule⟩,
      hrule, hd⟩ := h
    obtain rfl := Option.some.inj hd
    obtain ⟨b₀, hs, hb₀, -⟩ := trimStart_eq_iff.1 (rfl : trimStart s = trimStart s)
    obtain ⟨hs', hdigits, -⟩ := span_eq_iff.1 hline
    obtain ⟨rfl, hdigits', -⟩ := span_eq_iff.1 hcolumn
    obtain ⟨b₁, rfl, hne, hb₁, -⟩ := blanks?_eq_some_iff.1 hgap
    obtain rfl := severity?_eq_some_iff.1 hseverity
    obtain ⟨b₂, m, b₃, b₄, hr₃, hb₂, hm, hb₃, hname, hb₄, rfl⟩ := exists_of_messageAndRule? hrule
    have hwritten := IsDetail.mk severity ⟨hline', hdigits⟩ ⟨hcolumn', hdigits'⟩ hm hname hb₀
      ⟨hne, hb₁⟩ hb₂ hb₃ hb₄
    rw [hs, hs', show r₃ = _ from hr₃]
    simpa using hwritten
  · simp at h

/-- A detail is found as it is written. -/
theorem IsDetail.ofText?_eq (h : IsDetail s d) : Detail.ofText? s = some d := by
  cases h with
  | @mk line column message rule b₀ b₁ b₂ b₃ b₄ severity hline hcolumn hmessage hrule hb₀ hb₁ hb₂
      hb₃ hb₄ =>
    have hstart : trimStart (b₀ ++ line ++ ':' :: column ++ b₁ ++ heading severity ++ ':' :: b₂
        ++ message ++ b₃ ++ rule ++ b₄) = line ++ ':' :: (column ++ (b₁ ++
          (heading severity ++ ':' :: (b₂ ++ message ++ b₃ ++ rule ++ b₄)))) :=
      trimStart_eq_iff.2 ⟨b₀, by simp, hb₀,
        isBlank_head_of_ne_nil hline.1 (fun _ => hline.isBlank) _⟩
    have hdigits : ∀ r, digits (column ++ (b₁ ++ r)) = (column, b₁ ++ r) := by
      refine fun r => span_eq_iff.2 ⟨rfl, hcolumn.2, fun c hc => ?_⟩
      rw [List.head?_append_of_ne_nil _ hb₁.1] at hc
      have hblank := isBlank_of_mem hb₁.2 (List.mem_of_head? hc)
      by_contra hdigit
      simp [isBlank_of_isDigit (by simpa using hdigit)] at hblank
    have hgap : ∀ r, blanks? (b₁ ++ (heading severity ++ r)) = some (heading severity ++ r) := by
      refine fun r => blanks?_eq_some_iff.2 ⟨b₁, rfl, hb₁.1, hb₁.2, ?_⟩
      exact isBlank_head_of_ne_nil (heading_ne_nil severity) (fun _ => isBlank_of_mem_heading) r
    have hseverity : ∀ r, severity? (heading severity ++ ':' :: r) = some (severity, r) :=
      fun r => severity?_eq_some_iff.2 rfl
    have hmessageAndRule := messageAndRule?_append hb₂ hmessage hb₃ hrule hb₄
    rw [Detail.ofText?, hstart, digits_append_colon hline]
    simp only [hdigits, hline.1, hcolumn.1, or_self, if_false, hgap, hseverity, hmessageAndRule,
      Option.bind_eq_bind, Option.bind_some]
    rfl

theorem Detail.ofText?_eq_some_iff : Detail.ofText? s = some d ↔ IsDetail s d :=
  ⟨isDetail_of_ofText?, IsDetail.ofText?_eq⟩

theorem Detail.ofText?_eq_none (h : ∀ d, ¬IsDetail s d) : Detail.ofText? s = none :=
  Option.eq_none_iff_forall_ne_some.2 fun d hd => h d (ofText?_eq_some_iff.1 hd)

theorem IsDetail.unique (h : IsDetail s d) (h' : IsDetail s d') : d = d' := by
  rw [← Detail.ofText?_eq_some_iff] at h h'
  exact Option.some.inj (h.symm.trans h')

/-! ## The forms exclude each other -/

theorem eq_nil_of_allBlank (hb : allBlank s = true) (hw : ∀ c ∈ s, isBlank c = false) : s = [] := by
  refine List.eq_nil_iff_forall_not_mem.2 fun c hc => ?_
  have hblank := hw c hc
  simp [isBlank_of_mem hb hc] at hblank

/-- Where a text of blanks and a text without blanks end alike, one of them is empty. -/
theorem eq_nil_of_suffix {b : List Char} (hb : allBlank b = true)
    (hw : ∀ c ∈ w, isBlank c = false) (h : b <:+ s) (h' : w <:+ s) : b = [] ∨ w = [] := by
  rcases List.suffix_or_suffix_of_suffix h h' with hbw | hwb
  · exact .inl (eq_nil_of_allBlank hb fun c hc => hw c (hbw.subset hc))
  · exact .inr (eq_nil_of_allBlank
      (List.all_eq_true.2 fun c hc => isBlank_of_mem hb (hwb.subset hc)) hw)

/-- The last word of a detail is the name of its rule: a text without blanks that it ends in is
    a part of that name. -/
theorem IsDetail.suffix_rule (h : IsDetail s d) (hw : w <:+ s)
    (hblank : ∀ c ∈ w, isBlank c = false) : w <:+ d.rule := by
  cases h with
  | @mk line column message rule b₀ b₁ b₂ b₃ b₄ severity _ _ _ hrule _ _ _ hb₃ hb₄ =>
    rcases eq_nil_of_suffix hb₄ hblank (List.suffix_append _ b₄) hw with rfl | rfl
    · rw [List.append_nil] at hw
      rcases List.suffix_or_suffix_of_suffix hw (List.suffix_append _ rule) with hw' | ⟨u, rfl⟩
      · exact hw'
      · -- More than the name would begin in the blanks before it.
        obtain ⟨v, hv⟩ := hw
        rw [← List.append_assoc] at hv
        have hu := List.append_cancel_right hv
        rcases eq_nil_of_suffix hb₃.2 (fun c hc => hblank c (List.mem_append_left _ hc))
          (List.suffix_append _ b₃) ⟨v, hu⟩ with hnil | rfl
        · exact absurd hnil hb₃.1
        · exact List.suffix_rfl
    · exact List.nil_suffix

/-- A detail does not end in a word with a character that no name of a rule has. -/
theorem IsDetail.not_suffix (h : IsDetail s d) (hc : isRuleChar c = false ∧ c ≠ '/' ∧ c ≠ '@')
    (hw : ∀ x ∈ c :: w, isBlank x = false) : ¬(c :: w) <:+ s := by
  intro hsuffix
  have hrule : IsRuleName d.rule := by
    cases h
    assumption
  have hmem : c ∈ d.rule := (h.suffix_rule hsuffix hw).subset List.mem_cons_self
  rcases hrule.of_mem hmem with hc' | hc' | hc'
  · simp [hc.1] at hc'
  · exact hc.2.1 hc'
  · exact hc.2.2 hc'

/-- A detail is no path, whose last word has a dot in it. -/
theorem IsDetail.not_isSourcePath (h : IsDetail s d) : ¬IsSourcePath s := by
  rintro ⟨c, stem, e, he, rfl, -⟩
  exact h.not_suffix (by decide) (fun _ => isBlank_of_mem_extension he) (List.suffix_append _ _)

/-- A detail is no location, whose last word has a colon in it. -/
theorem IsDetail.not_isLocation (h : IsDetail s d) : ¬IsLocation s file line column := by
  rintro ⟨rfl, -, -, hcolumn⟩
  refine h.not_suffix (by decide) ?_ (List.suffix_append _ _)
  intro x hx
  rcases List.mem_cons.1 hx with rfl | hx
  · decide
  · exact hcolumn.isBlank hx

theorem IsLocation.trailingNumbers?_eq (h : IsLocation s file line column) :
    trailingNumbers? s = some (file, line, column) :=
  trailingNumbers?_eq_some_iff.2 ⟨h.text, h.line, h.column⟩

theorem IsLocation.unique {file' line' column' : List Char} (h : IsLocation s file line column)
    (h' : IsLocation s file' line' column') : file = file' ∧ line = line' ∧ column = column' := by
  simpa [h.trailingNumbers?_eq] using h'.trailingNumbers?_eq

/-- A location ends in a digit, which no extension does. -/
theorem IsLocation.not_isSourcePath (h : IsLocation s file line column) : ¬IsSourcePath s := by
  rintro ⟨c, stem, e, he, hs, -⟩
  have hletter : ∀ e ∈ extensions, ('.' :: e.toList).getLast?.any isDigit = false := by decide
  obtain ⟨rfl, -, -, hne, hdigit⟩ := h
  obtain ⟨x, hx⟩ : ∃ x, column.getLast? = some x := by
    rw [← Option.isSome_iff_exists, List.getLast?_isSome]
    exact hne
  have hlast : ('.' :: e.toList).getLast? = some x := by
    rw [← List.getLast?_append_of_ne_nil (c :: stem) (List.cons_ne_nil _ _), ← hs,
      List.getLast?_append_of_ne_nil _ (List.cons_ne_nil _ _), List.getLast?_cons_of_ne_nil hne, hx]
  simpa [hlast, hdigit x (List.mem_of_getLast? hx)] using hletter e he

theorem IsSourcePath.not_allBlank (h : IsSourcePath s) : allBlank s = false := by
  obtain ⟨c, stem, e, -, rfl, hc⟩ := h
  simp [allBlank, hc]

theorem IsLocation.not_allBlank (h : IsLocation s file line column) : allBlank s = false := by
  obtain ⟨c, stem, e, -, rfl, hc⟩ := h.file
  rw [h.text]
  simp [allBlank, hc]

theorem IsDetail.not_allBlank (h : IsDetail s d) : allBlank s = false := by
  cases h with
  | @mk line _ _ _ _ _ _ _ _ _ hline =>
    by_contra hblank
    simp only [Bool.not_eq_false, allBlank_append] at hblank
    exact hline.1 (eq_nil_of_allBlank hblank.1.1.1.1.1.1.1.1.2 fun _ => hline.isBlank)

/-! ## Lines are told apart -/

theorem isBlank_colon : isBlank ':' = false := by decide

theorem Line.isFormOf_ofText (s : List Char) : (Line.ofText s).IsFormOf s := by
  rw [Line.ofText]
  split
  · next hpath => exact .header (isSourcePath_iff.1 hpath)
  · next hpath =>
    rw [isSourcePath_iff] at hpath
    split
    · next d hd => exact .detail (Detail.ofText?_eq_some_iff.1 hd)
    · next hd =>
      have hdetail : ∀ d, ¬IsDetail s d := fun d h => by simp [Detail.ofText?_eq_some_iff.2 h] at hd
      split
      · next file line column hnumbers =>
        obtain ⟨htext, hline, hcolumn⟩ := trailingNumbers?_eq_some_iff.1 hnumbers
        split
        · next hfile => exact .location ⟨htext, isSourcePath_iff.1 hfile, hline, hcolumn⟩
        · next hfile =>
          refine .other (by simp [htext, allBlank, isBlank_colon]) hpath hdetail fun _ _ _ h => ?_
          rw [h.trailingNumbers?_eq] at hnumbers
          obtain ⟨rfl, -, -⟩ : _ ∧ _ ∧ _ := by simpa using hnumbers
          exact hfile (isSourcePath_iff.2 h.file)
      · next hnumbers =>
        have hlocation : ∀ file line column, ¬IsLocation s file line column := fun _ _ _ h => by
          simp [h.trailingNumbers?_eq] at hnumbers
        split
        · next hblank => exact .blank hblank
        · next hblank => exact .other (by simpa using hblank) hpath hdetail hlocation

/-- A line is read as the form that it has. -/
theorem Line.ofText_eq_iff {l : Line} : Line.ofText s = l ↔ l.IsFormOf s := by
  refine ⟨fun h => h ▸ isFormOf_ofText s, fun h => ?_⟩
  cases h with
  | header h => simp [Line.ofText, isSourcePath_iff.2 h]
  | location h =>
    have hdetail : ∀ d, ¬IsDetail s d := fun d h' => h'.not_isLocation h
    simp [Line.ofText, isSourcePath_eq_false h.not_isSourcePath, Detail.ofText?_eq_none hdetail,
      h.trailingNumbers?_eq, isSourcePath_iff.2 h.file]
  | detail h =>
    simp [Line.ofText, isSourcePath_eq_false h.not_isSourcePath, Detail.ofText?_eq_some_iff.2 h]
  | blank h =>
    -- There is a colon in front of each of two numbers.
    have hnumbers : trailingNumbers? s = none := by
      refine Option.eq_none_iff_forall_ne_some.2 fun ⟨r, line, column⟩ hnumbers => ?_
      obtain ⟨rfl, -, -⟩ := trailingNumbers?_eq_some_iff.1 hnumbers
      simp [isBlank_colon] at h
    have hpath : ¬IsSourcePath s := fun h' => by simp [h'.not_allBlank] at h
    have hdetail : ∀ d, ¬IsDetail s d := fun d h' => by simp [h'.not_allBlank] at h
    simp [Line.ofText, isSourcePath_eq_false hpath, Detail.ofText?_eq_none hdetail, hnumbers, h]
  | other h hpath hdetail hlocation =>
    rw [Line.ofText, isSourcePath_eq_false hpath, Detail.ofText?_eq_none hdetail]
    split
    · contradiction
    · dsimp only
      split
      · next file line column hnumbers =>
        obtain ⟨htext, hline, hcolumn⟩ := trailingNumbers?_eq_some_iff.1 hnumbers
        rw [isSourcePath_eq_false fun hfile => hlocation _ _ _ ⟨htext, hfile, hline, hcolumn⟩]
        rfl
      · rw [h]
        rfl

end

end Mender.BuildLog
