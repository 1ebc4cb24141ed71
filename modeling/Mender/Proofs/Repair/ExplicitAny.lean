import Mender.Proofs.Repair.Line

/-!
# Types of a line

A line is a row of pieces with the word `any` between two of them, wherever that is a type
(`IsType`): as a word of its own, behind a colon, behind the keyword of a cast, or right behind an
angle bracket. Narrowing keeps the pieces and puts `unknown` between them (`IsCut.narrow_eq`). What
stands between the pieces are all types of the line (`IsCut.isType_iff_isSeam`), and none is left
in the end: a type is expected behind the same pieces as before (`Renamed.expectsType_eq`), so that
narrowing changes nothing the next time (`narrow_narrow`).
-/

namespace Mender.Repair.ExplicitAny

open Text

variable {s r above below before before' b line content : List Char}
variable {ts : List (List Char)} {c : Char}

/-- A type is expected behind the text. -/
inductive Expects : List Char → Prop
  /-- Behind a colon, and blanks. -/
  | colon {above b : List Char} : allBlank b = true → Expects (above ++ ':' :: b)
  /-- Behind the keyword of a cast, and at least one blank. -/
  | cast {above b : List Char} : (∀ c ∈ above.getLast?, isWord c = false) → allBlank b = true →
      b ≠ [] → Expects (above ++ "as".toList ++ b)
  /-- Right behind an angle bracket. -/
  | bracket {above : List Char} : Expects (above ++ ['<'])

/-- The word `any` between the two texts is a type. -/
structure IsType (above below : List Char) : Prop where
  /-- It is the beginning of a word. -/
  before : ∀ c ∈ above.getLast?, isWord c = false
  /-- It is the end of a word. -/
  behind : ∀ c ∈ below.head?, isWord c = false
  expected : Expects above

/-! ## Where a type is expected -/

/-- A word ends where no character of a word follows. -/
theorem endsWord_iff : endsWord s = true ↔ ∀ c ∈ s.head?, isWord c = false := by
  cases s <;> simp [endsWord]

theorem isWord_of_isBlank (h : isBlank c = true) : isWord c = false := by
  by_contra hword
  rw [Bool.not_eq_false] at hword
  simp [isBlank_of_isWord hword] at h

/-- No word goes on where a type is expected. -/
theorem Expects.getLast? (h : Expects above) : ∀ c ∈ above.getLast?, isWord c = false := by
  have hblank {s b : List Char} (hb : allBlank b = true) (hne : b ≠ []) :
      ∀ c ∈ (s ++ b).getLast?, isWord c = false := by
    intro c hc
    rw [List.getLast?_append_of_ne_nil _ hne] at hc
    exact isWord_of_isBlank (isBlank_of_mem hb (List.mem_of_getLast? hc))
  intro c hc
  cases h with
  | @colon above b hb =>
    cases b with
    | nil =>
      obtain rfl : ':' = c := by simpa using hc
      decide
    | cons d b =>
      rw [List.append_cons] at hc
      exact hblank hb (List.cons_ne_nil d b) c hc
  | cast _ hb hne => exact hblank hb hne c hc
  | bracket =>
    obtain rfl : '<' = c := by simpa using hc
    decide

theorem allBlank_reverse : allBlank s.reverse = allBlank s := by simp [allBlank]

/-- The text above is read from its end. -/
theorem expectsType_reverse : expectsType above.reverse = true ↔ Expects above := by
  obtain ⟨b, habove, hb, hhead⟩ := trimStart_eq_iff.1 (rfl : trimStart above.reverse = _)
  constructor
  · intro h
    simp only [expectsType, Bool.or_eq_true, Bool.and_eq_true, decide_eq_true_eq,
      beq_iff_eq] at h
    rcases h with (h | h) | ⟨hlt, h⟩
    · obtain ⟨r, hr⟩ := List.head?_eq_some_iff.1 h
      rw [List.reverse_eq_iff.1 hr, List.reverse_cons]
      exact .bracket
    · obtain ⟨r, hr⟩ := List.head?_eq_some_iff.1 h
      rw [hr] at habove
      rw [List.reverse_eq_iff.1 habove]
      have hcolon : Expects (r.reverse ++ ':' :: b.reverse) := .colon (allBlank_reverse.trans hb)
      simpa using hcolon
    · split at h
      · next r hr =>
        rw [hr] at habove
        have hne : b ≠ [] := by
          rintro rfl
          rw [hr, habove, List.nil_append] at hlt
          exact absurd hlt (lt_irrefl _)
        rw [List.reverse_eq_iff.1 habove]
        have hlast : ∀ c ∈ r.reverse.getLast?, isWord c = false := by
          simpa using endsWord_iff.1 h
        have hcast : Expects (r.reverse ++ "as".toList ++ b.reverse) :=
          .cast hlast (allBlank_reverse.trans hb) (by simpa using hne)
        simpa using hcast
      · simp at h
  · intro h
    cases h with
    | @colon above b hb =>
      have hshown : trimStart (b.reverse ++ ':' :: above.reverse) = ':' :: above.reverse :=
        trimStart_append (allBlank_reverse.trans hb) (by simp; decide)
      simp [expectsType, hshown]
    | @cast above b hlast hb hne =>
      have hshown : trimStart (b.reverse ++ 's' :: 'a' :: above.reverse) =
          's' :: 'a' :: above.reverse :=
        trimStart_append (allBlank_reverse.trans hb) (by simp; decide)
      have hend : endsWord above.reverse = true := endsWord_iff.2 (by simpa using hlast)
      have hpos := List.length_pos_iff.2 hne
      simp [expectsType, hshown, hend, hpos]
    | bracket => simp [expectsType]

/-- An `any` is a type if it is a word by itself where a type is expected. -/
theorem isType_iff :
    IsType above below ↔ endsWord below = true ∧ expectsType above.reverse = true := by
  rw [expectsType_reverse, endsWord_iff]
  exact ⟨fun h => ⟨h.behind, h.expected⟩, fun h => ⟨h.2.getLast?, h.1, h.2⟩⟩

/-! ## Cutting a line -/

/-- The text below `above` is cut into the pieces between its types. -/
inductive IsCut : (above s : List Char) → List (List Char) → Prop
  | nil {above : List Char} : IsCut above [] [[]]
  | type {above s : List Char} {ts : List (List Char)} : IsType above s →
      IsCut (above ++ "any".toList) s ts → IsCut above ("any".toList ++ s) ([] :: ts)
  | other {above s t : List Char} {c : Char} {ts : List (List Char)} :
      (∀ r, c :: s = "any".toList ++ r → ¬IsType above r) → IsCut (above ++ [c]) s (t :: ts) →
      IsCut above (c :: s) ((c :: t) :: ts)

theorem IsCut.ne_nil (h : IsCut above s ts) : ts ≠ [] := by
  cases h <;> exact List.cons_ne_nil _ _

/-- Each text can be cut at the types in it. -/
theorem exists_isCut (above s : List Char) : ∃ ts, IsCut above s ts := by
  induction hlength : s.length using Nat.strong_induction_on generalizing above s with
  | h n ih =>
    cases s with
    | nil => exact ⟨_, .nil⟩
    | cons c s =>
      by_cases htype : ∃ r, c :: s = "any".toList ++ r ∧ IsType above r
      · obtain ⟨r, hr, htype⟩ := htype
        have hlt : r.length < n := by
          rw [← hlength, hr, List.length_append]
          simp
        obtain ⟨ts, hts⟩ := ih _ hlt (above ++ "any".toList) r rfl
        exact ⟨_, hr ▸ IsCut.type htype hts⟩
      · obtain ⟨ts, hts⟩ := ih s.length (by simp [← hlength]) (above ++ [c]) s rfl
        obtain ⟨t, ts, rfl⟩ := List.exists_cons_of_ne_nil hts.ne_nil
        exact ⟨_, .other (fun r hr h => htype ⟨r, hr, h⟩) hts⟩

theorem joined_cons {sep t : List Char} (hts : ts ≠ []) :
    joined sep (t :: ts) = t ++ sep ++ joined sep ts := by
  obtain ⟨t', ts, rfl⟩ := List.exists_cons_of_ne_nil hts
  rfl

theorem joined_cons_cons (sep t : List Char) (c : Char) (ts : List (List Char)) :
    joined sep ((c :: t) :: ts) = c :: joined sep (t :: ts) := by
  cases ts <;> simp [joined]

/-- The line is what it is cut into, with the types in between. -/
theorem IsCut.joined_eq (h : IsCut above s ts) : joined "any".toList ts = s := by
  induction h with
  | nil => rfl
  | type _ h ih => rw [joined_cons h.ne_nil, ih, List.nil_append]
  | other _ _ ih => rw [joined_cons_cons, ih]

/-- An `any` that is a type is narrowed. -/
theorem narrow_type (h : IsType above s) :
    narrow 0 above.reverse ("any".toList ++ s) =
      "unknown".toList ++ narrow 0 (above ++ "any".toList).reverse s := by
  obtain ⟨hend, hexpects⟩ := isType_iff.1 h
  have hword : word? "any".toList ('a' :: 'n' :: 'y' :: s) = some s := rfl
  have hany : "any".toList ++ s = 'a' :: 'n' :: 'y' :: s := rfl
  rw [hany, narrow, hword]
  dsimp only
  rw [if_pos (by rw [hend, hexpects, Bool.and_self]), narrow, narrow, List.reverse_append]
  rfl

/-- What is no type is kept. -/
theorem narrow_other (h : ∀ r, c :: s = "any".toList ++ r → ¬IsType above r) :
    narrow 0 above.reverse (c :: s) = c :: narrow 0 (above ++ [c]).reverse s := by
  rw [narrow, List.reverse_append, List.reverse_singleton, List.singleton_append]
  split
  · next r hr =>
    rw [if_neg]
    rw [Bool.and_eq_true]
    exact mt isType_iff.2 (h r (word?_eq_some_iff.1 hr))
  · rfl

/-- Narrowing puts the other type between the pieces. -/
theorem IsCut.narrow_eq (h : IsCut above s ts) :
    narrow 0 above.reverse s = joined "unknown".toList ts := by
  induction h with
  | nil => rfl
  | type htype h ih => rw [narrow_type htype, ih, joined_cons h.ne_nil, List.nil_append]
  | other hother _ ih => rw [narrow_other hother, ih, joined_cons_cons]

/-! ## Types between the pieces -/

/-- The two texts lie on either side of a seam between the pieces. -/
def IsSeam (ts : List (List Char)) (above below : List Char) : Prop :=
  ∃ us vs, ts = us ++ vs ∧ us ≠ [] ∧ vs ≠ [] ∧
    above = joined "any".toList us ∧ below = joined "any".toList vs

/-- The first seam of a cut is behind its first piece, and the others are those of the rest. -/
theorem isSeam_cons {t : List Char} :
    IsSeam (t :: ts) above below ↔
      (ts ≠ [] ∧ above = t ∧ below = joined "any".toList ts) ∨
        ∃ r, above = t ++ "any".toList ++ r ∧ IsSeam ts r below := by
  constructor
  · rintro ⟨us, vs, heq, hus, hvs, rfl, rfl⟩
    obtain ⟨u, us, rfl⟩ := List.exists_cons_of_ne_nil hus
    obtain ⟨rfl, rfl⟩ := List.cons.inj heq
    by_cases hnil : us = []
    · subst hnil
      exact .inl ⟨hvs, rfl, rfl⟩
    · exact .inr ⟨_, joined_cons hnil, us, vs, rfl, hnil, hvs, rfl, rfl⟩
  · rintro (⟨hts, rfl, rfl⟩ | ⟨r, rfl, us, vs, rfl, hus, hvs, rfl, rfl⟩)
    · exact ⟨[above], ts, rfl, List.cons_ne_nil _ _, hts, rfl, rfl⟩
    · exact ⟨t :: us, vs, rfl, List.cons_ne_nil _ _, hvs, (joined_cons hus).symm, rfl⟩

theorem isSeam_cons_cons {t : List Char} :
    IsSeam ((c :: t) :: ts) above below ↔ ∃ r, above = c :: r ∧ IsSeam (t :: ts) r below := by
  simp only [isSeam_cons]
  constructor
  · rintro (⟨hts, rfl, hbelow⟩ | ⟨r, rfl, hr⟩)
    · exact ⟨t, rfl, .inl ⟨hts, rfl, hbelow⟩⟩
    · exact ⟨_, rfl, .inr ⟨r, rfl, hr⟩⟩
  · rintro ⟨_, rfl, ⟨hts, rfl, hbelow⟩ | ⟨r, rfl, hr⟩⟩
    · exact .inl ⟨hts, rfl, hbelow⟩
    · exact .inr ⟨r, rfl, hr⟩

/-- The word does not overlap with itself. -/
theorem eq_nil_or_of_append_any {p q : List Char}
    (h : "any".toList ++ s = p ++ "any".toList ++ q) :
    p = [] ∧ q = s ∨ ∃ r, p = "any".toList ++ r ∧ s = r ++ "any".toList ++ q := by
  have hany : "any".toList = ['a', 'n', 'y'] := rfl
  rw [hany] at h ⊢
  rcases p with _ | ⟨c, _ | ⟨d, _ | ⟨e, p⟩⟩⟩
  · simp_all
  · simp at h
  · simp at h
  · obtain ⟨rfl, rfl, rfl, hs⟩ : 'a' = c ∧ 'n' = d ∧ 'y' = e ∧ s = p ++ ['a', 'n', 'y'] ++ q := by
      simpa using h
    exact .inr ⟨p, rfl, hs⟩

/-- The types of the text are those between the pieces. -/
theorem IsCut.isType_iff_isSeam {p q : List Char} (h : IsCut above s ts)
    (hs : s = p ++ "any".toList ++ q) : IsType (above ++ p) q ↔ IsSeam ts p q := by
  induction h generalizing p q with
  | nil => simp at hs
  | @type above s ts htype h ih =>
    rcases eq_nil_or_of_append_any hs with ⟨rfl, rfl⟩ | ⟨r, rfl, hr⟩
    · rw [List.append_nil]
      exact iff_of_true htype (isSeam_cons.2 (.inl ⟨h.ne_nil, rfl, h.joined_eq.symm⟩))
    · have hseam : IsSeam ([] :: ts) ("any".toList ++ r) q ↔ IsSeam ts r q := by
        simp [isSeam_cons]
      rw [hseam, ← ih hr, List.append_assoc]
  | @other above s t c ts hother h ih =>
    rw [isSeam_cons_cons]
    cases p with
    | nil =>
      rw [List.append_nil]
      refine iff_of_false (hother q (by simpa using hs)) ?_
      rintro ⟨r, hr, -⟩
      simp at hr
    | cons d p =>
      rw [List.cons_append, List.cons_append] at hs
      obtain ⟨rfl, hrest⟩ := List.cons.inj hs
      rw [List.append_cons, ih hrest]
      simp

/-! ## Narrowing another time -/

/-- The second text is the first with some types narrowed. Both are given backwards. -/
inductive Renamed : (before before' : List Char) → Prop
  | nil : Renamed [] []
  | same (c : Char) {before before' : List Char} : Renamed before before' →
      Renamed (c :: before) (c :: before')
  | type {before before' : List Char} : Renamed before before' →
      Renamed ("any".toList.reverse ++ before) ("unknown".toList.reverse ++ before')

/-- To narrow types above does not change where words end. -/
theorem Renamed.endsWord_eq (h : Renamed before before') :
    endsWord before = endsWord before' := by
  cases h with
  | nil | same => rfl
  | type =>
    have hy : isWord 'y' = true := by decide
    have hn : isWord 'n' = true := by decide
    simp [endsWord, hy, hn]

theorem Renamed.head?_eq_iff (h : Renamed before before') (hy : 'y' ≠ c) (hn : 'n' ≠ c) :
    before.head? = some c ↔ before'.head? = some c := by
  cases h with
  | nil | same => rfl
  | type => simp [hy, hn]

/-- Without the blanks in front, one text is still the other with types narrowed. -/
theorem Renamed.trimStart (h : Renamed before before') :
    Renamed (trimStart before) (trimStart before') := by
  induction h with
  | nil => exact .nil
  | same c h ih =>
    cases hc : isBlank c with
    | true => simpa [Text.trimStart, hc] using ih
    | false => simpa [Text.trimStart, hc] using h.same c
  | type h => exact .type h

theorem length_trimStart_lt_iff :
    (trimStart s).length < s.length ↔ s.head?.any isBlank = true := by
  cases s with
  | nil => simp
  | cons c s =>
    cases hc : isBlank c with
    | true =>
      have hle := (List.dropWhile_sublist (l := s) isBlank).length_le
      simpa [trimStart, hc] using Nat.lt_succ_of_le hle
    | false => simp [trimStart, hc]

theorem Renamed.length_trimStart_lt_iff (h : Renamed before before') :
    (Text.trimStart before).length < before.length ↔
      (Text.trimStart before').length < before'.length := by
  rw [ExplicitAny.length_trimStart_lt_iff, ExplicitAny.length_trimStart_lt_iff]
  cases h with
  | nil | same => rfl
  | type =>
    have hy : isBlank 'y' = false := by decide
    have hn : isBlank 'n' = false := by decide
    simp [hy, hn]

/-- The text, given backwards, ends in the keyword of a cast. -/
def endsInCast : List Char → Bool
  | 's' :: 'a' :: r => endsWord r
  | _ => false

/-- A type is expected behind an angle bracket, a colon, or the keyword of a cast. -/
theorem expectsType_eq_or (before : List Char) :
    expectsType before =
      (before.head? == some '<' || (trimStart before).head? == some ':' ||
        ((trimStart before).length < before.length && endsInCast (trimStart before))) := rfl

/-- To narrow types above neither makes a cast nor takes one away. -/
theorem Renamed.endsInCast_eq (h : Renamed before before') :
    endsInCast before = endsInCast before' := by
  cases h with
  | nil => rfl
  | type => rfl
  | same c h =>
    cases h with
    | nil => rfl
    | type => simp [endsInCast]
    | same d h =>
      by_cases hcast : c = 's' ∧ d = 'a'
      · obtain ⟨rfl, rfl⟩ := hcast
        exact h.endsWord_eq
      · rw [endsInCast, endsInCast] <;> simp_all

/-- A type is expected behind the same texts as before. -/
theorem Renamed.expectsType_eq (h : Renamed before before') :
    expectsType before = expectsType before' := by
  have hbracket := h.head?_eq_iff (c := '<') (by decide) (by decide)
  have hcolon := h.trimStart.head?_eq_iff (c := ':') (by decide) (by decide)
  rw [expectsType_eq_or, expectsType_eq_or, h.trimStart.endsInCast_eq, Bool.eq_iff_iff]
  simp only [Bool.or_eq_true, Bool.and_eq_true, beq_iff_eq, decide_eq_true_eq, hbracket, hcolon,
    h.length_trimStart_lt_iff]

theorem narrow_cons_of_ne (h : 'a' ≠ c) (b s : List Char) :
    narrow 0 b (c :: s) = c :: narrow 0 (c :: b) s := by
  have hword : word? "any".toList (c :: s) = none := if_neg h
  rw [narrow, hword]

theorem narrow_unknown (b s : List Char) :
    narrow 0 b ("unknown".toList ++ s) =
      "unknown".toList ++ narrow 0 ("unknown".toList.reverse ++ b) s := by
  have hunknown : "unknown".toList ++ s = 'u' :: 'n' :: 'k' :: 'n' :: 'o' :: 'w' :: 'n' :: s := rfl
  rw [hunknown]
  simp only [ne_eq, not_false_eq_true, narrow_cons_of_ne, Char.reduceEq]
  rfl

/-- A character that is no part of what is put in comes from the text. -/
theorem IsCut.exists_cons {t : List Char} (h : IsCut above s ts)
    (hcons : joined "unknown".toList ts = c :: t) (hc : c ≠ 'u') :
    ∃ r us, s = c :: r ∧ t = joined "unknown".toList us ∧ IsCut (above ++ [c]) r us := by
  cases h with
  | nil => simp [joined] at hcons
  | type _ h =>
    rw [joined_cons h.ne_nil] at hcons
    exact absurd (List.cons.inj hcons).1.symm hc
  | other _ h =>
    rw [joined_cons_cons] at hcons
    obtain ⟨rfl, rfl⟩ := List.cons.inj hcons
    exact ⟨_, _, rfl, rfl, h⟩

/-- A word ends in front of the text exactly if it ends in front of what becomes of it. -/
theorem IsCut.endsWord_eq (h : IsCut above s ts) :
    endsWord (joined "unknown".toList ts) = endsWord s := by
  cases h with
  | nil => rfl
  | type _ h =>
    rw [joined_cons h.ne_nil]
    have hu : isWord 'u' = true := by decide
    have ha : isWord 'a' = true := by decide
    simp [endsWord, hu, ha]
  | other => rw [joined_cons_cons]; rfl

/-- A line whose types are narrowed is narrowed no further. -/
theorem IsCut.narrow_joined (h : IsCut above s ts) (hb : Renamed above.reverse b) :
    narrow 0 b (joined "unknown".toList ts) = joined "unknown".toList ts := by
  induction h generalizing b with
  | nil => rfl
  | @type above s ts _ h ih =>
    rw [joined_cons h.ne_nil, List.nil_append, narrow_unknown, ih]
    rw [List.reverse_append]
    exact .type hb
  | @other above s t c ts hother h ih =>
    have hrest : narrow 0 (c :: b) (joined "unknown".toList (t :: ts)) =
        joined "unknown".toList (t :: ts) := by
      refine ih ?_
      rw [List.reverse_append]
      exact hb.same c
    rw [joined_cons_cons, narrow]
    split
    · next r hr =>
      -- The word was there before, and it was no type.
      have hword : c :: _ = 'a' :: 'n' :: 'y' :: r := word?_eq_some_iff.1 hr
      obtain ⟨rfl, hn⟩ := List.cons.inj hword
      obtain ⟨s, us, rfl, hy, h⟩ := h.exists_cons hn (by decide)
      obtain ⟨s, us, rfl, rfl, h⟩ := h.exists_cons hy.symm (by decide)
      have hno := mt isType_iff.2 (hother s rfl)
      rw [if_neg, hrest]
      rwa [Bool.and_eq_true, h.endsWord_eq, ← hb.expectsType_eq]
    · rw [hrest]

/-- Narrowing changes nothing the next time. -/
theorem narrow_narrow (line : List Char) : narrow 0 [] (narrow 0 [] line) = narrow 0 [] line := by
  obtain ⟨ts, hts⟩ := exists_isCut [] line
  have hnarrow : narrow 0 [] line = joined "unknown".toList ts := hts.narrow_eq
  rw [hnarrow]
  exact hts.narrow_joined .nil

/-- Each type that is narrowed makes the line longer by four characters. -/
theorem length_joined_unknown (ts : List (List Char)) :
    (joined "unknown".toList ts).length =
      (joined "any".toList ts).length + 4 * (ts.length - 1) := by
  induction ts with
  | nil => rfl
  | cons t ts ih =>
    cases ts with
    | nil => rfl
    | cons t' ts =>
      rw [joined_cons (List.cons_ne_nil _ _), joined_cons (List.cons_ne_nil _ _)]
      simp only [List.length_append, List.length_cons, ih]
      simp
      omega

/-- No type is left in a narrowed line. -/
theorem not_isType_narrow (h : narrow 0 [] line = above ++ "any".toList ++ below) :
    ¬IsType above below := by
  obtain ⟨ts, hts⟩ := exists_isCut [] (narrow 0 [] line)
  intro htype
  obtain ⟨us, vs, rfl, hus, hvs, -, -⟩ := (hts.isType_iff_isSeam h).1 htype
  have hsame : joined "unknown".toList (us ++ vs) = joined "any".toList (us ++ vs) := by
    rw [hts.joined_eq]
    exact hts.narrow_eq.symm.trans (narrow_narrow line)
  have hlength := length_joined_unknown (us ++ vs)
  have hpos := List.length_pos_iff.2 hus
  have hpos' := List.length_pos_iff.2 hvs
  rw [hsame, List.length_append] at hlength
  omega

/-! ## Narrowing a line -/

/-- The reported line is a row of pieces with `any` between them, wherever that is a type, and it
    becomes the same row with `unknown` between them, which has no such type in it. The other lines
    stay as they are, and repairing another time changes nothing. -/
theorem lines_repair_pieces {n : Int} (hlow : 1 ≤ n) (hhigh : n ≤ (lines content).length) :
    repair n (repair n content) = repair n content ∧
    ∃ aboveLines line belowLines ts, lines content = aboveLines ++ line :: belowLines ∧
      (aboveLines.length : Int) + 1 = n ∧
      lines (repair n content) = aboveLines ++ joined "unknown".toList ts :: belowLines ∧
      line = joined "any".toList ts ∧
      (∀ above below, line = above ++ "any".toList ++ below →
        (IsType above below ↔ IsSeam ts above below)) ∧
      ∀ above below, joined "unknown".toList ts = above ++ "any".toList ++ below →
        ¬IsType above below := by
  refine ⟨modifyLine_modifyLine keepsLine_narrow narrow_narrow n content, ?_⟩
  obtain ⟨aboveLines, line, belowLines, hlines, hn⟩ := exists_line hlow hhigh
  obtain ⟨ts, hts⟩ := exists_isCut [] line
  have hnarrow : narrow 0 [] line = joined "unknown".toList ts := hts.narrow_eq
  refine ⟨aboveLines, line, belowLines, ts, hlines, hn, ?_, hts.joined_eq.symm,
    fun above below h => hts.isType_iff_isSeam h, fun above below h => ?_⟩
  · rw [repair, lines_modifyLine keepsLine_narrow hlines hn, hnarrow]
  · exact not_isType_narrow (hnarrow.trans h)

/-- An annotation, a cast and an argument are narrowed, and neither a name that begins like the type
    nor a parameter by its name. -/
theorem lines_repair_three_types :
    let line := "f((any) => y as  any, anyone: Set<any> | any, z: any)".toList
    let narrowed := "f((any) => y as  unknown, anyone: Set<unknown> | any, z: unknown)".toList
    (1 : Int) ≤ 1 ∧ (1 : Int) ≤ (lines line).length ∧ lines (repair 1 line) = [narrowed] ∧
      repair 1 (repair 1 line) = repair 1 line ∧
      ∀ above below, narrowed = above ++ "any".toList ++ below → ¬IsType above below := by
  intro line narrowed
  have hhigh : (1 : Int) ≤ (lines line).length := by decide +kernel
  obtain ⟨hagain, above, _, below, ts, -, -, hrepair, -, -, hnone⟩ :=
    lines_repair_pieces (Int.le_refl 1) hhigh
  have hlines : lines (repair 1 line) = [narrowed] := by decide +kernel
  have hmem : joined "unknown".toList ts ∈ lines (repair 1 line) := by simp [hrepair]
  rw [hlines, List.mem_singleton] at hmem
  exact ⟨Int.le_refl 1, hhigh, hlines, hagain, hmem ▸ hnone⟩

end Mender.Repair.ExplicitAny
