import Mathlib.Data.List.TakeDrop
import Mathlib.Data.List.TakeWhile
import Mender.Text.Digit
import Mender.Text.Lines
import Mender.Text.Scan
import Mender.Text.Word

/-!
# What scanners take and leave

A scanner is told by how it cuts a text: into characters of a kind and what starts with
none (`span_eq_iff`), into a word and the rest (`word?_eq_some_iff`), into blanks and the
text between them (`trim_eq_iff`, `blanks?_eq_some_iff`). Each of these holds in both
directions, so that a cut is found by giving its parts. No blank is a digit or part of a
word (`isBlank_of_isWord`, `isBlank_of_isDigit`).
-/

namespace Mender.Text

variable {s t r : List Char}

/-- The characters of a kind that a text starts with, and what follows them. -/
theorem span_eq_iff {p : Char → Bool} {w : List Char} :
    s.span p = (w, r) ↔
      s = w ++ r ∧ (∀ c ∈ w, p c = true) ∧ ∀ c ∈ r.head?, p c = false := by
  rw [List.span_eq_takeWhile_dropWhile, Prod.mk.injEq]
  constructor
  · rintro ⟨rfl, rfl⟩
    refine ⟨List.takeWhile_append_dropWhile.symm, fun _ => List.mem_takeWhile_imp, ?_⟩
    intro c hc
    have hhead := List.head?_dropWhile_not p s
    rwa [Option.mem_def.1 hc] at hhead
  · rintro ⟨rfl, hw, hr⟩
    rw [List.takeWhile_append_of_pos hw, List.dropWhile_append_of_pos hw]
    cases r with
    | nil => simp
    | cons c r =>
      have hc : p c = false := hr c rfl
      simp [hc]

/-- The text in front of a character, which is not in it. -/
theorem span_ne_append {c : Char} {w : List Char} (h : c ∉ w) (r : List Char) :
    (w ++ c :: r).span (· ≠ c) = (w, c :: r) := by
  refine span_eq_iff.2 ⟨rfl, fun d hd => decide_eq_true ?_, fun d hd => ?_⟩
  · rintro rfl
    exact h hd
  · obtain rfl : c = d := by simpa using hd
    simp

/-- A word at the head of a text, and what follows it. -/
theorem word?_eq_some_iff {w : List Char} : word? w s = some r ↔ s = w ++ r := by
  induction w generalizing s with
  | nil => simp [word?]
  | cons a w ih =>
    cases s with
    | nil => simp [word?]
    | cons b s =>
      rw [word?, Option.ite_none_right_eq_some, ih, List.cons_append, List.cons.injEq]
      exact and_congr_left' eq_comm

theorem startsWith_iff {w : List Char} : startsWith w s = true ↔ w <+: s := by
  rw [startsWith, Option.isSome_iff_exists]
  simp only [word?_eq_some_iff]
  exact exists_congr fun r => eq_comm

theorem subset_of_word? {w : List Char} (h : word? w s = some r) : r ⊆ s := by
  rw [word?_eq_some_iff.1 h]
  exact List.subset_append_right w r

/-- What is found in a text is found where a part of it begins. -/
theorem exists_suffix_of_findMap? {α : Type} {p : List Char → Option α} {a : α}
    (h : findMap? p s = some a) : ∃ u, u <:+ s ∧ p u = some a := by
  induction s with
  | nil => exact ⟨[], List.suffix_rfl, h⟩
  | cons c s ih =>
    rw [findMap?] at h
    split at h
    · next b hb =>
      obtain rfl := Option.some.inj h
      exact ⟨c :: s, List.suffix_rfl, hb⟩
    · obtain ⟨u, hu, hp⟩ := ih h
      exact ⟨u, hu.trans (List.suffix_cons c s), hp⟩

theorem findMap?_of_eq_some {α : Type} {p : List Char → Option α} {a : α} (h : p s = some a) :
    findMap? p s = some a := by
  cases s with
  | nil => exact h
  | cons c s => rw [findMap?, h]

/-- A text occurs in another if that has it as a part. -/
theorem occurs_iff {w : List Char} : occurs w s = true ↔ w <:+: s := by
  rw [occurs, Option.isSome_iff_exists]
  constructor
  · rintro ⟨r, hr⟩
    obtain ⟨u, hu, hw⟩ := exists_suffix_of_findMap? hr
    rw [word?_eq_some_iff.1 hw] at hu
    exact (List.prefix_append w r).isInfix.trans hu.isInfix
  · rintro ⟨a, r, rfl⟩
    induction a with
    | nil =>
      exact ⟨r, findMap?_of_eq_some (word?_eq_some_iff.2 rfl)⟩
    | cons c a ih =>
      rw [List.cons_append, List.cons_append, findMap?]
      split
      · exact ⟨_, rfl⟩
      · exact ih

/-- The last piece is the whole text, or has a separator before it. -/
theorem exists_getLast?_pieces {sep : List Char} (hsep : sep ≠ []) (s : List Char) :
    ∃ p ∈ (pieces sep s).getLast?, p = s ∨ ∃ u, s = u ++ sep ++ p := by
  have hgo : ∀ (skip : Nat) (piece s : List Char), ∃ p ∈ (pieces.go sep skip piece s).getLast?,
      p = piece.reverse ++ s.drop skip ∨ ∃ u, s.drop skip = u ++ sep ++ p := by
    intro skip piece s
    fun_induction pieces.go sep skip piece s with
    | case1 skip piece => exact ⟨piece.reverse, rfl, .inl (by simp)⟩
    | case2 skip piece c s ih => exact ih
    | case3 piece c s hstart ih =>
      obtain ⟨p, hp, ih⟩ := ih
      obtain ⟨r, hr⟩ := Option.isSome_iff_exists.1 hstart
      have hr := word?_eq_some_iff.1 hr
      have hlength := List.length_pos_iff.2 hsep
      have hdrop : s.drop (sep.length - 1) = r := by
        rw [← List.drop_succ_cons (a := c), Nat.sub_add_cancel hlength, hr, List.drop_left]
      refine ⟨p, ?_, .inr ?_⟩
      · rw [Option.mem_def, List.getLast?_cons_of_ne_nil (List.ne_nil_of_mem
          (List.mem_of_getLast? hp)), hp]
      · rw [hdrop] at ih
        rw [List.drop_zero, hr]
        rcases ih with rfl | ⟨u, rfl⟩
        · exact ⟨[], by simp⟩
        · exact ⟨sep ++ u, by simp⟩
    | case4 piece c s hstart ih =>
      obtain ⟨p, hp, ih⟩ := ih
      refine ⟨p, hp, ?_⟩
      rcases ih with rfl | ⟨u, hu⟩
      · exact .inl (by simp)
      · rw [List.drop_zero] at hu
        exact .inr ⟨c :: u, by simp [hu]⟩
  simpa [pieces] using hgo 0 [] s

/-! ## Kinds of characters -/

/-- The numbers of the blanks. -/
def blankNumbers : List Nat := [9, 10, 11, 12, 13, 0x1c, 0x1d, 0x1e, 0x1f, 0x20] ++ wideBlanks

theorem mem_blankNumbers {c : Char} (h : isBlank c = true) : c.toNat ∈ blankNumbers := by
  simp only [isBlank, isWhite, Bool.or_eq_true, Bool.and_eq_true, decide_eq_true_eq, beq_iff_eq,
    List.contains_iff_mem] at h
  simp only [blankNumbers, List.mem_append, List.mem_cons, List.not_mem_nil, or_false]
  rcases h with ((h | h) | h) | h
  · exact .inl (by omega)
  · exact .inl (by omega)
  · exact .inr h
  · exact .inl (by omega)

/-- What none of the blanks is, no blank is. -/
theorem isBlank_eq_false {p : Char → Bool} (hp : ∀ n ∈ blankNumbers, p (Char.ofNat n) = false)
    {c : Char} (h : p c = true) : isBlank c = false := by
  by_contra hblank
  have hn := hp c.toNat (mem_blankNumbers (by simpa using hblank))
  rw [Char.ofNat_toNat, h] at hn
  exact absurd hn (by simp)

theorem isBlank_of_isWord {c : Char} (h : isWord c = true) : isBlank c = false :=
  isBlank_eq_false (by decide +kernel) h

theorem isBlank_of_isDigit {c : Char} (h : isDigit c = true) : isBlank c = false :=
  isBlank_eq_false (by decide) h

/-- A line break is a blank. -/
theorem isBlank_of_isRowBreak {c : Char} (h : isRowBreak c = true) : isBlank c = true := by
  simp only [isRowBreak, Bool.or_eq_true, Bool.and_eq_true, decide_eq_true_eq, beq_iff_eq] at h
  simp only [isBlank, isWhite, wideBlanks, Bool.or_eq_true, Bool.and_eq_true, decide_eq_true_eq,
    beq_iff_eq, List.contains_iff_mem, List.mem_cons]
  omega

/-! ## Blanks -/

@[simp]
theorem allBlank_nil : allBlank [] = true := rfl

@[simp]
theorem allBlank_cons {c : Char} :
    allBlank (c :: s) = true ↔ isBlank c = true ∧ allBlank s = true := by
  simp [allBlank]

@[simp]
theorem allBlank_append : allBlank (s ++ t) = true ↔ allBlank s = true ∧ allBlank t = true := by
  simp [allBlank]

theorem isBlank_of_mem {c : Char} (h : allBlank s = true) (hc : c ∈ s) : isBlank c = true :=
  List.all_eq_true.1 h c hc

/-- A text that neither starts nor ends with a blank. -/
structure Trimmed (s : List Char) : Prop where
  head : ∀ c ∈ s.head?, isBlank c = false
  last : ∀ c ∈ s.getLast?, isBlank c = false

theorem trimmed_iff :
    Trimmed s ↔ s.head?.all (!isBlank ·) = true ∧ s.getLast?.all (!isBlank ·) = true := by
  have hall : ∀ o : Option Char, o.all (!isBlank ·) = true ↔ ∀ c ∈ o, isBlank c = false := by
    intro o
    cases o <;> simp
  rw [hall, hall]
  exact ⟨fun h => ⟨h.head, h.last⟩, fun h => ⟨h.1, h.2⟩⟩

instance (s : List Char) : Decidable (Trimmed s) := decidable_of_iff _ trimmed_iff.symm

theorem trimmed_nil : Trimmed [] := ⟨nofun, nofun⟩

theorem trimStart_eq_iff :
    trimStart s = t ↔
      ∃ b, s = b ++ t ∧ allBlank b = true ∧ ∀ c ∈ t.head?, isBlank c = false := by
  have hspan : trimStart s = (s.span isBlank).2 := by
    rw [List.span_eq_takeWhile_dropWhile]
    rfl
  rw [hspan]
  constructor
  · rintro rfl
    obtain ⟨heq, hall, hhead⟩ := span_eq_iff.1 (rfl : s.span isBlank = (_, _))
    exact ⟨_, heq, List.all_eq_true.2 hall, hhead⟩
  · rintro ⟨b, heq, hall, hhead⟩
    rw [span_eq_iff.2 ⟨heq, List.all_eq_true.1 hall, hhead⟩]

theorem trimStart_append {b : List Char} (hb : allBlank b = true)
    (ht : ∀ c ∈ t.head?, isBlank c = false) : trimStart (b ++ t) = t :=
  trimStart_eq_iff.2 ⟨b, rfl, hb, ht⟩

theorem trimEnd_append_blanks {b : List Char} (hb : allBlank b = true) :
    trimEnd (s ++ b) = trimEnd s := by
  induction s with
  | nil =>
    induction b with
    | nil => rfl
    | cons c b ih =>
      obtain ⟨hc, hb⟩ := allBlank_cons.1 hb
      have hrest : trimEnd b = [] := ih hb
      simp [trimEnd, hrest, hc]
  | cons c s ih => simp only [List.cons_append, trimEnd, ih]

theorem trimEnd_eq_self (h : ∀ c ∈ s.getLast?, isBlank c = false) : trimEnd s = s := by
  induction s with
  | nil => rfl
  | cons c s ih =>
    cases s with
    | nil =>
      have hc : isBlank c = false := h c rfl
      simp [trimEnd, hc]
    | cons d s =>
      have hrest : trimEnd (d :: s) = d :: s := ih (by simpa using h)
      rw [trimEnd, hrest]

/-- The blanks at the end of a text are all that goes when it is trimmed there. -/
theorem exists_trimEnd (s : List Char) :
    ∃ b, s = trimEnd s ++ b ∧ allBlank b = true ∧
      ∀ c ∈ (trimEnd s).getLast?, isBlank c = false := by
  induction s with
  | nil => exact ⟨[], rfl, rfl, nofun⟩
  | cons c s ih =>
    obtain ⟨b, hs, hb, hlast⟩ := ih
    cases ht : trimEnd s with
    | nil =>
      rw [ht] at hs
      cases hc : isBlank c with
      | true =>
        obtain rfl : s = b := by simpa using hs
        exact ⟨c :: s, by simp [trimEnd, ht, hc], by simp [hc, hb], by simp [trimEnd, ht, hc]⟩
      | false => exact ⟨b, by simp [trimEnd, ht, hc, ← hs], hb, by simp [trimEnd, ht, hc]⟩
    | cons d t =>
      have hcons : trimEnd (c :: s) = c :: d :: t := by simp [trimEnd, ht]
      rw [ht] at hs hlast
      rw [hcons]
      exact ⟨b, by simp [hs], hb, by simpa using hlast⟩

theorem trimEnd_eq_iff :
    trimEnd s = t ↔
      ∃ b, s = t ++ b ∧ allBlank b = true ∧ ∀ c ∈ t.getLast?, isBlank c = false := by
  constructor
  · rintro rfl
    exact exists_trimEnd s
  · rintro ⟨b, rfl, hb, hlast⟩
    rw [trimEnd_append_blanks hb, trimEnd_eq_self hlast]

/-- The text between the blanks at either end. -/
theorem trim_eq_iff :
    trim s = t ↔
      ∃ b b', s = b ++ t ++ b' ∧ allBlank b = true ∧ allBlank b' = true ∧ Trimmed t := by
  rw [trim]
  constructor
  · intro h
    obtain ⟨b, hs, hb, hhead⟩ := trimStart_eq_iff.1 (rfl : trimStart s = trimStart s)
    obtain ⟨b', ht, hb', hlast⟩ := trimEnd_eq_iff.1 h
    refine ⟨b, b', by rw [hs, ht, List.append_assoc], hb, hb', ⟨fun c hc => hhead c ?_, hlast⟩⟩
    rw [ht, List.head?_append, Option.mem_def.1 hc]
    rfl
  · rintro ⟨b, b', rfl, hb, hb', ht⟩
    cases t with
    | nil =>
      have hnil : trimStart (b ++ [] ++ b') = [] :=
        trimStart_eq_iff.2 ⟨b ++ b', by simp, allBlank_append.2 ⟨hb, hb'⟩, nofun⟩
      rw [hnil]
      rfl
    | cons c t =>
      have hstart : trimStart (b ++ (c :: t) ++ b') = (c :: t) ++ b' :=
        trimStart_eq_iff.2 ⟨b, by simp, hb, ht.head⟩
      rw [hstart]
      exact trimEnd_eq_iff.2 ⟨b', rfl, hb', ht.last⟩

theorem Trimmed.trim_eq (h : Trimmed s) : trim s = s :=
  trim_eq_iff.2 ⟨[], [], by simp, rfl, rfl, h⟩

theorem trim_eq_nil_iff : trim s = [] ↔ allBlank s = true := by
  rw [trim_eq_iff]
  constructor
  · rintro ⟨b, b', rfl, hb, hb', -⟩
    simp [hb, hb']
  · exact fun h => ⟨s, [], by simp, h, rfl, trimmed_nil⟩

/-- Blanks around a text do not matter when it is trimmed. -/
theorem trim_append {b b' : List Char} (hb : allBlank b = true) (hb' : allBlank b' = true) :
    trim (b ++ s ++ b') = trim s := by
  obtain ⟨t, ht⟩ : ∃ t, trim s = t := ⟨_, rfl⟩
  obtain ⟨a, a', rfl, ha, ha', htrimmed⟩ := trim_eq_iff.1 ht
  rw [ht]
  exact trim_eq_iff.2 ⟨b ++ a, a' ++ b', by simp, allBlank_append.2 ⟨hb, ha⟩,
    allBlank_append.2 ⟨ha', hb'⟩, htrimmed⟩

theorem trimStart_subset (s : List Char) : trimStart s ⊆ s := (List.dropWhile_sublist _).subset

theorem trimEnd_subset (s : List Char) : trimEnd s ⊆ s := by
  obtain ⟨b, hs, -⟩ := exists_trimEnd s
  exact fun c hc => hs ▸ List.mem_append_left b hc

theorem trim_subset (s : List Char) : trim s ⊆ s :=
  List.Subset.trans (trimEnd_subset _) (trimStart_subset s)

theorem blanks?_eq_some_iff :
    blanks? s = some t ↔
      ∃ b, s = b ++ t ∧ b ≠ [] ∧ allBlank b = true ∧ ∀ c ∈ t.head?, isBlank c = false := by
  cases s with
  | nil => simp [blanks?]
  | cons c s =>
    rw [blanks?, Option.ite_none_right_eq_some, Option.some.injEq, trimStart_eq_iff]
    constructor
    · rintro ⟨hc, b, rfl, hb, ht⟩
      exact ⟨c :: b, rfl, List.cons_ne_nil _ _, allBlank_cons.2 ⟨hc, hb⟩, ht⟩
    · rintro ⟨b, heq, hne, hb, ht⟩
      cases b with
      | nil => exact absurd rfl hne
      | cons d b =>
        obtain ⟨rfl, rfl⟩ := List.cons.inj heq
        obtain ⟨hc, hb⟩ := allBlank_cons.1 hb
        exact ⟨hc, b, rfl, hb, ht⟩

theorem subset_of_blanks? (h : blanks? s = some t) : t ⊆ s := by
  obtain ⟨b, rfl, -⟩ := blanks?_eq_some_iff.1 h
  exact List.subset_append_right b t

end Mender.Text
