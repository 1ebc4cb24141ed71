import Mathlib.Data.List.Forall2
import Mender.Proofs.Text.Lines
import Mender.Proofs.Text.Scan
import Mender.Repair.HeadElement

/-!
# Lines and the head element

The rule for the head element works on the whole file, and what it does to the lines of it
is told here: it renames the tags line by line (`getElem?_lines_renameTags`), as long as no
closing tag goes on in another line (`ClosesInLine`), and the lines above the new import stay
where they are (`getElem?_lines_repair`).

A line feed cuts the work of a scanner in two (`substitute_append_newline`) if no match goes
across it. No opening tag does, but a closing tag may have a line feed before its bracket.
-/

namespace Mender.Repair.HeadElement

open Text

variable {s t l r u v : List Char} {k n : Nat}

/-! ## Cuts at a line feed -/

/-- The scanner finds the same in the line `l` whatever is below it, and takes no more than the
    line. -/
def CutAfter (p : List Char → Option (Nat × List Char)) (l r : List Char) : Prop :=
  ∀ u, u <:+ l → u ≠ [] → p (u ++ '\n' :: r) = p (u ++ ['\n']) ∧
    ∀ m ∈ p (u ++ ['\n']), m.1 < u.length

/-- What is made of a line that another line follows. -/
def substituteLine (p : List Char → Option (Nat × List Char)) (l : List Char) : List Char :=
  (substitute p 0 (l ++ ['\n'])).dropLast

variable {p : List Char → Option (Nat × List Char)}

/-- What is substituted in a line is so whatever lines follow, if nothing reaches over its end. -/
theorem exists_substitute_append (hp : ∀ r, p ('\n' :: r) = none) (h : CutAfter p l r) (k : Nat)
    (hk : k ≤ l.length) :
    ∃ l', substitute p k (l ++ ['\n']) = l' ++ ['\n'] ∧
      substitute p k (l ++ '\n' :: r) = l' ++ '\n' :: substitute p 0 r := by
  induction l generalizing k with
  | nil =>
    obtain rfl : k = 0 := by simpa using hk
    exact ⟨[], by simp [substitute, hp], by simp [substitute, hp]⟩
  | cons c l ih =>
    have hl : CutAfter p l r := fun u hu => h u (hu.trans (List.suffix_cons c l))
    cases k with
    | succ k => exact ih hl k (by simpa using hk)
    | zero =>
      obtain ⟨hcut, hlt⟩ := h (c :: l) List.suffix_rfl (List.cons_ne_nil _ _)
      simp only [List.cons_append] at hcut hlt ⊢
      cases hfound : p (c :: (l ++ ['\n'])) with
      | none =>
        obtain ⟨l', hl', hr⟩ := ih hl 0 (Nat.zero_le _)
        exact ⟨c :: l', by simp [substitute, hfound, hl'], by simp [substitute, hcut, hfound, hr]⟩
      | some m =>
        have hm : m.1 ≤ l.length := Nat.le_of_lt_succ (by simpa using hlt m hfound)
        obtain ⟨l', hl', hr⟩ := ih hl m.1 hm
        exact ⟨m.2 ++ l', by simp [substitute, hfound, hl'],
          by simp [substitute, hcut, hfound, hr]⟩

/-- A line and the text below it are worked on apart. -/
theorem substitute_append_newline (hp : ∀ r, p ('\n' :: r) = none) (h : CutAfter p l r) :
    substitute p 0 (l ++ '\n' :: r) = substituteLine p l ++ '\n' :: substitute p 0 r := by
  obtain ⟨l', hl', hr⟩ := exists_substitute_append hp h 0 (Nat.zero_le _)
  rw [hr, substituteLine, hl', List.dropLast_concat]

theorem substitute_singleton (hp : ∀ r, p ('\n' :: r) = none) (h : CutAfter p l []) :
    substitute p 0 (l ++ ['\n']) = substituteLine p l ++ ['\n'] := by
  simpa [substitute] using substitute_append_newline hp h

/-! ## Tags -/

/-- An opening tag is the word, with a blank or the end of the tag behind it. -/
theorem openTag?_eq_some_iff {m : Nat × List Char} :
    openTag? s = some m ↔
      ∃ c t, s = "<head".toList ++ c :: t ∧ (isBlank c = true ∨ c = '>') ∧
        m = (4, "<Head".toList) := by
  unfold openTag?
  constructor
  · intro h
    split at h
    · next c t hword =>
      rw [Option.ite_none_right_eq_some, Bool.or_eq_true, beq_iff_eq] at h
      exact ⟨c, t, word?_eq_some_iff.1 hword, h.1, (Option.some.inj h.2).symm⟩
    · simp at h
  · rintro ⟨c, t, rfl, hc, rfl⟩
    rw [word?_eq_some_iff.2 rfl]
    exact if_pos (by simpa using hc)

/-- A closing tag, with the blanks in it. -/
def closing (b : List Char) : List Char := "</head".toList ++ (b ++ ['>'])

theorem closing_eq (b : List Char) : closing b = "</head".toList ++ (b ++ ['>']) := rfl

theorem length_closing (b : List Char) : (closing b).length = 7 + b.length := by
  rw [closing_eq, List.length_append, List.length_append, show "</head".toList.length = 6 from rfl,
    List.length_singleton]
  omega

theorem closing_append (b t : List Char) :
    closing b ++ t = "</head".toList ++ (b ++ '>' :: t) := by
  rw [closing_eq, List.append_assoc, List.append_assoc]
  rfl

/-- A closing tag is the word, with blanks and the end of the tag behind it. -/
theorem closeTag?_eq_some_iff {m : Nat × List Char} :
    closeTag? s = some m ↔
      ∃ b t, s = closing b ++ t ∧ allBlank b = true ∧ m = (6 + b.length, "</Head>".toList) := by
  unfold closeTag?
  constructor
  · intro h
    split at h
    · simp at h
    · next r hword =>
      split at h
      · next t htrim =>
        obtain ⟨b, rfl, hb, -⟩ := trimStart_eq_iff.1 htrim
        obtain rfl := word?_eq_some_iff.1 hword
        obtain rfl := Option.some.inj h
        rw [← closing_append]
        refine ⟨b, t, rfl, hb, ?_⟩
        rw [List.length_append, length_closing]
        congr 1
        omega
      · simp at h
  · rintro ⟨b, t, rfl, hb, rfl⟩
    have hword : word? "</head".toList (closing b ++ t) = some (b ++ '>' :: t) :=
      word?_eq_some_iff.2 (closing_append b t)
    have htrim : trimStart (b ++ '>' :: t) = '>' :: t := by
      refine trimStart_eq_iff.2 ⟨b, rfl, hb, fun c hc => ?_⟩
      obtain rfl : '>' = c := by simpa using hc
      decide
    have hlen : (closing b ++ t).length - t.length - 1 = 6 + b.length := by
      rw [List.length_append, length_closing]
      omega
    simp only [hword, htrim, hlen]

/-- No closing tag that begins in the first `n` lines goes on in another line. -/
def ClosesInLine (n : Nat) (s : List Char) : Prop :=
  ∀ i < s.length, (s.take i).count '\n' < n →
    ∀ m ∈ closeTag? (s.drop i), '\n' ∉ (s.drop i).take (m.1 + 1)

instance (n : Nat) (s : List Char) : Decidable (ClosesInLine n s) :=
  inferInstanceAs (Decidable (∀ i < s.length, (s.take i).count '\n' < n →
    ∀ m ∈ closeTag? (s.drop i), '\n' ∉ (s.drop i).take (m.1 + 1)))

/-- A text without line feed at the head of lines is at the head of the first line. -/
theorem exists_of_append_newline {x : List Char} (hx : '\n' ∉ x) (h : u ++ '\n' :: r = x ++ t) :
    ∃ w, u = x ++ w ∧ t = w ++ '\n' :: r := by
  rcases List.append_eq_append_iff.1 h with ⟨w, rfl, ht⟩ | ⟨w, rfl, ht⟩
  · cases w with
    | nil => exact ⟨[], by simp, by simpa using ht.symm⟩
    | cons c w =>
      obtain ⟨rfl, -⟩ := List.cons.inj ht
      exact absurd (by simp) hx
  · exact ⟨w, rfl, ht⟩

theorem newline_not_mem_of_suffix (hl : '\n' ∉ l) (hu : u <:+ l) : '\n' ∉ u :=
  fun h => hl (hu.subset h)

/-- What an opening tag is does not depend on the lines below. -/
theorem openTag?_append_newline (hu : '\n' ∉ u) {m : Nat × List Char} :
    openTag? (u ++ '\n' :: r) = some m ↔
      ∃ w, u = "<head".toList ++ w ∧ (∀ c ∈ w.head?, isBlank c = true ∨ c = '>') ∧
        m = (4, "<Head".toList) := by
  rw [openTag?_eq_some_iff]
  constructor
  · rintro ⟨c, t, h, hc, rfl⟩
    obtain ⟨w, rfl, ht⟩ := exists_of_append_newline (by decide) h
    refine ⟨w, rfl, fun d hd => ?_, rfl⟩
    cases w with
    | nil => simp at hd
    | cons d' w =>
      obtain rfl : d' = d := by simpa using hd
      obtain ⟨rfl, -⟩ := List.cons.inj ht
      exact hc
  · rintro ⟨w, rfl, hw, rfl⟩
    cases w with
    | nil => exact ⟨'\n', r, by rw [List.append_nil], .inl (by decide), rfl⟩
    | cons c w => exact ⟨c, w ++ '\n' :: r, by rw [List.append_assoc]; rfl, hw c rfl, rfl⟩

/-- An opening tag ends in its line. -/
theorem cutAfter_openTag (hl : '\n' ∉ l) (r : List Char) : CutAfter openTag? l r := by
  intro u hu hne
  have hu' := newline_not_mem_of_suffix hl hu
  refine ⟨Option.ext fun m => ?_, fun m hm => ?_⟩
  · rw [openTag?_append_newline hu', openTag?_append_newline hu']
  · obtain ⟨w, rfl, -, rfl⟩ := (openTag?_append_newline hu').1 hm
    rw [List.length_append, show "<head".toList.length = 5 from rfl]
    omega

theorem take_closing (b t : List Char) : (closing b ++ t).take (6 + b.length + 1) = closing b :=
  List.take_left' (by rw [length_closing]; omega)

/-- A closing tag that ends in its line does not depend on the lines below. -/
theorem closeTag?_append_newline (hu : '\n' ∉ u) {m : Nat × List Char}
    (hm : ∀ m ∈ closeTag? (u ++ '\n' :: r), '\n' ∉ (u ++ '\n' :: r).take (m.1 + 1)) :
    closeTag? (u ++ '\n' :: r) = some m ↔
      ∃ b w, u = closing b ++ w ∧ allBlank b = true ∧ m = (6 + b.length, "</Head>".toList) := by
  constructor
  · intro h
    have hline := hm m h
    obtain ⟨b, t, hb, hblank, rfl⟩ := closeTag?_eq_some_iff.1 h
    rw [hb, take_closing] at hline
    obtain ⟨w, hw, -⟩ := exists_of_append_newline hline hb
    exact ⟨b, w, hw, hblank, rfl⟩
  · rintro ⟨b, w, rfl, hblank, rfl⟩
    exact closeTag?_eq_some_iff.2 ⟨b, w ++ '\n' :: r, by rw [List.append_assoc], hblank, rfl⟩

/-- No closing tag in a line with nothing below it goes on below it. -/
theorem newline_not_mem_take_closeTag (hu : '\n' ∉ u) :
    ∀ m ∈ closeTag? (u ++ ['\n']), '\n' ∉ (u ++ ['\n']).take (m.1 + 1) := by
  intro m hm
  obtain ⟨b, t, hb, -, rfl⟩ := closeTag?_eq_some_iff.1 hm
  rw [hb, take_closing]
  rcases List.append_eq_append_iff.1 hb with ⟨w, hw, ht⟩ | ⟨w, rfl, -⟩
  · cases w with
    | nil => rwa [hw, List.append_nil]
    | cons c w =>
      -- The last character of the tag is its bracket, and no line feed.
      have hlast := congrArg List.getLast? hw
      obtain ⟨rfl, hnil⟩ := List.cons.inj ht
      obtain ⟨rfl, rfl⟩ := List.append_eq_nil_iff.1 hnil.symm
      rw [closing_eq, ← List.append_assoc, List.getLast?_concat, List.getLast?_concat] at hlast
      exact absurd hlast (by decide)
  · exact fun h => hu (List.mem_append_left _ h)

/-- No closing tag reaches over the end of a line if none that begins there does. -/
theorem cutAfter_closeTag (hl : '\n' ∉ l)
    (h : ∀ u, u <:+ l → ∀ m ∈ closeTag? (u ++ '\n' :: r), '\n' ∉ (u ++ '\n' :: r).take (m.1 + 1)) :
    CutAfter closeTag? l r := by
  intro u hu hne
  have hu' := newline_not_mem_of_suffix hl hu
  have hline := newline_not_mem_take_closeTag hu'
  refine ⟨Option.ext fun m => ?_, fun m hm => ?_⟩
  · rw [closeTag?_append_newline hu' (h u hu), closeTag?_append_newline hu' hline]
  · obtain ⟨b, w, rfl, -, rfl⟩ := (closeTag?_append_newline hu' hline).1 hm
    rw [List.length_append, length_closing]
    omega

/-! ## The tags are renamed line by line -/

/-- The letter of an opening tag may have been put in upper case. -/
def Renamed (a b : Char) : Prop := b = a ∨ a = 'h' ∧ b = 'H'

theorem forall₂_renamed_refl (s : List Char) : List.Forall₂ Renamed s s :=
  List.forall₂_same.2 fun _ _ => .inl rfl

/-- Renaming opening tags changes nothing but their letters. -/
theorem forall₂_substitute_openTag (k : Nat) (s : List Char) :
    List.Forall₂ Renamed (s.drop k) (substitute openTag? k s) := by
  induction s generalizing k with
  | nil => simp [substitute]
  | cons c s ih =>
    cases k with
    | succ k => exact ih k
    | zero =>
      rw [substitute]
      cases hfound : openTag? (c :: s) with
      | none => exact .cons (.inl rfl) (ih 0)
      | some m =>
        obtain ⟨c', t, htag, -, rfl⟩ := openTag?_eq_some_iff.1 hfound
        have hdrop : s.drop 4 = c' :: t := by
          rw [(List.cons.inj htag).2]
          rfl
        have htext : List.Forall₂ Renamed "<head".toList "<Head".toList :=
          .cons (.inl rfl) (.cons (.inr ⟨rfl, rfl⟩) (forall₂_renamed_refl "ead".toList))
        have hrest := ih 4
        rw [hdrop] at hrest
        rw [List.drop_zero, htag]
        exact List.rel_append htext hrest

/-- What has no letter in upper case has not been changed. -/
theorem exists_of_forall₂_append {x y z : List Char} (hx : 'H' ∉ x)
    (h : List.Forall₂ Renamed z (x ++ y)) :
    ∃ z', z = x ++ z' ∧ List.Forall₂ Renamed z' y := by
  induction x generalizing z with
  | nil => exact ⟨z, rfl, h⟩
  | cons c x ih =>
    rw [List.mem_cons, not_or] at hx
    cases h with
    | @cons a _ z' _ hac hrest =>
      obtain ⟨z'', rfl, hy⟩ := ih hx.2 hrest
      rcases hac with rfl | ⟨-, rfl⟩
      · exact ⟨z'', rfl, hy⟩
      · exact absurd rfl hx.1

/-- A closing tag is one before the opening tags are renamed. -/
theorem closeTag?_of_renamed {m : Nat × List Char} (h : List.Forall₂ Renamed s t)
    (hm : closeTag? t = some m) : closeTag? s = some m := by
  obtain ⟨b, r, rfl, hb, rfl⟩ := closeTag?_eq_some_iff.1 hm
  have hclosing : 'H' ∉ closing b := by
    rw [closing_eq]
    simp only [List.mem_append, not_or]
    refine ⟨by decide, fun hc => ?_, by decide⟩
    have hblank := isBlank_of_mem hb hc
    exact absurd hblank (by decide)
  obtain ⟨r', rfl, -⟩ := exists_of_forall₂_append hclosing h
  exact closeTag?_eq_some_iff.2 ⟨b, r', rfl, hb, rfl⟩

theorem newline_of_renamed (h : List.Forall₂ Renamed s t) (ht : '\n' ∈ t) : '\n' ∈ s := by
  induction h with
  | nil => exact ht
  | cons hc _ ih =>
    rcases List.mem_cons.1 ht with rfl | ht
    · rcases hc with rfl | ⟨-, hH⟩
      · exact List.mem_cons_self
      · exact absurd hH (by decide)
    · exact List.mem_cons_of_mem _ (ih ht)

/-- In a line, too, nothing but the letters of opening tags is changed. -/
theorem forall₂_substituteLine_openTag (hl : '\n' ∉ l) :
    List.Forall₂ Renamed l (substituteLine openTag? l) := by
  have h := forall₂_substitute_openTag 0 (l ++ ['\n'])
  rw [List.drop_zero, substitute_singleton (fun _ => rfl) (cutAfter_openTag hl [])] at h
  have hlength := h.length_eq
  simp only [List.length_append, List.length_singleton, Nat.add_right_cancel_iff] at hlength
  have htake := List.forall₂_take l.length h
  rwa [List.take_left' rfl, List.take_left' hlength.symm] at htake

/-- Once the opening tags of a line are renamed, the closing tags are cut below it. -/
theorem cutAfter_closeTag_renamed (hl : '\n' ∉ l) (h : ClosesInLine 1 (l ++ '\n' :: r))
    (ht : List.Forall₂ Renamed r t) : CutAfter closeTag? (substituteLine openTag? l) t := by
  have hopen := forall₂_substituteLine_openTag hl
  refine cutAfter_closeTag (fun hmem => hl (newline_of_renamed hopen hmem)) fun u hu m hm hmem => ?_
  -- The tag begins in the same place of the line as it was before.
  obtain ⟨x, hx⟩ := hu
  have hlength : x.length ≤ l.length := by
    rw [hopen.length_eq, ← hx, List.length_append]
    omega
  have hrenamed : List.Forall₂ Renamed (l.drop x.length ++ '\n' :: r) (u ++ '\n' :: t) := by
    have hdrop := List.forall₂_drop x.length hopen
    rw [← hx, List.drop_left' rfl] at hdrop
    exact List.rel_append hdrop (.cons (.inl rfl) ht)
  have hplace : (l ++ '\n' :: r).drop x.length = l.drop x.length ++ '\n' :: r :=
    List.drop_append_of_le_length hlength
  have hcount : ((l ++ '\n' :: r).take x.length).count '\n' < 1 := by
    rw [List.take_append_of_le_length hlength, Nat.lt_one_iff]
    exact List.count_eq_zero_of_not_mem fun hc => hl (List.mem_of_mem_take hc)
  have hline := h x.length (by rw [List.length_append, List.length_cons]; omega) hcount m
    (hplace ▸ closeTag?_of_renamed hrenamed hm)
  rw [hplace] at hline
  exact hline (newline_of_renamed (List.forall₂_take _ hrenamed) hmem)

/-- What is made of a line when the tags are renamed; the last line has no line below it. -/
def renameLine (last : Bool) (l : List Char) : List Char :=
  if last then renameTags l else (renameTags (l ++ ['\n'])).dropLast

/-- The tags of a line and of the text below it are renamed apart. -/
theorem renameTags_append_newline (hl : '\n' ∉ l) (h : ClosesInLine 1 (l ++ '\n' :: r)) :
    renameTags (l ++ '\n' :: r) = renameLine false l ++ '\n' :: renameTags r := by
  have hcut := cutAfter_closeTag_renamed hl h (forall₂_substitute_openTag 0 r)
  have hline : renameLine false l = substituteLine closeTag? (substituteLine openTag? l) := by
    change (substitute closeTag? 0 (substitute openTag? 0 (l ++ ['\n']))).dropLast = _
    rw [substitute_singleton (fun _ => rfl) (cutAfter_openTag hl [])]
    rfl
  rw [hline, renameTags, substitute_append_newline (fun _ => rfl) (cutAfter_openTag hl r),
    substitute_append_newline (fun _ => rfl) hcut]
  rfl

/-- A scanner that writes no line feeds adds none. -/
theorem count_newline_substitute_le (hp : ∀ u, ∀ m ∈ p u, '\n' ∉ m.2) (k : Nat) (s : List Char) :
    (substitute p k s).count '\n' ≤ s.count '\n' := by
  fun_induction substitute p k s with
  | case1 => exact le_rfl
  | case2 k c s ih => exact ih.trans (List.count_le_count_cons)
  | case3 c s k t hm ih =>
    have ht : t.count '\n' = 0 := List.count_eq_zero_of_not_mem (hp _ _ hm)
    rw [List.count_append, ht, Nat.zero_add]
    exact ih.trans (List.count_le_count_cons)
  | case4 c s hm ih =>
    rw [List.count_cons, List.count_cons]
    omega

/-- To rename the tags adds no line. -/
theorem count_newline_renameTags_le (s : List Char) :
    (renameTags s).count '\n' ≤ s.count '\n' := by
  refine (count_newline_substitute_le (fun u m hm => ?_) 0 _).trans
    (count_newline_substitute_le (fun u m hm => ?_) 0 s)
  · obtain ⟨b, t, -, -, rfl⟩ := closeTag?_eq_some_iff.1 hm
    exact (by decide : '\n' ∉ "</Head>".toList)
  · obtain ⟨c, t, -, -, rfl⟩ := openTag?_eq_some_iff.1 hm
    exact (by decide : '\n' ∉ "<Head".toList)

theorem closesInLine_mono {m : Nat} (hmn : m ≤ n) (h : ClosesInLine n s) : ClosesInLine m s :=
  fun i hi hcount => h i hi (hcount.trans_le hmn)

/-- What holds of the first lines holds of those below the first. -/
theorem closesInLine_below (h : ClosesInLine (n + 1) (l ++ '\n' :: r)) (hl : '\n' ∉ l) :
    ClosesInLine n r := by
  intro i hi hcount
  have hdrop : (l ++ '\n' :: r).drop (l.length + (i + 1)) = r.drop i := by
    rw [List.drop_length_add_append, List.drop_succ_cons]
  have htake : (l ++ '\n' :: r).take (l.length + (i + 1)) = l ++ '\n' :: r.take i := by
    rw [List.take_length_add_append, List.take_succ_cons]
  have hcount' : (l ++ '\n' :: r.take i).count '\n' < n + 1 := by
    rw [List.count_append, List.count_eq_zero_of_not_mem hl, List.count_cons_self]
    omega
  have hplace := h (l.length + (i + 1)) (by rw [List.length_append, List.length_cons]; omega)
    (by rwa [htake])
  rwa [hdrop] at hplace

/-- A text of one line with a line feed behind it has no closing tag across lines. -/
theorem closesInLine_singleton (hl : '\n' ∉ l) (n : Nat) : ClosesInLine n (l ++ ['\n']) := by
  intro i hi _
  have hi' : i ≤ l.length := by simpa using Nat.le_of_lt_succ (by simpa using hi)
  rw [List.drop_append_of_le_length hi']
  exact newline_not_mem_take_closeTag fun h => hl (List.mem_of_mem_drop h)

/-- A line remains a line when its tags are renamed. -/
theorem keepsLine_renameLine (last : Bool) : KeepsLine (renameLine last) := by
  intro l hl
  have hcount : l.count '\n' = 0 := List.count_eq_zero_of_not_mem hl
  rw [← List.count_eq_zero]
  cases last with
  | true =>
    have hle := count_newline_renameTags_le l
    rw [renameLine, if_pos rfl]
    omega
  | false =>
    have hle := count_newline_renameTags_le (l ++ ['\n'])
    rw [renameTags_append_newline hl (closesInLine_singleton hl 1), List.count_append,
      List.count_append, List.count_cons_self, List.count_singleton_self] at hle
    omega

/-- Where the tags close in their lines, each line is renamed by itself. -/
theorem getElem?_lines_renameTags_unlines {ls : List (List Char)} (hne : ls ≠ [])
    (hls : ∀ l ∈ ls, '\n' ∉ l) (h : ClosesInLine n (unlines ls)) {i : Nat} (hi : i < n) :
    (lines (renameTags (unlines ls)))[i]? = ls[i]?.map (renameLine (i + 1 = ls.length)) := by
  induction ls generalizing n i with
  | nil => exact absurd rfl hne
  | cons l ls ih =>
    have hl : '\n' ∉ l := hls l List.mem_cons_self
    cases ls with
    | nil =>
      have hlines : lines (renameTags l) = [renameLine true l] :=
        lines_of_newline_not_mem (keepsLine_renameLine true l hl)
      change (lines (renameTags l))[i]? = _
      rw [hlines]
      cases i <;> simp
    | cons l' ls =>
      obtain ⟨n, rfl⟩ : ∃ m, n = m + 1 := ⟨n - 1, by omega⟩
      rw [unlines_cons_cons] at h ⊢
      rw [renameTags_append_newline hl (closesInLine_mono (by omega) h),
        lines_append_newline (keepsLine_renameLine false l hl)]
      cases i with
      | zero => simp
      | succ i =>
        rw [List.getElem?_cons_succ, List.getElem?_cons_succ,
          ih (List.cons_ne_nil _ _) (fun l hl => hls l (List.mem_cons_of_mem _ hl))
            (closesInLine_below h hl) (by omega)]
        simp

/-- The tags of the first `n` lines are renamed line by line. -/
theorem getElem?_lines_renameTags (h : ClosesInLine n s) {i : Nat} (hi : i < n) :
    (lines (renameTags s))[i]? =
      (lines s)[i]?.map (renameLine (i + 1 = (lines s).length)) := by
  rw [← unlines_lines s] at h
  have hline := getElem?_lines_renameTags_unlines (lines_ne_nil s)
    (fun _ => newline_not_mem_of_mem_lines) h hi
  rwa [unlines_lines] at hline

/-! ## The component is imported -/

theorem insertIdx_eq_append {α : Type} {as : List α} {k : Nat} (a : α) (hk : k ≤ as.length) :
    as.insertIdx k a = as.take k ++ a :: as.drop k := by
  induction as generalizing k with
  | nil =>
    obtain rfl : k = 0 := by simpa using hk
    rfl
  | cons b as ih =>
    cases k with
    | zero => rfl
    | succ k => rw [List.insertIdx_succ_cons, ih (by simpa using hk)]; rfl

/-- The import is put among the lines, or behind them. -/
theorem importPlace_le (ls : List (List Char)) : importPlace ls ≤ ls.length := by
  rw [importPlace]
  split
  · next i hi =>
    obtain ⟨hlt, -⟩ := List.findIdx?_eq_some_iff_getElem.1 hi
    exact hlt
  · split
    · exact Nat.sub_le _ _
    · exact Nat.zero_le _

/-- The new import is a line between those of the file. -/
theorem lines_addImport (s : List Char) :
    lines (addImport s) = (lines s).take (importPlace (lines s)) ++
      headImport :: (lines s).drop (importPlace (lines s)) := by
  have himport : '\n' ∉ headImport := by decide
  rw [addImport, insertIdx_eq_append _ (importPlace_le _), lines_unlines (by simp)]
  intro l hl
  rcases List.mem_append.1 hl with hl | hl
  · exact newline_not_mem_of_mem_lines (List.mem_of_mem_take hl)
  · rcases List.mem_cons.1 hl with rfl | hl
    · exact himport
    · exact newline_not_mem_of_mem_lines (List.mem_of_mem_drop hl)

/-- The lines above the new import stay where they are. -/
theorem getElem?_lines_addImport {i : Nat} (hi : i < importPlace (lines s)) :
    (lines (addImport s))[i]? = (lines s)[i]? := by
  rw [lines_addImport, List.getElem?_append_left, List.getElem?_take, if_pos hi]
  rw [List.length_take]
  exact lt_min hi (hi.trans_le (importPlace_le _))

/-- What becomes of the first `n` lines: their tags are renamed, if the import is already there or
    goes below them. -/
theorem getElem?_lines_repair (h : ClosesInLine n s)
    (himport : importsHead true (renameTags s) = true ∨ n ≤ importPlace (lines (renameTags s)))
    {i : Nat} (hi : i < n) :
    (lines (repair s))[i]? = (lines s)[i]?.map (renameLine (i + 1 = (lines s).length)) := by
  rw [← getElem?_lines_renameTags h hi, repair]
  split
  · rfl
  · next hnot => exact getElem?_lines_addImport (hi.trans_le (himport.resolve_left hnot))

end Mender.Repair.HeadElement
