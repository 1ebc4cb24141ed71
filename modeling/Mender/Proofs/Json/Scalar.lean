import Mender.Json.Reader
import Mender.Json.Writer
import Mender.Proofs.Text.Numeral

/-!
# Reading what was written: texts and numbers

A text in JSON is read as itself, whatever characters it holds (`string_stringText`): each character
is (`chars_stringChar`), and it ends where the quote is. A whole number of no more digits than a
numeral may have is read as itself where no digit follows (`number_toString`), and no word is read
in its place (`scalar_toString`).
-/

namespace Mender.Json

open Text

variable {start position room : Nat} {c : Char} {cs : List Char} {rest : List Point}

@[simp]
theorem skip_zero (c : Cursor) : c.skip 0 = c := rfl

/-- The cursor behind a text. -/
@[simp]
theorem skip_append : Cursor.skip ⟨cs.map .char ++ rest, position, room⟩ cs.length =
    ⟨rest, position + cs.length, room⟩ := by
  rw [Cursor.skip, List.drop_left' (by simp)]

/-! ## Characters -/

theorem hexValue?_hexDigit : ∀ n < 16, hexValue? (hexDigit n) = some n := by decide

/-- Four digits are read as the number that they were written for. -/
theorem hexUnit?_hex {n : Nat} (hn : n < 0x10000) (h : rest ≠ []) :
    hexUnit? ((hex 4 n).map .char ++ rest) = some n := by
  obtain ⟨p, ps, rfl⟩ := List.exists_cons_of_ne_nil h
  have hdigit (m : Nat) : hexValue? (hexDigit (m % 16)) = some (m % 16) :=
    hexValue?_hexDigit _ (Nat.mod_lt m (by decide))
  simp only [hex, List.nil_append, List.cons_append, List.map_cons, List.map_nil, hexUnit?,
    hdigit]
  simp
  omega

/-- The code points of an escape are passed over. -/
theorem chars_skip {skip : Nat} {s : List Point} (h : skip ≤ s.length) :
    chars start room skip position s = chars start room 0 (position + skip) (s.drop skip) := by
  induction skip generalizing position s with
  | zero => rfl
  | succ skip ih =>
    cases s with
    | nil => simp at h
    | cons p s =>
      rw [chars, ih (by simpa using h), List.drop_succ_cons, Nat.add_right_comm]
      rfl

/-- An escape is read as the code point that it writes. -/
theorem chars_escape {s : List Point} {p : Point} (used : Nat)
    (h : escape start position s = .ok (p, used)) (hused : used ≤ s.length) :
    chars start room 0 position (.char '\\' :: s) =
      Reading.map (p :: ·) (chars start room 0 (position + (used + 1)) (s.drop used)) := by
  rw [chars, if_neg (by decide), if_pos rfl, h]
  simp only
  rw [chars_skip hused, Nat.add_assoc, Nat.add_comm 1 used]
  split <;> simp_all [Reading.map]

theorem chars_plain {s : List Point} (hquote : c ≠ '"') (hslash : c ≠ '\\') (hspace : ¬c < ' ') :
    chars start room 0 position (.char c :: s) =
      Reading.map (.char c :: ·) (chars start room 0 (position + 1) s) := by
  rw [chars, if_neg (by simpa using hquote), if_neg (by simpa using hslash),
    if_neg (by simpa [Point.holds] using hspace)]
  split <;> simp_all [Reading.map]

/-- A control character is escaped by its number. -/
theorem escape_hex (hc : c < ' ') (h : rest ≠ []) :
    escape start position (.char 'u' :: ((hex 4 c.toNat).map .char ++ rest)) =
      .ok (.char c, 5) := by
  have hlt : c.toNat < 0x20 := hc
  have hpoint : Point.ofNat c.toNat = .char c := by
    rw [Point.ofNat, dif_pos (show c.toNat.isValidChar from c.valid)]
    rfl
  have hdrop : ((hex 4 c.toNat).map Point.char ++ rest).drop 4 = rest := by
    simp [hex]
  simp only [escape, hexUnit?_hex (show c.toNat < 0x10000 by omega) h, hdrop]
  split
  · rw [if_neg (by omega), hpoint]
  · rw [hpoint]

/-- A character is read as itself. -/
theorem chars_stringChar (h : rest ≠ []) :
    chars start room 0 position ((stringChar c).map .char ++ rest) =
      Reading.map (.char c :: ·)
        (chars start room 0 (position + (stringChar c).length) rest) := by
  rw [stringChar]
  -- The quote and the backslash stand for themselves, five characters have letters, the other
  -- control characters have numbers, and the rest is written as it is.
  split
  · next hc =>
    refine chars_escape 1 ?_ (by simp)
    rcases hc with rfl | rfl <;> rfl
  split
  · next hc => exact hc ▸ chars_escape 1 rfl (by simp)
  split
  · next hc => exact hc ▸ chars_escape 1 rfl (by simp)
  split
  · next hc => exact hc ▸ chars_escape 1 rfl (by simp)
  split
  · next hc => exact hc ▸ chars_escape 1 rfl (by simp)
  split
  · next hc => exact hc ▸ chars_escape 1 rfl (by simp)
  split
  · next hc => exact chars_escape 5 (escape_hex hc h) (by simp [hex])
  · next hspecial _ _ _ _ _ hspace =>
    exact chars_plain (mt .inl hspecial) (mt .inr hspecial) hspace

/-- Characters are read as themselves, up to the closing quote. -/
theorem chars_flatMap_stringChar :
    chars start room 0 position ((cs.flatMap stringChar).map .char ++ .char '"' :: rest) =
      .ok (cs.map .char, ⟨rest, position + (cs.flatMap stringChar).length + 1, room⟩) := by
  induction cs generalizing position with
  | nil => rfl
  | cons c cs ih =>
    rw [List.flatMap_cons, List.map_append, List.append_assoc, chars_stringChar (by simp), ih,
      List.length_append, ← Nat.add_assoc]
    rfl

theorem ofPoints_map (cs : List Char) : Loose.ofPoints (cs.map .char) = .whole (.ofList cs) := by
  have hpoints : (cs.map Point.char).mapM Point.char? = some cs := by
    induction cs with
    | nil => rfl
    | cons c cs ih => simp [List.mapM_cons, Point.char?, ih]
  rw [Loose.ofPoints, hpoints]

/-- A text is read as itself, behind the quote that it begins with. -/
theorem string_stringText (s : String) (position room : Nat) (rest : List Point) :
    ∃ body, (stringText s).map .char ++ rest = .char '"' :: body ∧
      string ⟨body, position + 1, room⟩ =
        .ok (.whole s, ⟨rest, position + (stringText s).length, room⟩) := by
  refine ⟨(s.toList.flatMap stringChar).map .char ++ .char '"' :: rest, by simp [stringText], ?_⟩
  rw [string, chars_flatMap_stringChar, Reading.map, ofPoints_map, String.ofList_toList]
  simp [stringText]
  omega

/-! ## Numbers -/

/-- What may stand behind a value over several lines. -/
inductive Ends : List Point → Prop
  | text : Ends []
  | item (s : List Point) : Ends (.char ',' :: s)
  | line (s : List Point) : Ends (.char '\n' :: s)

theorem leadingDigits_append (hdigits : ∀ c ∈ cs, c.isDigit = true) (h : Ends rest) :
    leadingDigits (cs.map .char ++ rest) = cs := by
  induction cs with
  | nil => cases h <;> rfl
  | cons c cs ih =>
    have hc := hdigits c List.mem_cons_self
    have hrest := ih fun c hc => hdigits c (List.mem_cons_of_mem _ hc)
    rw [List.map_cons, List.cons_append, leadingDigits, if_pos hc, hrest]

theorem fraction_of_ends (h : Ends rest) : fraction rest = ([], 0) := by cases h <;> rfl

theorem exponent_of_ends (h : Ends rest) : exponent rest = (0, 0) := by cases h <;> rfl

theorem magnitude_toString {negative : Bool} {n : Nat}
    (hshort : (toString n).toList.length ≤ maxDigits) (h : Ends rest) :
    magnitude negative ⟨(toString n).toList.map .char ++ rest, position, room⟩ =
      .ok (.int (if negative then -n else n),
        ⟨rest, position + (toString n).toList.length, room⟩) := by
  have hwhole : (if ((toString n).toList.map Point.char ++ rest).head? = some (.char '0') then ['0']
      else leadingDigits ((toString n).toList.map .char ++ rest)) = (toString n).toList := by
    split
    · next hzero =>
      have hhead : (toString n).toList.head? = some '0' := by
        obtain ⟨d, ds, hds, -⟩ := exists_digits_eq n
        rw [hds] at hzero ⊢
        simpa using hzero
      rw [eq_zero_of_head? hhead]
      rfl
    · exact leadingDigits_append (fun c hc => isDigit_of_mem_toString hc) h
  simp only [magnitude, hwhole, skip_append, fraction_of_ends h, skip_zero, exponent_of_ends h,
    and_self, if_true]
  rw [if_neg (by omega), natural_toString]

theorem number_digit (hc : c.isDigit = true) :
    number ⟨.char c :: rest, position, room⟩ =
      magnitude false ⟨.char c :: rest, position, room⟩ := by
  simp [number, ne_of_isDigit hc (a := '-') rfl, Point.holds, hc]

theorem number_minus (hc : c.isDigit = true) :
    number ⟨.char '-' :: .char c :: rest, position, room⟩ =
      magnitude true ⟨.char c :: rest, position + 1, room⟩ := by
  simp [number, Point.holds, hc, Cursor.skip]

/-- A number of no more digits than a numeral may have. -/
def IsShort (i : Int) : Prop := (toString i.natAbs).toList.length ≤ maxDigits

instance (i : Int) : Decidable (IsShort i) := inferInstanceAs (Decidable (_ ≤ _))

/-- A whole number is read as itself. -/
theorem number_toString {i : Int} (hshort : IsShort i) (h : Ends rest) :
    number ⟨(toString i).toList.map .char ++ rest, position, room⟩ =
      .ok (.int i, ⟨rest, position + (toString i).toList.length, room⟩) := by
  obtain ⟨d, ds, hds, hd⟩ := exists_digits_eq i.natAbs
  have hm (negative : Bool) (position : Nat) :
      magnitude negative ⟨(toString i.natAbs).toList.map .char ++ rest, position, room⟩ = _ :=
    magnitude_toString hshort h
  rw [toList_toString]
  rw [hds] at hm ⊢
  split
  · next hneg =>
    rw [List.singleton_append, List.map_cons, List.map_cons, List.cons_append, List.cons_append,
      number_minus hd]
    simp only [List.map_cons, List.cons_append] at hm
    rw [hm, if_pos rfl, show -(i.natAbs : Int) = i by omega]
    simp
    omega
  · next hneg =>
    rw [List.nil_append, List.map_cons, List.cons_append, number_digit hd]
    simp only [List.map_cons, List.cons_append] at hm
    rw [hm, if_neg (by simp), show (i.natAbs : Int) = i by omega]

/-! ## Words -/

/-- The word at the cursor, with its value. -/
def wordAt? (cursor : Cursor) : Option (Json × Cursor) :=
  words.findSome? fun (w, v) => (cursor.word? w).map (v, ·)

/-- No word begins as a numeral does. -/
theorem wordAt?_digit (hc : c.isDigit = true) :
    wordAt? ⟨.char c :: rest, position, room⟩ = none := by
  simp only [wordAt?, List.findSome?_eq_none_iff, words, List.forall_mem_cons]
  simp only [Cursor.word?, Option.map_eq_none_iff, ite_eq_right_iff, reduceCtorEq, imp_false]
  have hne {a : Char} (ha : a.isDigit = false) (w : List Point) :
      ¬(.char a :: w).isPrefixOf (.char c :: rest) = true := by
    simp [(ne_of_isDigit hc ha).symm]
  exact ⟨hne rfl _, hne rfl _, hne rfl _, hne rfl _, hne rfl _, hne rfl _, nofun⟩

theorem wordAt?_minus (hc : c.isDigit = true) :
    wordAt? ⟨.char '-' :: .char c :: rest, position, room⟩ = none := by
  simp [wordAt?, words, Cursor.word?, (ne_of_isDigit hc (a := 'I') rfl).symm]

theorem scalar_toString {i : Int} (hshort : IsShort i) (h : Ends rest) :
    scalar ⟨(toString i).toList.map .char ++ rest, position, room⟩ =
      .ok (.int i, ⟨rest, position + (toString i).toList.length, room⟩) := by
  have hword : wordAt? ⟨(toString i).toList.map .char ++ rest, position, room⟩ = none := by
    obtain ⟨d, ds, hds, hd⟩ := exists_digits_eq i.natAbs
    rw [toList_toString, hds]
    split
    · exact wordAt?_minus hd
    · exact wordAt?_digit hd
  rw [wordAt?] at hword
  rw [scalar, hword]
  exact number_toString hshort h

end Mender.Json
