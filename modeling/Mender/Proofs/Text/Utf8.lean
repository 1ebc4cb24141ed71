import Mender.Text.Encoding

/-!
# Bytes of texts

A character has one sequence of bytes only, as the shortest is the only one that is read.

* `Utf8.encode_of_decode`: a text is written as the bytes that it was read from, whatever
  they are.
* `Utf8.decode_encode`: what is written is read again as the same text, also where
  surrogates are admitted (`Encoding.decodeUtf8_encode`).
-/

namespace Mender.Text

namespace Utf8

/-! ## Bytes inside a character -/

/-- The number of a character that is none of the surrogates. -/
theorem toNat_ofNat {n : Nat} (h : n < 0xd800 ∨ 0xdfff < n ∧ n < 0x110000) :
    (Char.ofNat n).toNat = n := by
  have hn : n.isValidChar := h
  rw [Char.ofNat, dif_pos hn]
  rfl

theorem ofNat_eq {n : Nat} {b : UInt8} (h : n = b.toNat) : UInt8.ofNat n = b := by
  rw [h, UInt8.ofNat_toNat]

theorem isTail_iff (b : UInt8) : isTail b = true ↔ 0x80 ≤ b.toNat ∧ b.toNat ≤ 0xbf := by
  simp [isTail, UInt8.le_iff_toNat_le]

/-- A second byte carries bits, and none that make a shorter form, a surrogate or a number
    that is too large. -/
theorem isSecond_iff (b c : UInt8) : isSecond b c = true ↔
    0x80 ≤ c.toNat ∧ c.toNat ≤ 0xbf ∧ (b.toNat = 0xe0 → 0xa0 ≤ c.toNat) ∧
      (b.toNat = 0xed → c.toNat ≤ 0x9f) ∧ (b.toNat = 0xf0 → 0x90 ≤ c.toNat) ∧
      (b.toNat = 0xf4 → c.toNat ≤ 0x8f) := by
  have hb : ∀ n : UInt8, b = n ↔ b.toNat = n.toNat := fun n => UInt8.toNat_inj.symm
  simp only [isSecond, second, hb, Bool.and_eq_true, decide_eq_true_eq, UInt8.le_iff_toNat_le]
  have h1 : (0xe0 : UInt8).toNat = 0xe0 := rfl
  have h2 : (0xed : UInt8).toNat = 0xed := rfl
  have h3 : (0xf0 : UInt8).toNat = 0xf0 := rfl
  have h4 : (0xf4 : UInt8).toNat = 0xf4 := rfl
  rw [h1, h2, h3, h4]
  -- The four bytes at the head that leave less room, and all others.
  split
  · simp
    omega
  · split
    · simp
      omega
    · split
      · simp
        omega
      · split <;> simp <;> omega

/-! ## From bytes to characters and back -/

theorem encodeChar_one {b : UInt8} (hb : b.toNat < 0x80) :
    encodeChar (Char.ofNat b.toNat) = [b] := by
  rw [encodeChar, toNat_ofNat (by omega)]
  simp [hb]

theorem encodeChar_two {b c : UInt8} (hb : 0xc2 ≤ b.toNat ∧ b.toNat < 0xe0)
    (hc : isTail c = true) :
    encodeChar (Char.ofNat ((b.toNat - 0xc0) * 64 + tailBits c)) = [b, c] := by
  rw [isTail_iff] at hc
  rw [encodeChar, tailBits, toNat_ofNat (by omega)]
  simp only [Nat.div_one]
  rw [if_neg (by omega), if_pos (by omega), ofNat_eq (b := b) (by omega),
    ofNat_eq (b := c) (by omega)]

theorem encodeChar_three {b c d : UInt8} (hb : 0xe0 ≤ b.toNat ∧ b.toNat < 0xf0)
    (hc : isSecond b c = true) (hd : isTail d = true) :
    encodeChar (Char.ofNat (((b.toNat - 0xe0) * 64 + tailBits c) * 64 + tailBits d)) =
      [b, c, d] := by
  have hsecond := (isSecond_iff b c).1 hc
  rw [isTail_iff] at hd
  rw [encodeChar, tailBits, tailBits, toNat_ofNat (by omega)]
  simp only [Nat.div_one]
  rw [if_neg (by omega), if_neg (by omega), if_pos (by omega), ofNat_eq (b := b) (by omega),
    ofNat_eq (b := c) (by omega), ofNat_eq (b := d) (by omega)]

theorem encodeChar_four {b c d e : UInt8} (hb : 0xf0 ≤ b.toNat ∧ b.toNat < 0xf5)
    (hc : isSecond b c = true) (hd : isTail d = true) (he : isTail e = true) :
    encodeChar (Char.ofNat ((((b.toNat - 0xf0) * 64 + tailBits c) * 64 + tailBits d) * 64
      + tailBits e)) = [b, c, d, e] := by
  have hsecond := (isSecond_iff b c).1 hc
  rw [isTail_iff] at hd he
  rw [encodeChar, tailBits, tailBits, tailBits, toNat_ofNat (by omega)]
  simp only [Nat.div_one]
  rw [if_neg (by omega), if_neg (by omega), if_neg (by omega), ofNat_eq (b := b) (by omega),
    ofNat_eq (b := c) (by omega), ofNat_eq (b := d) (by omega), ofNat_eq (b := e) (by omega)]

/-- The bytes of the character that is read stand at the head. -/
theorem encodeChar_of_next {b : UInt8} {s : Bytes} {c : Char} {used : Nat}
    (h : next b s = .char c used) : encodeChar c ++ s.drop used = b :: s := by
  have hlt : ∀ n : UInt8, ¬b < n → n.toNat ≤ b.toNat := fun n hn =>
    Nat.le_of_not_lt (mt UInt8.lt_iff_toNat_lt.2 hn)
  unfold next at h
  -- The cases follow the length that the first byte tells, from one byte to four.
  split at h
  · next hb =>
    obtain ⟨rfl, rfl⟩ := Next.char.inj h
    rw [encodeChar_one (UInt8.lt_iff_toNat_lt.1 hb)]
    rfl
  split at h
  · simp at h
  next hb =>
  have hlow : 0xc2 ≤ b.toNat := hlt _ hb
  split at h
  · next hb =>
    have hhigh : b.toNat < 0xe0 := UInt8.lt_iff_toNat_lt.1 hb
    split at h
    · simp at h
    split at h
    · next hc =>
      obtain ⟨rfl, rfl⟩ := Next.char.inj h
      rw [encodeChar_two ⟨hlow, hhigh⟩ hc]
      rfl
    · simp at h
  next hb =>
  have hlow : 0xe0 ≤ b.toNat := hlt _ hb
  split at h
  · next hb =>
    have hhigh : b.toNat < 0xf0 := UInt8.lt_iff_toNat_lt.1 hb
    split at h
    · simp at h
    split at h
    · simp at h
    next hc =>
    split at h
    · simp at h
    split at h
    · next hd =>
      obtain ⟨rfl, rfl⟩ := Next.char.inj h
      rw [encodeChar_three ⟨hlow, hhigh⟩ (by simpa using hc) hd]
      rfl
    · simp at h
  next hb =>
  have hlow : 0xf0 ≤ b.toNat := hlt _ hb
  split at h
  · next hb =>
    have hhigh : b.toNat < 0xf5 := UInt8.lt_iff_toNat_lt.1 hb
    split at h
    · simp at h
    split at h
    · simp at h
    next hc =>
    split at h
    · simp at h
    split at h
    · simp at h
    next hd =>
    split at h
    · simp at h
    split at h
    · next he =>
      obtain ⟨rfl, rfl⟩ := Next.char.inj h
      rw [encodeChar_four ⟨hlow, hhigh⟩ (by simpa using hc) (by simpa using hd) he]
      rfl
    · simp at h
  · simp at h

theorem encode_of_decodeFrom {position : Nat} {bytes : Bytes} {s : List Char}
    (h : decodeFrom position bytes = .ok s) : encode s = bytes := by
  induction position, bytes using decodeFrom.induct generalizing s with
  | case1 position =>
    rw [decodeFrom] at h
    obtain rfl := Except.ok.inj h
    rfl
  | case2 position b bytes c used hnext ih =>
    rw [decodeFrom, hnext] at h
    cases hrest : decodeFrom (position + 1 + used) (bytes.drop used) with
    | error e => simp [hrest, Functor.map, Except.map] at h
    | ok rest =>
      simp only [hrest, Functor.map, Except.map, Except.ok.injEq] at h
      rw [← h, ← encodeChar_of_next hnext, ← ih hrest]
      rfl
  | case3 position b bytes f size hnext =>
    rw [decodeFrom, hnext] at h
    simp at h

/-- A text is written as the bytes that it was read from. -/
theorem encode_of_decode {bytes : Bytes} {s : List Char} (h : decode bytes = .ok s) :
    encode s = bytes :=
  encode_of_decodeFrom h

/-! ## From characters to bytes and back -/

theorem not_lt_of_le {b n : UInt8} (h : n.toNat ≤ b.toNat) : ¬b < n := fun hlt =>
  absurd (UInt8.lt_iff_toNat_lt.1 hlt) (Nat.not_lt.2 h)

theorem next_one {b : UInt8} (hb : b.toNat < 0x80) (s : Bytes) :
    next b s = .char (Char.ofNat b.toNat) 0 := by
  have h1 : b < 0x80 := UInt8.lt_iff_toNat_lt.2 hb
  simp [next, h1]

theorem next_two {b c : UInt8} (hlow : 0xc2 ≤ b.toNat) (hhigh : b.toNat < 0xe0)
    (hc : isTail c = true) (s : Bytes) :
    next b (c :: s) = .char (Char.ofNat ((b.toNat - 0xc0) * 64 + tailBits c)) 1 := by
  have h1 : ¬b < 0x80 := not_lt_of_le (by simp; omega)
  have h2 : ¬b < 0xc2 := not_lt_of_le hlow
  have h3 : b < 0xe0 := UInt8.lt_iff_toNat_lt.2 hhigh
  simp [next, h1, h2, h3, hc]

theorem next_three {b c d : UInt8} (hlow : 0xe0 ≤ b.toNat) (hhigh : b.toNat < 0xf0)
    (hc : isSecond b c = true) (hd : isTail d = true) (s : Bytes) :
    next b (c :: d :: s) =
      .char (Char.ofNat (((b.toNat - 0xe0) * 64 + tailBits c) * 64 + tailBits d)) 2 := by
  have h1 : ¬b < 0x80 := not_lt_of_le (by simp; omega)
  have h2 : ¬b < 0xc2 := not_lt_of_le (by simp; omega)
  have h3 : ¬b < 0xe0 := not_lt_of_le hlow
  have h4 : b < 0xf0 := UInt8.lt_iff_toNat_lt.2 hhigh
  simp [next, h1, h2, h3, h4, hc, hd]

theorem next_four {b c d e : UInt8} (hlow : 0xf0 ≤ b.toNat) (hhigh : b.toNat < 0xf5)
    (hc : isSecond b c = true) (hd : isTail d = true) (he : isTail e = true) (s : Bytes) :
    next b (c :: d :: e :: s) = .char (Char.ofNat
      ((((b.toNat - 0xf0) * 64 + tailBits c) * 64 + tailBits d) * 64 + tailBits e)) 3 := by
  have h1 : ¬b < 0x80 := not_lt_of_le (by simp; omega)
  have h2 : ¬b < 0xc2 := not_lt_of_le (by simp; omega)
  have h3 : ¬b < 0xe0 := not_lt_of_le (by simp; omega)
  have h4 : ¬b < 0xf0 := not_lt_of_le hlow
  have h5 : b < 0xf5 := UInt8.lt_iff_toNat_lt.2 hhigh
  simp [next, h1, h2, h3, h4, h5, hc, hd, he]

/-- The bytes of a character, before others, are read as that character. -/
theorem next_encodeChar (c : Char) :
    ∃ b s, encodeChar c = b :: s ∧ ∀ rest, next b (s ++ rest) = .char c s.length := by
  have hvalid : c.toNat < 0xd800 ∨ 0xdfff < c.toNat ∧ c.toNat < 0x110000 := c.valid
  have hbyte : ∀ {n : Nat}, n < 256 → (UInt8.ofNat n).toNat = n := UInt8.toNat_ofNat_of_lt'
  have htail : ∀ n : Nat, (UInt8.ofNat (0x80 + n % 64)).toNat = 0x80 + n % 64 := fun n =>
    hbyte (by omega)
  have hchar : ∀ {n : Nat}, n = c.toNat → Char.ofNat n = c := by
    rintro n rfl
    exact Char.ofNat_toNat c
  rw [encodeChar]
  simp only [Nat.div_one]
  split
  · next h1 =>
    refine ⟨_, [], rfl, fun rest => ?_⟩
    have hb := hbyte (n := c.toNat) (by omega)
    rw [next_one (by omega), hchar hb]
    rfl
  split
  · next h1 h2 =>
    refine ⟨_, [_], rfl, fun rest => ?_⟩
    have hb := hbyte (n := 0xc0 + c.toNat / 64) (by omega)
    have ht := htail c.toNat
    rw [List.singleton_append, next_two (by omega) (by omega) ((isTail_iff _).2 (by omega)),
      tailBits, hchar (by omega)]
    rfl
  split
  · next h1 h2 h3 =>
    refine ⟨_, [_, _], rfl, fun rest => ?_⟩
    have hb := hbyte (n := 0xe0 + c.toNat / 4096) (by omega)
    have ht := htail c.toNat
    have ht' := htail (c.toNat / 64)
    rw [List.cons_append, List.singleton_append, next_three (by omega) (by omega)
      ((isSecond_iff _ _).2 (by omega)) ((isTail_iff _).2 (by omega)), tailBits, tailBits,
      hchar (by omega)]
    rfl
  · next h1 h2 h3 =>
    refine ⟨_, [_, _, _], rfl, fun rest => ?_⟩
    have hb := hbyte (n := 0xf0 + c.toNat / 262144) (by omega)
    have ht := htail c.toNat
    have ht' := htail (c.toNat / 64)
    have ht'' := htail (c.toNat / 4096)
    rw [List.cons_append, List.cons_append, List.singleton_append, next_four (by omega) (by omega)
      ((isSecond_iff _ _).2 (by omega)) ((isTail_iff _).2 (by omega)) ((isTail_iff _).2 (by omega)),
      tailBits, tailBits, tailBits, hchar (by omega)]
    rfl

/-- A text is written one character after another, and each is read for itself. -/
theorem encode_cons (c : Char) (s : List Char) :
    ∃ b bs, encode (c :: s) = b :: (bs ++ encode s) ∧
      next b (bs ++ encode s) = .char c bs.length := by
  obtain ⟨b, bs, hc, hnext⟩ := next_encodeChar c
  refine ⟨b, bs, ?_, hnext _⟩
  rw [encode, List.flatMap_cons, hc, List.cons_append]
  rfl

theorem decodeFrom_encode (position : Nat) (s : List Char) :
    decodeFrom position (encode s) = .ok s := by
  induction s generalizing position with
  | nil => rw [encode, List.flatMap_nil, decodeFrom]
  | cons c s ih =>
    obtain ⟨b, bs, hencode, hnext⟩ := encode_cons c s
    rw [hencode, decodeFrom, hnext]
    simp only [List.drop_left, ih]
    rfl

/-- What is written is read again. -/
theorem decode_encode (s : List Char) : decode (encode s) = .ok s :=
  decodeFrom_encode 0 s

theorem decodeLossy_encode (s : List Char) : decodeLossy (encode s) = s := by
  induction s with
  | nil => rw [encode, List.flatMap_nil, decodeLossy]
  | cons c s ih =>
    obtain ⟨b, bs, hencode, hnext⟩ := encode_cons c s
    rw [hencode, decodeLossy, hnext]
    simp only [List.drop_left, ih]

end Utf8

/-- What is written is read again, where surrogates are admitted. -/
theorem Encoding.decodeUtf8_encode (position : Nat) (s : List Char) :
    decodeUtf8 position (Utf8.encode s) = .ok (s.map .char) := by
  induction s generalizing position with
  | nil => rw [Utf8.encode, List.flatMap_nil, decodeUtf8, List.map_nil]
  | cons c s ih =>
    obtain ⟨b, bs, hencode, hnext⟩ := Utf8.encode_cons c s
    rw [hencode, decodeUtf8, hnext]
    simp only [List.drop_left, ih]
    rfl

end Mender.Text
