import Mathlib.Data.List.Basic
import Mender.Text.Digit

/-!
# Numbers in digits

A number is written in the digits of ASCII, and is read as it is written (`natural_toString`). A
whole number has its sign in front of them (`toList_toString`).
-/

namespace Mender.Text

variable {n : Nat} {c : Char}

theorem isDigit_of_mem_toString (h : c ∈ (toString n).toList) : c.isDigit = true := by
  rw [Nat.toString_eq_repr, Nat.toList_repr] at h
  exact Nat.isDigit_of_mem_toDigits (by decide) (by decide) h

theorem ne_of_isDigit {a : Char} (hc : c.isDigit = true) (ha : a.isDigit = false) : c ≠ a := by
  rintro rfl
  simp [hc] at ha

theorem toList_toString_ne_nil (n : Nat) : (toString n).toList ≠ [] := by
  rw [Nat.toString_eq_repr, Nat.toList_repr]
  exact Nat.toDigits_ne_nil

theorem exists_digits_eq (n : Nat) :
    ∃ d ds, (toString n).toList = d :: ds ∧ d.isDigit = true := by
  obtain ⟨d, ds, hds⟩ := List.exists_cons_of_ne_nil (toList_toString_ne_nil n)
  exact ⟨d, ds, hds, isDigit_of_mem_toString (hds ▸ List.mem_cons_self)⟩

theorem digitValue?_of_isDigit (h : c.isDigit = true) :
    digitValue? c = some (c.toNat - '0'.toNat) := by
  have hrange : 0x30 ≤ c.toNat ∧ c.toNat < 0x30 + 10 := by
    simp only [Char.isDigit, Bool.and_eq_true, decide_eq_true_eq] at h
    exact ⟨h.1, Nat.lt_succ_of_le h.2⟩
  rw [digitValue?, digitZeros, List.find?_cons_of_pos (by simpa using hrange)]
  rfl

/-- A number is read as it is written. -/
@[simp]
theorem natural_toString (n : Nat) : natural (toString n).toList = n := by
  have hfold : natural (toString n).toList = Nat.ofDigitChars 10 (toString n).toList 0 := by
    rw [natural, Nat.ofDigitChars_eq_foldl]
    refine List.foldl_ext _ _ _ fun m c hc => ?_
    rw [digitValue?_of_isDigit (isDigit_of_mem_toString hc)]
    rfl
  rw [hfold, Nat.toString_eq_repr, Nat.toList_repr, Nat.ofDigitChars_ten_toDigits]

/-- A number other than zero is written without zeros in front. -/
theorem eq_zero_of_head? (h : (toString n).toList.head? = some '0') : n = 0 := by
  rw [Nat.toString_eq_repr, Nat.toList_repr] at h
  induction n using Nat.strongRecOn with
  | ind n ih =>
    rcases Nat.lt_or_ge n 10 with hlt | hge
    · rw [Nat.toDigits_of_lt_base hlt, List.head?_cons, Option.some.injEq] at h
      exact (by decide : ∀ d < 10, Nat.digitChar d = '0' → d = 0) n hlt h
    · -- The first digit is that of the number without its last one.
      have hfront := ih (n / 10) (by omega)
      rw [← Nat.div_add_mod n 10, ← Nat.toDigits_append_toDigits (by decide) (by omega)
        (Nat.mod_lt n (by decide)), List.head?_append_of_ne_nil _ Nat.toDigits_ne_nil] at h
      have := hfront h
      omega

/-! ## Whole numbers -/

/-- A whole number is written as its digits, behind a sign if it is negative. -/
theorem toList_toString (i : Int) :
    (toString i).toList = (if i < 0 then ['-'] else []) ++ (toString i.natAbs).toList := by
  cases i with
  | ofNat n => rfl
  | negSucc n =>
    rw [show toString (Int.negSucc n) = "-" ++ toString (n + 1) from rfl, String.toList_append,
      if_pos (Int.negSucc_lt_zero n)]
    rfl

theorem isDigit_or_of_mem_toString {i : Int} (h : c ∈ (toString i).toList) :
    c.isDigit = true ∨ c = '-' := by
  rw [toList_toString] at h
  rcases List.mem_append.1 h with h | h
  · split at h
    · exact .inr (List.mem_singleton.1 h)
    · exact absurd h List.not_mem_nil
  · exact .inl (isDigit_of_mem_toString h)

theorem exists_toString_eq (i : Int) :
    ∃ c cs, (toString i).toList = c :: cs ∧ (c.isDigit = true ∨ c = '-') := by
  obtain ⟨d, ds, hds, -⟩ := exists_digits_eq i.natAbs
  have hne : (toString i).toList ≠ [] := by
    rw [toList_toString, hds]
    exact List.append_ne_nil_of_right_ne_nil _ (List.cons_ne_nil d ds)
  obtain ⟨c, cs, hcs⟩ := List.exists_cons_of_ne_nil hne
  exact ⟨c, cs, hcs, isDigit_or_of_mem_toString (hcs ▸ List.mem_cons_self)⟩

end Mender.Text
