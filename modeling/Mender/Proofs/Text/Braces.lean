import Mathlib.Algebra.Ring.Int.Defs
import Mender.Proofs.Text.Lines
import Mender.Proofs.Text.Scan

/-!
# Braces

How deep a text goes into braces (`depth`). The depth of a text is that of its parts taken
together (`depth_append`, `depth_unlines`), so that a place in a file lies outside of braces if the
text above it has depth zero. A text is balanced if it closes the braces that it opens, and no
others (`Balanced`). Whether it closes others is seen part by part (`neverBelow_append`,
`neverBelow_unlines_cons`).
-/

namespace Mender.Text

variable {s t b : List Char} {n m : Int}

/-- The number of braces that a text opens, less those that it closes. -/
def depth (s : List Char) : Int := (s.count '{' : Int) - s.count '}'

@[simp]
theorem depth_nil : depth [] = 0 := rfl

@[simp]
theorem depth_append (s t : List Char) : depth (s ++ t) = depth s + depth t := by
  simp only [depth, List.count_append]
  omega

theorem depth_cons (c : Char) (s : List Char) : depth (c :: s) = depth [c] + depth s :=
  depth_append [c] s

theorem depth_of_not_mem (hopen : '{' ∉ s) (hclose : '}' ∉ s) : depth s = 0 := by
  rw [depth, List.count_eq_zero_of_not_mem hopen, List.count_eq_zero_of_not_mem hclose]
  rfl

theorem depth_of_allBlank (h : allBlank b = true) : depth b = 0 :=
  depth_of_not_mem (fun hc => absurd (isBlank_of_mem h hc) (by decide))
    (fun hc => absurd (isBlank_of_mem h hc) (by decide))

/-- Line feeds do not matter for the depth. -/
theorem depth_unlines (ls : List (List Char)) : depth (unlines ls) = (ls.map depth).sum := by
  induction ls with
  | nil => rfl
  | cons l ls ih =>
    cases ls with
    | nil => simp [unlines, joined]
    | cons l' ls =>
      have hfeed : depth ['\n'] = 0 := rfl
      rw [unlines_cons_cons, depth_append, depth_cons, ih, hfeed, Int.zero_add, ← List.sum_cons,
        ← List.map_cons]

theorem depth_unlines_cons (l : List Char) (ls : List (List Char)) :
    depth (unlines (l :: ls)) = depth l + depth (unlines ls) := by
  simp only [depth_unlines, List.map_cons, List.sum_cons]

theorem depth_unlines_append (ls ls' : List (List Char)) :
    depth (unlines (ls ++ ls')) = depth (unlines ls) + depth (unlines ls') := by
  simp only [depth_unlines, List.map_append, List.sum_append]

/-! ## Balanced texts -/

/-- A text that begins in `n` open braces closes none that is not open. -/
def NeverBelow (n : Int) (s : List Char) : Prop := ∀ t, t <+: s → 0 ≤ n + depth t

/-- The braces of a text are balanced: what closes has been opened before, and all that is opened
    closes. -/
structure Balanced (s : List Char) : Prop where
  nonneg : ∀ t, t <+: s → 0 ≤ depth t
  depth_eq : depth s = 0

theorem balanced_iff : Balanced s ↔ NeverBelow 0 s ∧ depth s = 0 := by
  simp only [NeverBelow, Int.zero_add]
  exact ⟨fun h => ⟨h.nonneg, h.depth_eq⟩, fun h => ⟨h.1, h.2⟩⟩

theorem NeverBelow.nonneg (h : NeverBelow n s) : 0 ≤ n := by
  simpa using h [] List.nil_prefix

theorem NeverBelow.mono (h : NeverBelow n s) (hm : n ≤ m) : NeverBelow m s := by
  intro t ht
  have hn := h t ht
  omega

@[simp]
theorem neverBelow_nil : NeverBelow n [] ↔ 0 ≤ n := by simp [NeverBelow]

theorem neverBelow_cons (c : Char) :
    NeverBelow n (c :: s) ↔ 0 ≤ n ∧ NeverBelow (n + depth [c]) s := by
  simp only [NeverBelow, List.prefix_cons_iff]
  constructor
  · intro h
    refine ⟨by simpa using h [] (.inl rfl), fun t ht => ?_⟩
    have hn := h (c :: t) (.inr ⟨t, rfl, ht⟩)
    rw [depth_cons] at hn
    omega
  · rintro ⟨hn, h⟩ t (rfl | ⟨t, rfl, ht⟩)
    · simpa using hn
    · rw [depth_cons]
      have hn' := h t ht
      omega

instance NeverBelow.decidable : (n : Int) → (s : List Char) → Decidable (NeverBelow n s)
  | _, [] => decidable_of_iff _ neverBelow_nil.symm
  | n, c :: s =>
    have := NeverBelow.decidable (n + depth [c]) s
    decidable_of_iff _ (neverBelow_cons c).symm

instance (s : List Char) : Decidable (Balanced s) := decidable_of_iff _ balanced_iff.symm

theorem neverBelow_append :
    NeverBelow n (s ++ t) ↔ NeverBelow n s ∧ NeverBelow (n + depth s) t := by
  induction s generalizing n with
  | nil => simpa using NeverBelow.nonneg
  | cons c s ih =>
    rw [List.cons_append, neverBelow_cons, neverBelow_cons, ih, depth_cons c s, and_assoc,
      Int.add_assoc]

/-- A text that closes no brace can stand anywhere. -/
theorem neverBelow_of_not_mem (h : '}' ∉ s) (hn : 0 ≤ n) : NeverBelow n s := by
  intro t ht
  have hclose : t.count '}' = 0 := List.count_eq_zero_of_not_mem fun hc => h (ht.subset hc)
  rw [depth, hclose]
  omega

/-- A line, and the lines below it, which begin as deep as it ends. -/
theorem neverBelow_unlines_cons (l : List Char) (ls : List (List Char)) :
    NeverBelow n (unlines (l :: ls)) ↔ NeverBelow n l ∧ NeverBelow (n + depth l) (unlines ls) := by
  cases ls with
  | nil =>
    have hnil : unlines [] = [] := rfl
    have hone : unlines [l] = l := rfl
    rw [hnil, hone, neverBelow_nil]
    exact ⟨fun h => ⟨h, h l List.prefix_rfl⟩, fun h => h.1⟩
  | cons l' ls =>
    have hfeed : depth ['\n'] = 0 := rfl
    rw [unlines_cons_cons, neverBelow_append, neverBelow_cons, hfeed, Int.add_zero]
    exact and_congr_right fun _ => and_iff_right_of_imp NeverBelow.nonneg

end Mender.Text
