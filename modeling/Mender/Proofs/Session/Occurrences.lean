import Mathlib.Data.List.Count
import Mathlib.Data.List.Forall2
import Mender.Session.State

/-!
# Rounds with the same occurrences

Two rounds of diagnostics are compared by counting occurrences. This comes to the same as
asking for a rearrangement of the one that has the occurrences of the other, in order
(`sameOccurrences_iff_perm`).

* `isStalled_exact`: so a round is compared with the round before as a multiset of
  occurrences, and nothing else about its diagnostics matters.
-/

namespace Mender

/-- The diagnostics differ in column, rule, severity and source at most. -/
def Diagnostic.IsVariant (d d' : Diagnostic) : Prop :=
  ∃ column ruleId severity source,
    d' = { d with column := column, ruleId := ruleId, severity := severity, source := source }

theorem Diagnostic.IsVariant.identity_eq {d d' : Diagnostic} (h : d.IsVariant d') :
    d'.identity = d.identity := by
  obtain ⟨column, ruleId, severity, source, rfl⟩ := h
  rfl

namespace Session

variable {current current' previous previous' : List Diagnostic}

/-- Two lists hold the same occurrences equally often iff the one is a rearrangement of the
    other, as far as occurrences go. -/
theorem sameOccurrences_iff_perm (current previous : List Diagnostic) :
    sameOccurrences current previous = true ↔
      (current.map Diagnostic.identity).Perm (previous.map Diagnostic.identity) := by
  simp only [sameOccurrences, List.all_eq_true, List.mem_append, beq_iff_eq, List.perm_iff_count]
  constructor
  · intro h i
    by_cases hi : i ∈ current.map Diagnostic.identity ∨ i ∈ previous.map Diagnostic.identity
    · exact h i hi
    · push Not at hi
      rw [List.count_eq_zero_of_not_mem hi.1, List.count_eq_zero_of_not_mem hi.2]
  · exact fun h i _ => h i

/-- A build is stalled after another if both have the same occurrences, each as many times. -/
theorem isStalled_iff_perm (current previous : List Diagnostic) :
    isStalled current (some previous) = true ↔
      (current.map Diagnostic.identity).Perm (previous.map Diagnostic.identity) :=
  sameOccurrences_iff_perm current previous

/-- Being stalled is an equivalence. -/
theorem equivalence_isStalled :
    Equivalence fun current previous => isStalled current (some previous) = true := by
  simp only [isStalled_iff_perm]
  exact ⟨fun _ => .refl _, .symm, .trans⟩

/-- Rounds may be replaced by rounds with the same occurrences. -/
theorem isStalled_congr
    (hcurrent : (current.map Diagnostic.identity).Perm (current'.map Diagnostic.identity))
    (hprevious : (previous.map Diagnostic.identity).Perm (previous'.map Diagnostic.identity)) :
    isStalled current' (some previous') = isStalled current (some previous) := by
  rw [Bool.eq_iff_iff, isStalled_iff_perm, isStalled_iff_perm]
  exact ⟨fun h => hcurrent.trans (h.trans hprevious.symm),
    fun h => hcurrent.symm.trans (h.trans hprevious)⟩

/-- Variants of diagnostics have the same occurrences, in the same order. -/
theorem map_identity_eq_of_forall₂ {ds ds' : List Diagnostic}
    (h : List.Forall₂ Diagnostic.IsVariant ds ds') :
    ds'.map Diagnostic.identity = ds.map Diagnostic.identity := by
  induction h with
  | nil => rfl
  | cons hd _ ih => rw [List.map_cons, List.map_cons, hd.identity_eq, ih]

/-- A round is the one before again iff it is a rearrangement of it as far as occurrences go, and
    the first round is not. Between rounds, this is an equivalence. It depends neither on the
    order of the diagnostics, nor on a column, a rule, a severity or a source. -/
theorem isStalled_exact (current previous : List Diagnostic) :
    isStalled current none = false ∧
      (isStalled current (some previous) = true ↔
        (current.map Diagnostic.identity).Perm (previous.map Diagnostic.identity)) ∧
      (Equivalence fun current previous => isStalled current (some previous) = true) ∧
      (∀ current' previous', current.Perm current' → previous.Perm previous' →
        isStalled current' (some previous') = isStalled current (some previous)) ∧
      ∀ current' previous', List.Forall₂ Diagnostic.IsVariant current current' →
        List.Forall₂ Diagnostic.IsVariant previous previous' →
          isStalled current' (some previous') = isStalled current (some previous) := by
  refine ⟨rfl, isStalled_iff_perm current previous, equivalence_isStalled,
    fun current' previous' hcurrent hprevious => ?_,
    fun current' previous' hcurrent hprevious => ?_⟩
  · exact isStalled_congr (hcurrent.map _) (hprevious.map _)
  · refine isStalled_congr ?_ ?_
    · rw [map_identity_eq_of_forall₂ hcurrent]
    · rw [map_identity_eq_of_forall₂ hprevious]

/-- Rounds of one length that report the same problems, but not equally often, are different. -/
example :
    let d : Diagnostic := ⟨"a.ts", 1, 8, "m", none, .error, .lint⟩
    let e : Diagnostic := ⟨"b.ts", 1, 8, "m", none, .error, .lint⟩
    isStalled [d, d, e] (some [d, e, e]) = false := by
  decide

/-- A problem that is reported twice, and then with its column moved and behind the other one. -/
theorem isStalled_moved :
    let d : Diagnostic := ⟨"a.ts", 1, 8, "m", none, .error, .lint⟩
    let e : Diagnostic := ⟨"b.ts", 1, 8, "m", some "r", .warning, .lint⟩
    isStalled [e, { d with column := 3 }, d] (some [d, d, e]) = true := by
  intro d e
  obtain ⟨-, hsame, -, hreorder, -⟩ := isStalled_exact [d, d, e] [d, d, e]
  obtain ⟨-, -, -, -, hvary⟩ := isStalled_exact [e, d, d] [d, d, e]
  have hvariant : ∀ d : Diagnostic, d.IsVariant d := fun d => ⟨_, _, _, _, rfl⟩
  rw [hvary [e, { d with column := 3 }, d] [d, d, e]
    (.cons (hvariant e) (.cons ⟨3, none, .error, .lint, rfl⟩ (.cons (hvariant d) .nil)))
    (.cons (hvariant d) (.cons (hvariant d) (.cons (hvariant e) .nil)))]
  rw [hreorder [e, d, d] [d, d, e] (by decide) (.refl _)]
  exact hsame.2 (.refl _)

end Session

end Mender
