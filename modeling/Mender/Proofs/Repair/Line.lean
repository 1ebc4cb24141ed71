import Mender.Proofs.Text.Lines
import Mender.Proofs.Text.Scan
import Mender.Repair.Rule

/-!
# Repairs of a line

Three of the rules work on the reported line: they change it (`Rule.rewrite`), leave it one
line, and leave every other line as it is (`Rule.getElem?_lines_revise`). A line has no line
feed in it, and what is made of it has only characters of it and of fixed words.
-/

namespace Mender.Repair

open Text

variable {s t line message : List Char}

/-! ## Unused imports -/

namespace UnusedImport

theorem defaultName?_subset {r name : List Char} (h : defaultName? s = some (name, r)) :
    name ⊆ s ∧ r ⊆ s := by
  rw [defaultName?] at h
  split at h
  · simp at h
  · next name' r' hne hspan =>
    split at h
    · next r'' hcomma =>
      obtain ⟨rfl, rfl⟩ : name' = name ∧ trimStart r'' = r := by simpa using h
      obtain ⟨rfl, -, -⟩ := span_eq_iff.1 hspan
      have hr : trimStart r'' ⊆ r' := fun c hc =>
        trimStart_subset r' (hcomma ▸ List.mem_cons_of_mem _ (trimStart_subset r'' hc))
      exact ⟨fun c hc => List.mem_append_left _ hc, fun c hc => List.mem_append_right _ (hr hc)⟩
    · simp at h

/-- What is braced ends at the first closing brace. -/
theorem braced?_eq_some_iff {named r : List Char} :
    braced? s = some (named, r) ↔ s = '{' :: (named ++ '}' :: r) ∧ '}' ∉ named := by
  unfold braced?
  constructor
  · intro h
    split at h
    · split at h
      · next named' c r' hspan =>
        obtain ⟨rfl, rfl⟩ : named' = named ∧ r' = r := by simpa using h
        obtain ⟨rfl, hnamed, hc⟩ := span_eq_iff.1 hspan
        obtain rfl : c = '}' := by simpa using hc c rfl
        exact ⟨rfl, fun hmem => by simpa using hnamed _ hmem⟩
      · simp at h
    · simp at h
  · rintro ⟨rfl, hnamed⟩
    simp only [span_ne_append hnamed]

theorem braced?_subset {named r : List Char} (h : braced? s = some (named, r)) :
    named ⊆ s ∧ r ⊆ s := by
  obtain ⟨rfl, -⟩ := braced?_eq_some_iff.1 h
  exact ⟨fun c hc => by simp [hc], fun c hc => by simp [hc]⟩

/-- The parts of an import are parts of its line. -/
theorem Import.ofLine?_subset {i : Import} (h : Import.ofLine? line = some i) :
    i.lead ⊆ line ∧ (∀ name ∈ i.default?, name ⊆ line) ∧ i.named ⊆ line ∧ i.source ⊆ line := by
  unfold Import.ofLine? at h
  simp only [Option.bind_eq_bind, Option.bind_eq_some_iff, Option.ite_none_right_eq_some] at h
  obtain ⟨r, hr, names, hnames, ⟨named, source⟩, hbraced, -, hi⟩ := h
  have hkeyword : r ⊆ line := List.Subset.trans (subset_of_word? hr) (trimStart_subset line)
  have hsub : names ⊆ line := List.Subset.trans (subset_of_blanks? hnames) hkeyword
  obtain rfl := Option.some.inj hi
  refine ⟨fun c hc => List.mem_of_mem_take hc, ?_⟩
  cases hdefault : defaultName? names with
  | none =>
    simp only [hdefault] at hbraced ⊢
    obtain ⟨hnamed, hsource⟩ := braced?_subset hbraced
    exact ⟨nofun, List.Subset.trans hnamed hsub, List.Subset.trans hsource hsub⟩
  | some d =>
    obtain ⟨name, r'⟩ := d
    simp only [hdefault] at hbraced ⊢
    obtain ⟨hname, hr'⟩ := defaultName?_subset hdefault
    obtain ⟨hnamed, hsource⟩ := braced?_subset hbraced
    have hrest : r' ⊆ line := List.Subset.trans hr' hsub
    refine ⟨fun name' hname' => ?_, List.Subset.trans hnamed hrest,
      List.Subset.trans hsource hrest⟩
    obtain rfl : name = name' := by simpa using hname'
    exact List.Subset.trans hname hsub

/-- An import whose parts have no line feed has none. -/
theorem newline_not_mem_text {i : Import} {names : List (List Char)} (hlead : '\n' ∉ i.lead)
    (hdefault : ∀ name ∈ i.default?, '\n' ∉ name) (hnames : ∀ name ∈ names, '\n' ∉ name)
    (hsource : '\n' ∉ i.source) : '\n' ∉ i.text names := by
  have hlist : '\n' ∉ nameList names := by
    intro hc
    rcases mem_joined hc with hc | ⟨name, hname, hc⟩
    · exact absurd hc (by decide)
    · exact hnames name hname hc
  have hopen : '\n' ∉ "\x7b ".toList := by decide
  have hclose : '\n' ∉ " \x7d".toList := by decide
  have hcomma : '\n' ∉ ", ".toList := by decide
  unfold Import.text
  split
  · exact List.not_mem_nil
  · simp only [List.mem_append, not_or]
    exact ⟨⟨hlead, ⟨hopen, hlist⟩, hclose⟩, hsource⟩
  · next name hname =>
    simp only [List.mem_append, not_or]
    exact ⟨⟨hlead, hdefault name hname⟩, hsource⟩
  · next name hname _ =>
    simp only [List.mem_append, not_or]
    exact ⟨⟨⟨⟨hlead, hdefault name hname⟩, hcomma⟩, ⟨hopen, hlist⟩, hclose⟩, hsource⟩

/-- The line of an import remains a line. -/
theorem keepsLine_without (name : List Char) : KeepsLine (without name) := by
  intro line hline
  unfold without
  split
  · exact hline
  · next i hi =>
    obtain ⟨hlead, hdefault, hnamed, hsource⟩ := Import.ofLine?_subset hi
    dsimp only
    split
    · exact hline
    · refine newline_not_mem_text (fun hc => hline (hlead hc))
        (fun name hname hc => hline (hdefault name hname hc)) (fun specifier hspec hc => ?_)
        fun hc => hline (hsource hc)
      obtain ⟨part, hpart, rfl⟩ := List.mem_map.1 (List.mem_filter.1 (List.mem_filter.1 hspec).1).1
      exact hline (hnamed (subset_of_mem_fields hpart (trim_subset part hc)))

end UnusedImport

/-! ## Types -/

namespace ExplicitAny

theorem newline_not_mem_narrow (skip : Nat) (before s : List Char) (h : '\n' ∉ s) :
    '\n' ∉ narrow skip before s := by
  have hword : '\n' ∉ "unknown".toList := by decide
  fun_induction narrow skip before s with
  | case1 => exact h
  | case2 skip before c s ih =>
    rw [List.mem_cons, not_or] at h
    exact ih h.2
  | case3 before c s r hr hany ih =>
    rw [List.mem_cons, not_or] at h
    rw [List.mem_append, not_or]
    exact ⟨hword, ih h.2⟩
  | case4 before c s r hr hany ih =>
    rw [List.mem_cons, not_or] at h ⊢
    exact ⟨h.1, ih h.2⟩
  | case5 before c s hr ih =>
    rw [List.mem_cons, not_or] at h ⊢
    exact ⟨h.1, ih h.2⟩

/-- To narrow the types of a line leaves it a line. -/
theorem keepsLine_narrow : KeepsLine (narrow 0 []) := newline_not_mem_narrow 0 []

end ExplicitAny

/-! ## Entities -/

namespace Entity

/-- A character comes in only with an entity. -/
theorem not_mem_entity (q : Quotes) {c d : Char} (hdouble : d ∉ "&quot;".toList)
    (hsingle : d ∉ "&apos;".toList) (h : d ≠ c) : d ∉ q.entity c := by
  unfold Quotes.entity
  split
  · exact hdouble
  · split
    · exact hsingle
    · simpa using h

theorem not_mem_escape (q : Quotes) {d : Char} (hdouble : d ∉ "&quot;".toList)
    (hsingle : d ∉ "&apos;".toList) (skip : Nat) (line : List Char) (h : d ∉ line) :
    d ∉ escape q skip line := by
  fun_induction escape q skip line with
  | case1 => exact h
  | case2 skip c s ih =>
    rw [List.mem_cons, not_or] at h ⊢
    exact ⟨h.1, ih h.2⟩
  | case3 c s n hn ih =>
    rw [List.mem_cons, not_or] at h ⊢
    exact ⟨h.1, ih h.2⟩
  | case4 c s hn ih =>
    rw [List.mem_cons, not_or] at h
    rw [List.mem_append, not_or]
    exact ⟨not_mem_entity q hdouble hsingle h.1, ih h.2⟩

/-- To escape the quotes of a line leaves it a line. -/
theorem keepsLine_escape (q : Quotes) : KeepsLine (escape q 0) :=
  not_mem_escape q (by decide) (by decide) 0

end Entity

/-! ## Rules of a line -/

namespace Rule

/-- The rules that work on the reported line. -/
def IsLineRule : Rule → Prop
  | unusedImport | explicitAny | unescapedEntity => True
  | headElement | duplicateReactImport | duplicateDefaultExport => False

instance : (r : Rule) → Decidable r.IsLineRule
  | unusedImport | explicitAny | unescapedEntity => inferInstanceAs (Decidable True)
  | headElement | duplicateReactImport | duplicateDefaultExport =>
    inferInstanceAs (Decidable False)

/-- What a rule of a line makes of the reported line. -/
def rewrite (message : List Char) : Rule → List Char → List Char
  | unusedImport =>
    match UnusedImport.unusedName? message with
    | none => id
    | some name => UnusedImport.without name
  | explicitAny => ExplicitAny.narrow 0 []
  | unescapedEntity => Entity.escape (.ofMessage message) 0
  | headElement | duplicateReactImport | duplicateDefaultExport => id

variable {r : Rule}

/-- What a rule makes of a line is a line. -/
theorem keepsLine_rewrite (message : List Char) (r : Rule) : KeepsLine (r.rewrite message) := by
  cases r with
  | unusedImport =>
    rw [rewrite]
    split
    · exact keepsLine_id
    · exact UnusedImport.keepsLine_without _
  | explicitAny => exact ExplicitAny.keepsLine_narrow
  | unescapedEntity => exact Entity.keepsLine_escape _
  | headElement | duplicateReactImport | duplicateDefaultExport => exact keepsLine_id

/-- A rule of a line changes the line that is reported, and no other. -/
theorem revise_eq_modifyLine (hr : r.IsLineRule) (n : Int) (message s : List Char) :
    r.revise n message s = modifyLine n (r.rewrite message) s := by
  cases r with
  | unusedImport =>
    rw [revise, UnusedImport.repair, rewrite]
    cases UnusedImport.unusedName? message with
    | none => exact (modifyLine_id n s).symm
    | some name => rfl
  | explicitAny | unescapedEntity => rfl
  | headElement | duplicateReactImport | duplicateDefaultExport => exact hr.elim

/-- A rule of a line rewrites the reported line, and leaves every other line as it is. -/
theorem getElem?_lines_revise (hr : r.IsLineRule) (n : Int) (message s : List Char) (j : Nat) :
    (lines (r.revise n message s))[j]? =
      if (j : Int) + 1 = n then (lines s)[j]?.map (r.rewrite message) else (lines s)[j]? := by
  rw [revise_eq_modifyLine hr, getElem?_lines_modifyLine (r.keepsLine_rewrite message)]

end Rule

end Mender.Repair
