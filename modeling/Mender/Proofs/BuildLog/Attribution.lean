import Mathlib.Data.List.Forall2
import Mender.Proofs.BuildLog.Forms

/-!
# The lines that diagnostics come from

Every diagnostic of a log is written by one line of it, and the diagnostics stand in the
order of their lines (`Attributed`). A detail belongs to the nearest header above it, which
is not more than `lookahead` lines away and from which no line parts it that ends a block
(`IsDetailOf`); a location counts with a message right below it (`IsTypeErrorAt`). What is
written by such a line is read, unless it has a number of too many digits or is below a
header with such a detail (`read_attributed`).

The order rests on `ReportedFrom.lt`: the block of a header ends where the next line stands
that could report anything.
-/

namespace Mender.BuildLog

open Text

/-! ## What lines report -/

/-- A number that has not too many digits to be read. -/
def IsShort (digits : List Char) : Prop := digits.length ≤ maxDigits

instance (digits : List Char) : Decidable (IsShort digits) :=
  inferInstanceAs (Decidable (_ ≤ _))

/-- A detail of which both numbers can be read. -/
def Detail.IsShort (d : Detail) : Prop := BuildLog.IsShort d.line ∧ BuildLog.IsShort d.column

/-- The diagnostic that a detail is below the header of a file. -/
def Detail.diagnostic (file : List Char) (d : Detail) : Diagnostic :=
  ⟨String.ofList file, natural d.line, natural d.column, String.ofList d.message,
    some (String.ofList d.rule), d.severity, .lint⟩

/-- The diagnostic that a type checker gives for a place. -/
def typeDiagnostic (file line column message : List Char) : Diagnostic :=
  ⟨String.ofList file, natural line, natural column, String.ofList message, none, .error,
    .typeChecker⟩

/-- A line that ends the block below a header: a blank one, a header or a location. -/
def EndsBlock (l : List Char) : Prop :=
  allBlank l = true ∨ IsSourcePath l ∨ ∃ file line column, IsLocation l file line column

/-- The line with number `j` is a detail in the block of the header with number `i`. -/
structure IsDetailOf (ls : List (List Char)) (i j : Nat) (file : List Char) (d : Detail) :
    Prop where
  header : ls[i]? = some file
  path : IsSourcePath file
  below : i < j
  near : j ≤ i + lookahead
  detail : ∃ l, ls[j]? = some l ∧ IsDetail l d
  unbroken : ∀ k l, i < k → k < j → ls[k]? = some l → ¬EndsBlock l

/-- The line with number `i` is a location, with a message on the line below it. -/
structure IsTypeErrorAt (ls : List (List Char)) (i : Nat) (file line column message : List Char) :
    Prop where
  location : ∃ l, ls[i]? = some l ∧ IsLocation l file line column
  message : ∃ l r, ls[i + 1]? = some l ∧ trimStart l = "Type error:".toList ++ r ∧ message = trim r

/-- The line with number `j` reports a diagnostic, due to the header or the location with
    number `i`. A header reports nothing if one of its details has too long a number. -/
inductive ReportedFrom (ls : List (List Char)) : (i j : Nat) → Diagnostic → Prop
  | lint {i j : Nat} {file : List Char} {d : Detail} : IsDetailOf ls i j file d →
      (∀ j' d', IsDetailOf ls i j' file d' → d'.IsShort) → ReportedFrom ls i j (d.diagnostic file)
  | typeError {i : Nat} {file line column message : List Char} :
      IsTypeErrorAt ls i file line column message → IsShort line → IsShort column →
      ReportedFrom ls i i (typeDiagnostic file line column message)

/-- The line with number `j` reports a diagnostic. -/
def Reports (ls : List (List Char)) (j : Nat) (dg : Diagnostic) : Prop :=
  ∃ i, ReportedFrom ls i j dg

/-! ## Lists in the order of lines -/

/-- The diagnostics are what the lines report, each line at most once, in the order of the
    lines. -/
def Attributed (reports : Nat → Diagnostic → Prop) (dgs : List Diagnostic) : Prop :=
  ∃ js : List Nat, js.Pairwise (· < ·) ∧ List.Forall₂ reports js dgs ∧
    ∀ j, j ∈ js ↔ ∃ dg, reports j dg

section

variable {r r₁ r₂ : Nat → Diagnostic → Prop} {dg : Diagnostic} {dgs dgs₁ dgs₂ : List Diagnostic}

theorem attributed_nil (h : ∀ j dg, ¬r j dg) : Attributed r [] :=
  ⟨[], .nil, .nil, fun j => by simp [h]⟩

theorem Attributed.congr (h : Attributed r₁ dgs) (heq : ∀ j dg, r₁ j dg ↔ r₂ j dg) :
    Attributed r₂ dgs := by
  obtain rfl : r₁ = r₂ := by
    funext j dg
    exact propext (heq j dg)
  exact h

/-- What later lines report is read after what earlier ones do. -/
theorem Attributed.append (h₁ : Attributed r₁ dgs₁) (h₂ : Attributed r₂ dgs₂)
    (hlt : ∀ j j' dg dg', r₁ j dg → r₂ j' dg' → j < j') :
    Attributed (fun j dg => r₁ j dg ∨ r₂ j dg) (dgs₁ ++ dgs₂) := by
  obtain ⟨js₁, hsorted₁, hall₁, hmem₁⟩ := h₁
  obtain ⟨js₂, hsorted₂, hall₂, hmem₂⟩ := h₂
  refine ⟨js₁ ++ js₂, List.pairwise_append.2 ⟨hsorted₁, hsorted₂, ?_⟩, ?_, fun j => ?_⟩
  · intro j hj j' hj'
    obtain ⟨dg, hdg⟩ := (hmem₁ j).1 hj
    obtain ⟨dg', hdg'⟩ := (hmem₂ j').1 hj'
    exact hlt j j' dg dg' hdg hdg'
  · exact List.rel_append (hall₁.imp fun _ _ => .inl) (hall₂.imp fun _ _ => .inr)
  · rw [List.mem_append, hmem₁, hmem₂, exists_or]

/-- The lines below a line that itself reports nothing. -/
theorem Attributed.below (h : Attributed r dgs) :
    Attributed (fun j dg => ∃ k, j = k + 1 ∧ r k dg) dgs := by
  obtain ⟨js, hsorted, hall, hmem⟩ := h
  refine ⟨js.map (· + 1), ?_, ?_, fun j => ?_⟩
  · exact hsorted.map _ fun _ _ hlt => by omega
  · rw [List.forall₂_map_left_iff]
    exact hall.imp fun k dg hk => ⟨k, rfl, hk⟩
  · rw [List.mem_map]
    constructor
    · rintro ⟨k, hk, rfl⟩
      obtain ⟨dg, hdg⟩ := (hmem k).1 hk
      exact ⟨dg, k, rfl, hdg⟩
    · rintro ⟨dg, k, rfl, hdg⟩
      exact ⟨k, (hmem k).2 ⟨dg, hdg⟩, rfl⟩

/-- A single line that reports. -/
theorem attributed_singleton (i : Nat) (dg : Diagnostic) :
    Attributed (fun j dg' => j = i ∧ dg' = dg) [dg] :=
  ⟨[i], List.pairwise_singleton _ _, .cons ⟨rfl, rfl⟩ .nil, fun j => by simp⟩

end

/-! ## The block of a header -/

variable {ls : List (List Char)} {l file line column message : List Char} {i j : Nat} {d : Detail}
  {dg dg' : Diagnostic}

/-- A detail among the lines below a header, before any that ends the block. -/
def IsDetailIn (ls : List (List Char)) (j : Nat) (d : Detail) : Prop :=
  (∃ l, ls[j]? = some l ∧ IsDetail l d) ∧ ∀ k l, k < j → ls[k]? = some l → ¬EndsBlock l

theorem isDetailIn_cons_zero : IsDetailIn (l :: ls) 0 d ↔ IsDetail l d := by
  simp [IsDetailIn]

theorem isDetailIn_cons_succ :
    IsDetailIn (l :: ls) (j + 1) d ↔ ¬EndsBlock l ∧ IsDetailIn ls j d := by
  constructor
  · rintro ⟨hdetail, hbroken⟩
    exact ⟨hbroken 0 l (by omega) rfl, hdetail,
      fun k l hk hl => hbroken (k + 1) l (by omega) hl⟩
  · rintro ⟨hl, hdetail, hbroken⟩
    refine ⟨hdetail, fun k l' hk hl' => ?_⟩
    cases k with
    | zero =>
      obtain rfl : l = l' := by simpa using hl'
      exact hl
    | succ k => exact hbroken k l' (by omega) hl'

theorem IsDetail.not_endsBlock (h : IsDetail l d) : ¬EndsBlock l := by
  rintro (hblank | hpath | ⟨file, line, column, hlocation⟩)
  · simp [h.not_allBlank] at hblank
  · exact h.not_isSourcePath hpath
  · exact h.not_isLocation hlocation

theorem Detail.diagnostic?_eq_some (h : d.IsShort) :
    d.diagnostic? file = some (d.diagnostic file) := by
  have hline : natural? d.line = some (natural d.line) := if_pos h.1
  have hcolumn : natural? d.column = some (natural d.column) := if_pos h.2
  simp [Detail.diagnostic?, hline, hcolumn, Detail.diagnostic]

theorem Detail.diagnostic?_eq_none (h : ¬d.IsShort) : d.diagnostic? file = none := by
  rw [Detail.diagnostic?, natural?, natural?]
  rcases not_and_or.1 h with hline | hcolumn
  · simp [if_neg (show ¬d.line.length ≤ maxDigits from hline)]
  · simp [if_neg (show ¬d.column.length ≤ maxDigits from hcolumn)]

theorem blockDetails?_of_endsBlock (h : EndsBlock l) : blockDetails? file (l :: ls) = some [] := by
  rw [blockDetails?]
  rcases h with h | h | ⟨file', line, column, h⟩
  · rw [Line.ofText_eq_iff.2 (.blank h)]
  · rw [Line.ofText_eq_iff.2 (.header h)]
  · rw [Line.ofText_eq_iff.2 (.location h)]

theorem blockDetails?_of_isDetail (h : IsDetail l d) :
    blockDetails? file (l :: ls) =
      do return (← d.diagnostic? file) :: (← blockDetails? file ls) := by
  rw [blockDetails?, Line.ofText_eq_iff.2 (.detail h)]

theorem blockDetails?_of_other (h : ¬EndsBlock l) (hdetail : ∀ d, ¬IsDetail l d) :
    blockDetails? file (l :: ls) = blockDetails? file ls := by
  simp only [EndsBlock, not_or, not_exists, Bool.not_eq_true] at h
  rw [blockDetails?, Line.ofText_eq_iff.2 (.other h.1 h.2.1 hdetail h.2.2)]

/-- What the details among the lines below a header report. -/
def BlockReports (file : List Char) (ls : List (List Char)) (j : Nat) (dg : Diagnostic) : Prop :=
  ∃ d, IsDetailIn ls j d ∧ dg = d.diagnostic file

theorem blockReports_cons :
    BlockReports file (l :: ls) j dg ↔
      (j = 0 ∧ ∃ d, IsDetail l d ∧ dg = d.diagnostic file) ∨
        (∃ k, j = k + 1 ∧ ¬EndsBlock l ∧ BlockReports file ls k dg) := by
  constructor
  · rintro ⟨d, hd, rfl⟩
    cases j with
    | zero => exact .inl ⟨rfl, d, isDetailIn_cons_zero.1 hd, rfl⟩
    | succ j =>
      obtain ⟨hl, hd⟩ := isDetailIn_cons_succ.1 hd
      exact .inr ⟨j, rfl, hl, d, hd, rfl⟩
  · rintro (⟨rfl, d, hd, rfl⟩ | ⟨j, rfl, hl, d, hd, rfl⟩)
    · exact ⟨d, isDetailIn_cons_zero.2 hd, rfl⟩
    · exact ⟨d, isDetailIn_cons_succ.2 ⟨hl, hd⟩, rfl⟩

/-- The details below a header are read as long as all their numbers can be. -/
theorem exists_blockDetails? (file : List Char) (h : ∀ j d, IsDetailIn ls j d → d.IsShort) :
    ∃ dgs, blockDetails? file ls = some dgs ∧ Attributed (BlockReports file ls) dgs := by
  induction ls with
  | nil => exact ⟨[], rfl, attributed_nil (by simp [BlockReports, IsDetailIn])⟩
  | cons l ls ih =>
    by_cases hend : EndsBlock l
    · refine ⟨[], blockDetails?_of_endsBlock hend, attributed_nil fun j dg hdg => ?_⟩
      rcases blockReports_cons.1 hdg with ⟨-, d, hd, -⟩ | ⟨-, -, hl, -⟩
      · exact hd.not_endsBlock hend
      · exact hl hend
    obtain ⟨dgs, hdgs, hbelow⟩ := ih fun j d hd =>
      h (j + 1) d (isDetailIn_cons_succ.2 ⟨hend, hd⟩)
    by_cases hdetail : ∃ d, IsDetail l d
    · obtain ⟨d, hd⟩ := hdetail
      have hshort : d.IsShort := h 0 d (isDetailIn_cons_zero.2 hd)
      refine ⟨d.diagnostic file :: dgs, ?_, ?_⟩
      · simp [blockDetails?_of_isDetail hd, Detail.diagnostic?_eq_some hshort, hdgs]
      · refine ((attributed_singleton 0 _).append hbelow.below ?_).congr fun j dg => ?_
        · rintro _ _ _ _ ⟨rfl, -⟩ ⟨k, rfl, -⟩
          exact k.succ_pos
        · have hfirst : (∃ d', IsDetail l d' ∧ dg = d'.diagnostic file) ↔ dg = d.diagnostic file :=
            ⟨fun ⟨d', hd', hdg⟩ => hd.unique hd' ▸ hdg, fun hdg => ⟨d, hd, hdg⟩⟩
          simp only [blockReports_cons, hfirst, hend, not_false_eq_true, true_and]
    · refine ⟨dgs, by rw [blockDetails?_of_other hend (not_exists.1 hdetail), hdgs], ?_⟩
      refine hbelow.below.congr fun j dg => ?_
      have hfirst : ¬∃ d, IsDetail l d ∧ dg = d.diagnostic file :=
        fun ⟨d, hd, _⟩ => hdetail ⟨d, hd⟩
      simp only [blockReports_cons, hfirst, hend, not_false_eq_true, and_false, false_or, true_and]

/-- One detail with too long a number is enough for none to be read. -/
theorem blockDetails?_eq_none (h : IsDetailIn ls j d) (hlong : ¬d.IsShort) :
    blockDetails? file ls = none := by
  induction ls generalizing j with
  | nil => simp [IsDetailIn] at h
  | cons l ls ih =>
    cases j with
    | zero =>
      have hd := isDetailIn_cons_zero.1 h
      simp [blockDetails?_of_isDetail hd, Detail.diagnostic?_eq_none hlong]
    | succ j =>
      obtain ⟨hend, hd⟩ := isDetailIn_cons_succ.1 h
      by_cases hdetail : ∃ d, IsDetail l d
      · obtain ⟨d', hd'⟩ := hdetail
        simp [blockDetails?_of_isDetail hd', ih hd]
      · rw [blockDetails?_of_other hend (not_exists.1 hdetail), ih hd]

/-! ## Headers and locations -/

/-- The block of a header at the top is among the `lookahead` lines below it. -/
theorem isDetailOf_cons_zero :
    IsDetailOf (l :: ls) 0 j file d ↔
      l = file ∧ IsSourcePath file ∧ ∃ k, j = k + 1 ∧ IsDetailIn (ls.take lookahead) k d := by
  constructor
  · rintro ⟨hheader, hpath, hbelow, hnear, ⟨l', hl', hd⟩, hunbroken⟩
    obtain ⟨k, rfl⟩ : ∃ k, j = k + 1 := ⟨j - 1, by omega⟩
    refine ⟨by simpa using hheader, hpath, k, rfl, ⟨l', ?_, hd⟩, fun m l'' hm hl'' => ?_⟩
    · rw [List.getElem?_take, if_pos (by omega)]
      simpa using hl'
    · rw [List.getElem?_take, if_pos (by omega)] at hl''
      exact hunbroken (m + 1) l'' (by omega) (by omega) (by simpa using hl'')
  · rintro ⟨rfl, hpath, k, rfl, ⟨l', hl', hd⟩, hunbroken⟩
    rw [List.getElem?_take, Option.ite_none_right_eq_some] at hl'
    refine ⟨rfl, hpath, by omega, by omega, ⟨l', by simpa using hl'.2, hd⟩,
      fun m l'' hm hm' hl'' => ?_⟩
    obtain ⟨m, rfl⟩ : ∃ m', m = m' + 1 := ⟨m - 1, by omega⟩
    refine hunbroken m l'' (by omega) ?_
    rw [List.getElem?_take, if_pos (by omega)]
    simpa using hl''

theorem isDetailOf_cons_succ :
    IsDetailOf (l :: ls) (i + 1) j file d ↔ ∃ k, j = k + 1 ∧ IsDetailOf ls i k file d := by
  constructor
  · rintro ⟨hheader, hpath, hbelow, hnear, ⟨l', hl', hd⟩, hunbroken⟩
    obtain ⟨k, rfl⟩ : ∃ k, j = k + 1 := ⟨j - 1, by omega⟩
    exact ⟨k, rfl, by simpa using hheader, hpath, by omega, by omega, ⟨l', by simpa using hl', hd⟩,
      fun m l'' hm hm' hl'' => hunbroken (m + 1) l'' (by omega) (by omega) (by simpa using hl'')⟩
  · rintro ⟨k, rfl, hheader, hpath, hbelow, hnear, ⟨l', hl', hd⟩, hunbroken⟩
    refine ⟨by simpa using hheader, hpath, by omega, by omega, ⟨l', by simpa using hl', hd⟩,
      fun m l'' hm hm' hl'' => ?_⟩
    obtain ⟨m, rfl⟩ : ∃ m', m = m' + 1 := ⟨m - 1, by omega⟩
    exact hunbroken m l'' (by omega) (by omega) (by simpa using hl'')

theorem isTypeErrorAt_cons_succ :
    IsTypeErrorAt (l :: ls) (i + 1) file line column message ↔
      IsTypeErrorAt ls i file line column message :=
  ⟨fun ⟨h, h'⟩ => ⟨by simpa using h, by simpa using h'⟩,
    fun ⟨h, h'⟩ => ⟨by simpa using h, by simpa using h'⟩⟩

theorem reportedFrom_cons_succ :
    ReportedFrom (l :: ls) (i + 1) j dg ↔ ∃ k, j = k + 1 ∧ ReportedFrom ls i k dg := by
  constructor
  · intro h
    cases h with
    | lint hd hshort =>
      obtain ⟨k, rfl, hd'⟩ := isDetailOf_cons_succ.1 hd
      exact ⟨k, rfl, .lint hd' fun m d' h =>
        hshort (m + 1) d' (isDetailOf_cons_succ.2 ⟨m, rfl, h⟩)⟩
    | typeError h hline hcolumn =>
      exact ⟨i, rfl, .typeError (isTypeErrorAt_cons_succ.1 h) hline hcolumn⟩
  · rintro ⟨k, rfl, h⟩
    cases h with
    | lint hd hshort =>
      refine .lint (isDetailOf_cons_succ.2 ⟨k, rfl, hd⟩) fun j' d' h => ?_
      obtain ⟨m, rfl, hd'⟩ := isDetailOf_cons_succ.1 h
      exact hshort m d' hd'
    | typeError h hline hcolumn =>
      exact .typeError (isTypeErrorAt_cons_succ.2 h) hline hcolumn

theorem reports_cons :
    Reports (l :: ls) j dg ↔
      ReportedFrom (l :: ls) 0 j dg ∨ ∃ k, j = k + 1 ∧ Reports ls k dg := by
  constructor
  · rintro ⟨i, h⟩
    cases i with
    | zero => exact .inl h
    | succ i =>
      obtain ⟨k, rfl, h'⟩ := reportedFrom_cons_succ.1 h
      exact .inr ⟨k, rfl, i, h'⟩
  · rintro (h | ⟨k, rfl, i, h⟩)
    · exact ⟨0, h⟩
    · exact ⟨i + 1, reportedFrom_cons_succ.2 ⟨k, rfl, h⟩⟩

/-- A header or a location opens what a line reports. -/
theorem ReportedFrom.opener (h : ReportedFrom ls i j dg) :
    ∃ l, ls[i]? = some l ∧
      (IsSourcePath l ∨ ∃ file line column, IsLocation l file line column) := by
  cases h with
  | lint h => exact ⟨_, h.header, .inl h.path⟩
  | typeError h =>
    obtain ⟨l, hl, hlocation⟩ := h.location
    exact ⟨l, hl, .inr ⟨_, _, _, hlocation⟩⟩

theorem reportedFrom_header (h : IsSourcePath l) :
    ReportedFrom (l :: ls) 0 j dg ↔
      (∀ k d, IsDetailIn (ls.take lookahead) k d → d.IsShort) ∧
        ∃ k, j = k + 1 ∧ BlockReports l (ls.take lookahead) k dg := by
  constructor
  · intro hfrom
    cases hfrom with
    | lint hd hshort =>
      obtain ⟨rfl, -, k, rfl, hd'⟩ := isDetailOf_cons_zero.1 hd
      exact ⟨fun m d' h' => hshort (m + 1) d' (isDetailOf_cons_zero.2 ⟨rfl, h, m, rfl, h'⟩),
        k, rfl, _, hd', rfl⟩
    | typeError herror =>
      obtain ⟨l', hl', hlocation⟩ := herror.location
      obtain rfl : l = l' := by simpa using hl'
      exact absurd h hlocation.not_isSourcePath
  · rintro ⟨hshort, k, rfl, d, hd, rfl⟩
    refine .lint (isDetailOf_cons_zero.2 ⟨rfl, h, k, rfl, hd⟩) fun j' d' h' => ?_
    obtain ⟨-, -, m, rfl, hd'⟩ := isDetailOf_cons_zero.1 h'
    exact hshort m d' hd'

theorem natural?_eq_some_iff {s : List Char} {n : Nat} :
    natural? s = some n ↔ IsShort s ∧ n = natural s := by
  rw [natural?, Option.ite_none_right_eq_some, Option.some.injEq, eq_comm (a := natural s)]
  rfl

theorem typeError?_eq_some_iff :
    typeError? l = some message ↔
      ∃ r, trimStart l = "Type error:".toList ++ r ∧ message = trim r := by
  rw [typeError?, Option.map_eq_some_iff]
  simp only [word?_eq_some_iff, eq_comm (a := trim _)]

theorem typeErrorAt?_eq_some_iff :
    typeErrorAt? file line column ls = some dg ↔
      IsShort line ∧ IsShort column ∧ ∃ l message, ls.head? = some l ∧
        typeError? l = some message ∧ dg = typeDiagnostic file line column message := by
  cases ls with
  | nil => simp [typeErrorAt?]
  | cons l ls =>
    simp only [typeErrorAt?, Option.bind_eq_bind, Option.bind_eq_some_iff, natural?_eq_some_iff]
    constructor
    · rintro ⟨message, hmessage, _, ⟨hline, rfl⟩, _, ⟨hcolumn, rfl⟩, hdg⟩
      exact ⟨hline, hcolumn, l, message, rfl, hmessage, (Option.some.inj hdg).symm⟩
    · rintro ⟨hline, hcolumn, _, message, hl, hmessage, rfl⟩
      obtain rfl := Option.some.inj hl
      exact ⟨message, hmessage, _, ⟨hline, rfl⟩, _, ⟨hcolumn, rfl⟩, rfl⟩

theorem reportedFrom_location (h : IsLocation l file line column) :
    ReportedFrom (l :: ls) 0 j dg ↔ j = 0 ∧ typeErrorAt? file line column ls = some dg := by
  rw [typeErrorAt?_eq_some_iff]
  constructor
  · intro hfrom
    cases hfrom with
    | lint hd =>
      obtain ⟨rfl, hpath, -⟩ := isDetailOf_cons_zero.1 hd
      exact absurd hpath h.not_isSourcePath
    | typeError herror hline hcolumn =>
      obtain ⟨l', hl', hlocation⟩ := herror.location
      obtain rfl : l = l' := by simpa using hl'
      obtain ⟨rfl, rfl, rfl⟩ := h.unique hlocation
      obtain ⟨l', r, hl', hr, rfl⟩ := herror.message
      exact ⟨rfl, hline, hcolumn, l', _, by simpa [List.head?_eq_getElem?] using hl',
        typeError?_eq_some_iff.2 ⟨r, hr, rfl⟩, rfl⟩
  · rintro ⟨rfl, hline, hcolumn, l', message, hl', hmessage, rfl⟩
    obtain ⟨r, hr, hmessage⟩ := typeError?_eq_some_iff.1 hmessage
    exact .typeError ⟨⟨l, rfl, h⟩, l', r, by simpa [List.head?_eq_getElem?] using hl', hr, hmessage⟩
      hline hcolumn

theorem attributed_toList {o : Option Diagnostic} :
    Attributed (fun j dg => j = 0 ∧ o = some dg) o.toList := by
  cases o with
  | none => exact attributed_nil (by simp)
  | some dg => exact (attributed_singleton 0 dg).congr fun j dg' => by simp [eq_comm]

/-- What the line at the top has reported is read. -/
theorem attributed_openedBy (l : List Char) (ls : List (List Char)) :
    Attributed (ReportedFrom (l :: ls) 0) (openedBy l ls) := by
  have hnothing : ¬IsSourcePath l → (∀ file line column, ¬IsLocation l file line column) →
      Attributed (ReportedFrom (l :: ls) 0) [] := by
    refine fun hpath hlocation => attributed_nil fun j dg h => ?_
    obtain ⟨l', hl', hopen⟩ := h.opener
    obtain rfl : l = l' := by simpa using hl'
    rcases hopen with h | ⟨file, line, column, h⟩
    · exact hpath h
    · exact hlocation file line column h
  rw [openedBy]
  have hform := Line.isFormOf_ofText l
  generalize Line.ofText l = form at hform ⊢
  cases hform with
  | header h =>
    by_cases hshort : ∀ k d, IsDetailIn (ls.take lookahead) k d → d.IsShort
    · obtain ⟨dgs, hdgs, hblock⟩ := exists_blockDetails? l hshort
      simp only [hdgs, Option.getD_some]
      exact hblock.below.congr fun j dg => by
        rw [reportedFrom_header h, and_iff_right hshort]
    · have hnone : blockDetails? l (ls.take lookahead) = none := by
        simp only [not_forall] at hshort
        obtain ⟨k, d, hd, hlong⟩ := hshort
        exact blockDetails?_eq_none hd hlong
      simp only [hnone, Option.getD_none]
      exact attributed_nil fun j dg hdg => hshort ((reportedFrom_header h).1 hdg).1
  | location h => exact attributed_toList.congr fun j dg => (reportedFrom_location h).symm
  | detail h => exact hnothing h.not_isSourcePath fun _ _ _ => h.not_isLocation
  | blank h =>
    exact hnothing (fun h' => by simp [h'.not_allBlank] at h)
      fun _ _ _ h' => by simp [h'.not_allBlank] at h
  | other _ hpath _ hlocation => exact hnothing hpath hlocation

/-- A header or a location reports nothing from where another begins to. -/
theorem ReportedFrom.lt {i' j' : Nat} (h : ReportedFrom ls i j dg) (h' : ReportedFrom ls i' j' dg')
    (hi : i < i') : j < j' := by
  have hle : i' ≤ j' := by
    cases h' with
    | lint h' => exact h'.below.le
    | typeError => exact le_rfl
  obtain ⟨l, hl, hopen⟩ := h'.opener
  by_contra hj
  cases h with
  | lint h =>
    rcases (show i' < j ∨ i' = j by omega) with hlt | rfl
    · exact h.unbroken i' l hi hlt hl (.inr hopen)
    · obtain ⟨l', hl', hd⟩ := h.detail
      obtain rfl : l = l' := Option.some.inj (hl.symm.trans hl')
      exact hd.not_endsBlock (.inr hopen)
  | typeError => omega

/-- What the lines of a log report is read. -/
theorem attributed_readLines (ls : List (List Char)) : Attributed (Reports ls) (readLines ls) := by
  induction ls with
  | nil =>
    refine attributed_nil fun j dg ⟨i, h⟩ => ?_
    obtain ⟨l, hl, -⟩ := h.opener
    simp at hl
  | cons l ls ih =>
    refine ((attributed_openedBy l ls).append ih.below ?_).congr fun j dg => reports_cons.symm
    rintro j _ dg dg' h ⟨k, rfl, i, h'⟩
    exact h.lt (reportedFrom_cons_succ.2 ⟨k, rfl, h'⟩) i.succ_pos

/-! ## Which lines report -/

theorem IsDetailOf.not_isLocation (h : IsDetailOf ls i j file d) (hl : ls[j]? = some l) :
    ¬∃ file line column, IsLocation l file line column := by
  obtain ⟨l', hl', hd⟩ := h.detail
  obtain rfl : l = l' := Option.some.inj (hl.symm.trans hl')
  rintro ⟨_, _, _, hlocation⟩
  exact hd.not_isLocation hlocation

/-- A detail has one header: between the header and the detail there is no other. -/
theorem IsDetailOf.header_eq {i' : Nat} {file' : List Char} {d' : Detail}
    (h : IsDetailOf ls i j file d) (h' : IsDetailOf ls i' j file' d') : i = i' := by
  rcases lt_trichotomy i i' with hlt | heq | hlt
  · exact absurd (.inr (.inl h'.path)) (h.unbroken i' file' hlt h'.below h'.header)
  · exact heq
  · exact absurd (.inr (.inl h.path)) (h'.unbroken i file hlt h.below h.header)

/-- A detail reports unless there is too long a number below its header. -/
theorem IsDetailOf.exists_reports_iff (h : IsDetailOf ls i j file d) :
    (∃ dg, Reports ls j dg) ↔ ∀ j' d', IsDetailOf ls i j' file d' → d'.IsShort := by
  constructor
  · rintro ⟨dg, i', hfrom⟩
    cases hfrom with
    | lint h' hshort =>
      obtain rfl := h.header_eq h'
      obtain rfl := Option.some.inj (h.header.symm.trans h'.header)
      exact hshort
    | typeError h' =>
      obtain ⟨l, hl, hlocation⟩ := h'.location
      exact absurd ⟨_, _, _, hlocation⟩ (h.not_isLocation hl)
  · exact fun hshort => ⟨_, i, .lint h hshort⟩

/-- A location with a message reports unless one of its numbers is too long. -/
theorem IsTypeErrorAt.exists_reports_iff (h : IsTypeErrorAt ls i file line column message) :
    (∃ dg, Reports ls i dg) ↔ IsShort line ∧ IsShort column := by
  obtain ⟨l, hl, hlocation⟩ := h.location
  constructor
  · rintro ⟨dg, i', hfrom⟩
    cases hfrom with
    | lint h' => exact absurd ⟨_, _, _, hlocation⟩ (h'.not_isLocation hl)
    | typeError h' hline hcolumn =>
      obtain ⟨l', hl', hlocation'⟩ := h'.location
      obtain rfl : l = l' := Option.some.inj (hl.symm.trans hl')
      obtain ⟨rfl, rfl, rfl⟩ := hlocation.unique hlocation'
      exact ⟨hline, hcolumn⟩
  · exact fun ⟨hline, hcolumn⟩ => ⟨_, i, .typeError h hline hcolumn⟩

/-- The diagnostics of a log come from lines of it, each line at most once and in the order of the
    lines. A detail is left out only with all of its block, for too long a number in it, and a
    location with a message only for too long a number of its own. -/
theorem read_attributed (log : String) :
    ∃ js : List Nat, js.Pairwise (· < ·) ∧
      List.Forall₂ (Reports (cleanLines log.toList)) js (read log) ∧
      (∀ i j file d, IsDetailOf (cleanLines log.toList) i j file d →
        (j ∈ js ↔ ∀ j' d', IsDetailOf (cleanLines log.toList) i j' file d' → d'.IsShort)) ∧
      ∀ i file line column message,
        IsTypeErrorAt (cleanLines log.toList) i file line column message →
          (i ∈ js ↔ IsShort line ∧ IsShort column) := by
  obtain ⟨js, hsorted, hall, hmem⟩ := attributed_readLines (cleanLines log.toList)
  refine ⟨js, hsorted, hall, fun i j file d h => ?_, fun i file line column message h => ?_⟩
  · rw [hmem, h.exists_reports_iff]
  · rw [hmem, h.exists_reports_iff]

end Mender.BuildLog
