import Mathlib.Data.List.Infix
import Mender.Proofs.Path
import Mender.Proofs.Text.Lines

/-!
# Paths as texts

A path can be confined to a directory without being taken apart for good, by rewriting
texts: the path is put behind the directory (`PathText.join`), the text is normalised
(`PathText.normal`), and what it has in common with the directory, found from the least
and the greatest of the two lists of names (`PathText.common?`), is compared with the
text of the directory (`PathText.confine?`). `AbsolutePath.resolve?` gives the same texts
(`text_resolve?`).

Either way, a path is let through if the names that one comes by when one climbs up and
down along it (`PathText.destination`) begin with those of the directory, and then they
are its names (`resolve?_exact`). The one exception is a directory behind exactly two
slashes. What two texts have in common is written behind a single slash, so it is never
the text of such a directory.
-/

namespace Mender

open Text AbsolutePath

namespace PathText

/-! ## Rewriting -/

/-- The path `path`, seen from `base`. A slash goes between them unless one is there. -/
def join (base path : List Char) : List Char :=
  if path.head? = some '/' then path
  else if base = [] ∨ base.getLast? = some '/' then base ++ path
  else base ++ '/' :: path

/-- The slashes in front of a path, as far as they are kept. -/
def front (path : List Char) : List Char :=
  if path.head? = some '/' then if startsDoubled path then ['/', '/'] else ['/'] else []

/-- One more name of a path, behind those that are kept already. A name that leads up
    takes the one before it away, if that does not lead up itself; if there is none, it
    is kept in a path from nowhere, and leads nowhere from the root directory. -/
def keep (rooted : Bool) (kept : List Name) (name : Name) : List Name :=
  if name = [] ∨ name = ['.'] then kept
  else if name ≠ ['.', '.'] ∨ (rooted = false ∧ kept = []) ∨ kept.getLast? = some ['.', '.'] then
    kept ++ [name]
  else kept.dropLast

/-- The path without the names that lead nowhere or back. -/
def normal (path : List Char) : List Char :=
  let slashes := front path
  let names := (fields '/' (path.drop slashes.length)).foldl (keep (slashes ≠ [])) []
  let text := slashes ++ joined ['/'] names
  if text = [] then ['.'] else text

/-- The names that `low` shares with `high` from the first on. The end of `high` is not
    reached before that of `low`, as `high` would be the lesser one then. -/
def shared : (low high : List Name) → ¬ high < low → List Name
  | [], _, _ => []
  | a :: _, [], h => absurd (List.nil_lt_cons a _) h
  | a :: low, b :: high, h =>
    if hab : a = b then
      a :: shared low high fun hlt => h (List.cons_lt_cons_iff.2 (.inr ⟨hab.symm, hlt⟩))
    else []

/-- The greater one of two is not less than the lesser one. -/
theorem not_greatest_lt_least (a b : List Name) :
    ¬ (if a < b then b else a) < if b < a then b else a := by
  split <;> split
  · exact List.lt_irrefl b
  · next hba => exact hba
  · next hab _ => exact hab
  · exact List.lt_irrefl a

/-- The names that two lists share, found from the least and the greatest of them. -/
def inCommon (a b : List Name) : List Name :=
  shared (if b < a then b else a) (if a < b then b else a) (not_greatest_lt_least a b)

/-- What two paths have in common, unless one is a path from the root directory and the
    other is not. -/
def common? (p q : List Char) : Option (List Char) :=
  if p.head? = some '/' ↔ q.head? = some '/' then
    some ((if p.head? = some '/' then ['/'] else []) ++ joined ['/'] (inCommon (steps p) (steps q)))
  else none

/-- The path `path`, seen from the directory `root`, if what it has in common with the
    directory is the directory. -/
def confine? (root path : List Char) : Option (List Char) :=
  let p := normal (join root path)
  if common? p root = some root then some p else none

/-! ## Climbing -/

/-- Where one comes when one goes along names, from a place whose names are given from
    the last one back. -/
def climb (here : List Name) : List Name → List Name
  | [] => here
  | name :: names =>
    if name = [] ∨ name = ['.'] then climb here names
    else if name = ['.', '.'] then climb here.tail names
    else climb (name :: here) names

/-- The place that a path leads to, from the place of a directory or, if it begins with a
    slash, from the root directory. -/
def destination (directory : List Name) (path : List Char) : List Name :=
  (climb (if path.head? = some '/' then [] else directory.reverse) (fields '/' path)).reverse

/-- The first name is one of those that lead anywhere, or it is not. -/
theorem filter_leads_cons (name : Name) (names : List Name) :
    (name :: names).filter (fun n => n ≠ [] ∧ n ≠ ['.']) =
      if name = [] ∨ name = ['.'] then names.filter fun n => n ≠ [] ∧ n ≠ ['.']
      else name :: names.filter fun n => n ≠ [] ∧ n ≠ ['.'] := by
  by_cases hstays : name = [] ∨ name = ['.']
  · rw [if_pos hstays, List.filter_cons_of_neg]
    rcases hstays with rfl | rfl <;> simp
  · rw [if_neg hstays, List.filter_cons_of_pos]
    simpa using not_or.1 hstays

/-- One climbs to the same place as one walks to. -/
theorem climb_eq_walk (here names : List Name) :
    climb here names =
      (walk here.reverse (names.filter fun n => n ≠ [] ∧ n ≠ ['.'])).reverse := by
  induction names generalizing here with
  | nil => simp [climb, walk]
  | cons name names ih =>
    rw [climb, filter_leads_cons]
    split
    · exact ih here
    · rw [walk, List.foldl_cons, step]
      split
      · rw [ih, walk, List.dropLast_reverse]
      · rw [ih, walk, List.reverse_cons]

theorem destination_eq (base : AbsolutePath) (path : String) :
    destination base.names path.toList = (base.join path).names := by
  rw [destination, climb_eq_walk, List.reverse_reverse, AbsolutePath.join]
  split <;> simp [steps]

end PathText

namespace AbsolutePath

open PathText

/-! ## Names of texts -/

/-- The steps of a path whose names all lead down are its names. -/
theorem steps_text {p : AbsolutePath} (h : p.Normal) : steps p.text.toList = p.names := by
  obtain ⟨empty, hempty, hfields⟩ := fields_text h
  have hnone : empty.filter (fun n => n ≠ [] ∧ n ≠ ['.']) = [] :=
    List.filter_eq_nil_iff.2 fun f hf => by simp [hempty f hf]
  have hall : p.names.filter (fun n => n ≠ [] ∧ n ≠ ['.']) = p.names :=
    List.filter_eq_self.2 fun n hn => by simp [(h n hn).ne_nil, (h n hn).ne_here]
  rw [steps, hfields, List.filter_append, hnone, hall, List.nil_append]

/-- No slash stands in front of names that lead down. -/
theorem head?_joined {p : AbsolutePath} (h : p.Normal) {s : List Char}
    (hs : p.names = [] → s.head? ≠ some '/') : (joined ['/'] p.names ++ s).head? ≠ some '/' := by
  cases hnames : p.names with
  | nil => simpa [joined] using hs hnames
  | cons n names =>
    have hn : IsName n := h n (by simp [hnames])
    obtain ⟨c, n, rfl⟩ := List.exists_cons_of_ne_nil hn.ne_nil
    have hc : c ≠ '/' := fun heq => hn.no_slash (by simp [heq])
    cases names <;> simpa [joined] using hc

theorem startsDoubled_cons {s : List Char} (h : s.head? ≠ some '/') :
    startsDoubled ('/' :: s) = false := by
  rw [startsDoubled] <;> rintro _ heq <;> simp [(List.cons.inj heq).2] at h

theorem startsDoubled_cons_cons {s : List Char} (h : s.head? ≠ some '/') :
    startsDoubled ('/' :: '/' :: s) = true := by
  rw [startsDoubled]
  rintro _ rfl
  simp at h

/-- The text of a path starts with two slashes if the path does, also if it goes on. -/
theorem startsDoubled_text_append {p : AbsolutePath} (h : p.Normal) {s : List Char}
    (hs : p.names = [] → s.head? ≠ some '/') :
    startsDoubled (p.text.toList ++ s) = p.doubled := by
  have hhead := head?_joined h hs
  cases hd : p.doubled with
  | false => simpa [text, hd] using startsDoubled_cons hhead
  | true => simpa [text, hd] using startsDoubled_cons_cons hhead

theorem startsDoubled_text {p : AbsolutePath} (h : p.Normal) :
    startsDoubled p.text.toList = p.doubled := by
  simpa using startsDoubled_text_append h (s := []) (by simp)

/-- Paths of the same text are the same. -/
theorem text_injective {p q : AbsolutePath} (hp : p.Normal) (hq : q.Normal)
    (h : p.text = q.text) : p = q := by
  have hdoubled : p.doubled = q.doubled := by
    rw [← startsDoubled_text hp, h, startsDoubled_text hq]
  have hnames : p.names = q.names := by rw [← steps_text hp, h, steps_text hq]
  cases p
  cases q
  simp_all

end AbsolutePath

namespace PathText

/-! ## Rewriting texts of paths -/

/-- In a path from the root directory, names are kept as one walks along them. -/
theorem foldl_keep {here : List Name} (h : ['.', '.'] ∉ here) (names : List Name) :
    names.foldl (keep true) here = walk here (names.filter fun n => n ≠ [] ∧ n ≠ ['.']) := by
  induction names generalizing here with
  | nil => rfl
  | cons name names ih =>
    rw [List.foldl_cons, keep, filter_leads_cons]
    split
    · exact ih h
    · rw [walk, List.foldl_cons, step]
      by_cases hup : name = ['.', '.']
      · have hlast : here.getLast? ≠ some ['.', '.'] := fun hl => h (List.mem_of_getLast? hl)
        rw [if_neg (by simp [hup, hlast]), if_pos hup]
        exact ih fun hmem => h (List.mem_of_mem_dropLast hmem)
      · rw [if_pos (.inl hup), if_neg hup]
        exact ih (by simp [h, Ne.symm hup])

/-- The slashes in front of a path are no names. -/
theorem steps_drop_front (path : List Char) :
    steps (path.drop (front path).length) = steps path := by
  rw [front]
  split
  · next hslash =>
    obtain ⟨s, rfl⟩ : ∃ s, path = '/' :: s := by
      cases path with
      | nil => simp at hslash
      | cons c s => exact ⟨s, by simpa using hslash⟩
    split
    · next hdoubled =>
      obtain ⟨t, rfl⟩ : ∃ t, s = '/' :: t := by
        unfold startsDoubled at hdoubled
        split at hdoubled
        · simp at hdoubled
        · next heq => exact ⟨_, (List.cons.inj heq).2⟩
        · simp at hdoubled
      simp [steps, fields]
    · simp [steps, fields]
  · rfl

/-- A path from the root directory is normalised to the text of the place that it
    leads to. -/
theorem normal_eq {path : String} (h : path.toList.head? = some '/') :
    normal path.toList = (ofText path).text.toList := by
  have hrooted : decide (front path.toList ≠ []) = true := by
    rw [front, if_pos h]
    split <;> rfl
  have hnames := foldl_keep (List.not_mem_nil (a := ['.', '.']))
    (fields '/' (path.toList.drop (front path.toList).length))
  rw [← steps, steps_drop_front] at hnames
  have hne : front path.toList ++ joined ['/'] (walk [] (steps path.toList)) ≠ [] :=
    List.append_ne_nil_of_left_ne_nil (by simpa using hrooted) _
  rw [normal, hrooted, hnames, if_neg hne, ofText, AbsolutePath.join, if_pos h, text,
    String.toList_ofList, front, if_pos h]

theorem walk_append (here names names' : List Name) :
    walk here (names ++ names') = walk (walk here names) names' := List.foldl_append

/-- Names that lead down are kept one behind the other. -/
theorem walk_eq_append {names : List Name} (h : ['.', '.'] ∉ names) (here : List Name) :
    walk here names = here ++ names := by
  induction names generalizing here with
  | nil => simp [walk]
  | cons name names ih =>
    rw [List.mem_cons, not_or] at h
    rw [walk, List.foldl_cons, step, if_neg (Ne.symm h.1), ← walk, ih h.2, List.append_assoc]
    rfl

theorem steps_append (s t : List Char) : steps (s ++ '/' :: t) = steps s ++ steps t := by
  rw [steps, fields_append_fields, List.filter_append, ← steps, ← steps]

/-- What stands behind the text of a directory, and that it leads on from there. -/
theorem join_text {base : AbsolutePath} (h : base.Normal) {path : List Char}
    (hslash : path.head? ≠ some '/') :
    ∃ s, join base.text.toList path = base.text.toList ++ s ∧
      (base.names = [] → s.head? ≠ some '/') ∧
      steps (base.text.toList ++ s) = base.names ++ steps path := by
  rw [join, if_neg hslash]
  by_cases hnames : base.names = []
  · -- The text of a root directory has a slash at its end.
    obtain ⟨slashes, htext, hsteps⟩ : ∃ s, base.text.toList = s ++ ['/'] ∧ steps s = [] := by
      cases hd : base.doubled
      · exact ⟨[], by simp [text, hd, hnames, joined], by simp [steps, fields]⟩
      · exact ⟨['/'], by simp [text, hd, hnames, joined], by simp [steps, fields]⟩
    refine ⟨path, if_pos (.inr (by simp [htext])), fun _ => hslash, ?_⟩
    rw [htext, List.append_assoc, List.singleton_append, steps_append, hsteps, hnames]
  · have hne : base.text.toList ≠ [] := fun hnil => by simpa [hnil] using head?_text base
    exact ⟨'/' :: path, if_neg (not_or.2 ⟨hne, getLast?_text h hnames⟩),
      fun hnil => absurd hnil hnames, by rw [steps_append, steps_text h]⟩

/-- A path behind the text of a directory leads from there. -/
theorem ofText_join {base : AbsolutePath} (h : base.Normal) (path : String) :
    ofText (String.ofList (join base.text.toList path.toList)) = base.join path := by
  rw [ofText, AbsolutePath.join, AbsolutePath.join, String.toList_ofList]
  by_cases hslash : path.toList.head? = some '/'
  · have hjoin : join base.text.toList path.toList = path.toList := if_pos hslash
    simp only [hjoin, hslash, if_true]
  · obtain ⟨s, hjoin, hhead, hsteps⟩ := join_text h hslash
    have hup : ['.', '.'] ∉ base.names := fun hmem => (h _ hmem).ne_up rfl
    have hrooted : (base.text.toList ++ s).head? = some '/' := by
      rw [List.head?_append, head?_text]
      rfl
    rw [hjoin, if_pos hrooted, if_neg hslash, hsteps, startsDoubled_text_append h hhead,
      walk_append, walk_eq_append hup, List.nil_append]

/-- The text of a path seen from a directory. -/
theorem normal_join {base : AbsolutePath} (h : base.Normal) (path : String) :
    normal (join base.text.toList path.toList) = (base.join path).text.toList := by
  have hrooted : (join base.text.toList path.toList).head? = some '/' := by
    by_cases hslash : path.toList.head? = some '/'
    · rwa [join, if_pos hslash]
    · obtain ⟨s, hjoin, -⟩ := join_text h hslash
      rw [hjoin, List.head?_append, head?_text]
      rfl
  have hnormal := @normal_eq (String.ofList (join base.text.toList path.toList))
    (by rwa [String.toList_ofList])
  rwa [ofText_join h, String.toList_ofList] at hnormal

theorem startsDoubled_join {base : AbsolutePath} (h : base.Normal) (path : String) :
    startsDoubled (join base.text.toList path.toList) = (base.join path).doubled := by
  rw [AbsolutePath.join]
  by_cases hslash : path.toList.head? = some '/'
  · rw [join, if_pos hslash, if_pos hslash]
  · obtain ⟨s, hjoin, hhead, -⟩ := join_text h hslash
    rw [hjoin, if_neg hslash, startsDoubled_text_append h hhead]

/-- A path that is absolute already is the same from everywhere. -/
theorem join_of_text {p : AbsolutePath} (h : p.Normal) (base : AbsolutePath) :
    base.join p.text = p := by
  have hup : ['.', '.'] ∉ p.names := fun hmem => (h _ hmem).ne_up rfl
  rw [AbsolutePath.join, if_pos (head?_text p), steps_text h, startsDoubled_text h,
    walk_eq_append hup, List.nil_append]

/-! ## Names in common -/

/-- The names shared are the longest beginning of both lists. -/
theorem prefix_shared_iff {low high : List Name} (h : ¬ high < low) (names : List Name) :
    names <+: shared low high h ↔ names <+: low ∧ names <+: high := by
  induction low generalizing high names with
  | nil =>
    rw [shared, List.prefix_nil]
    exact ⟨fun hnil => by simp [hnil], And.left⟩
  | cons a low ih =>
    cases high with
    | nil => exact absurd (List.nil_lt_cons a low) h
    | cons b high =>
      cases names with
      | nil => simp
      | cons n names =>
        rw [shared]
        split
        · next hab =>
          rw [List.cons_prefix_cons, List.cons_prefix_cons, List.cons_prefix_cons, ih, ← hab]
          constructor
          · rintro ⟨hn, hlow, hhigh⟩
            exact ⟨⟨hn, hlow⟩, hn, hhigh⟩
          · rintro ⟨⟨hn, hlow⟩, -, hhigh⟩
            exact ⟨hn, hlow, hhigh⟩
        · next hab =>
          rw [List.cons_prefix_cons, List.cons_prefix_cons]
          constructor
          · exact fun hpre => absurd (List.prefix_nil.1 hpre) (List.cons_ne_nil n names)
          · rintro ⟨⟨rfl, -⟩, rfl, -⟩
            exact absurd rfl hab

/-- Whichever list is the lesser one, what they have in common begins both. -/
theorem prefix_inCommon_iff {a b names : List Name} :
    names <+: inCommon a b ↔ names <+: a ∧ names <+: b := by
  rw [inCommon, prefix_shared_iff]
  by_cases hab : a < b
  · rw [if_neg (List.lt_asymm hab), if_pos hab]
  · by_cases hba : b < a
    · rw [if_pos hba, if_neg hab, and_comm]
    · obtain rfl : a = b := Std.Trichotomous.trichotomous a b hab hba
      simp

theorem inCommon_eq_iff {a b : List Name} : inCommon a b = b ↔ b <+: a := by
  constructor
  · intro heq
    have hb : b <+: inCommon a b := by rw [heq]
    exact (prefix_inCommon_iff.1 hb).1
  · intro hpre
    have hb : b <+: inCommon a b := prefix_inCommon_iff.2 ⟨hpre, List.prefix_rfl⟩
    have hcommon : inCommon a b <+: b := (prefix_inCommon_iff.1 List.prefix_rfl).2
    exact hcommon.eq_of_length_le hb.length_le

/-- A path has the text of a directory in common with it if its names begin with those of
    the directory. As this text is written behind a single slash, the directory is not
    behind two. -/
theorem common?_text {p root : AbsolutePath} (hp : p.Normal) (hroot : root.Normal) :
    common? p.text.toList root.text.toList = some root.text.toList ↔
      root.doubled = false ∧ root.names <+: p.names := by
  have hcommon : common? p.text.toList root.text.toList =
      some (AbsolutePath.mk false (inCommon p.names root.names)).text.toList := by
    rw [common?, head?_text, head?_text, steps_text hp, steps_text hroot]
    simp [text]
  have hnormal : (AbsolutePath.mk false (inCommon p.names root.names)).Normal := fun n hn =>
    hp n ((prefix_inCommon_iff.1 List.prefix_rfl).1.subset hn)
  rw [hcommon, Option.some.injEq, ← inCommon_eq_iff]
  constructor
  · intro htext
    have heq := text_injective hnormal hroot (String.toList_injective htext)
    exact ⟨congrArg doubled heq.symm, congrArg names heq⟩
  · rintro ⟨hdoubled, hnames⟩
    rw [hnames, ← hdoubled]

/-- The texts of the paths that are let through. -/
theorem text_resolve? {root : AbsolutePath} (h : root.Normal) (path : String) :
    (root.resolve? path).map (fun p => p.text.toList) = confine? root.text.toList path.toList := by
  have hin : (!root.doubled && root.names.isPrefixOf (root.join path).names) = true ↔
      root.doubled = false ∧ root.names <+: (root.join path).names := by simp
  rw [confine?, normal_join h, resolve?]
  simp only [common?_text (h.join path) h, hin]
  split <;> rfl

/-- The place that a path leads to is let through exactly if its names begin with those
    of the directory, unless the directory is behind two slashes. The path let through has
    the names of the place, and the text that rewriting texts gives. -/
theorem resolve?_exact (home directory path : String) :
    let root := absolute home directory
    let spelled := join (normal (join ['/'] home.toList)) directory.toList
    let place := destination (steps root.text.toList) path.toList
    root.text.toList = normal spelled ∧
    ((root.resolve? path).isSome ↔
      startsDoubled spelled = false ∧ steps root.text.toList <+: place) ∧
    (∀ p ∈ root.resolve? path, steps p.text.toList = place) ∧
    (root.resolve? path).map (fun p => p.text.toList) =
      confine? root.text.toList path.toList := by
  have hhome : normal (join ['/'] home.toList) = (ofText home).text.toList :=
    @normal_join ⟨false, []⟩ (fun _ h => absurd h List.not_mem_nil) home
  have hroot : (absolute home directory).Normal := normal_absolute home directory
  dsimp only
  rw [hhome, normal_join (normal_ofText home), startsDoubled_join (normal_ofText home), ← absolute,
    steps_text hroot, destination_eq]
  refine ⟨rfl, ?_, fun p hp => ?_, text_resolve? hroot path⟩
  · simp [resolve?]
  · rw [steps_text (hroot.of_resolve? hp), (resolve?_eq_some hp).1]

/-- A directory behind two slashes holds no path, not even that of a file in it. -/
theorem resolve?_doubled_refused :
    let root := absolute "/" "//proj"
    steps root.text.toList <+: destination (steps root.text.toList) "a.ts".toList ∧
      root.resolve? "a.ts" = none := by
  decide +kernel

/-- A path may lead out of the directory and back into it, also above the root directory. -/
example : (absolute "/" "/proj").resolve? "../../../proj/./src//a.ts" =
    some ⟨false, ["proj".toList, "src".toList, "a.ts".toList]⟩ := by
  decide +kernel

end PathText

end Mender
