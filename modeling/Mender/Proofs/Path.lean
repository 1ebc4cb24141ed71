import Mathlib.Data.List.Infix
import Mender.Path

/-!
# Names and places

A path made absolute is *normal*: each of its names leads down (`IsName`), so the names
are the place that the path leads to, and its text has them for fields. A path stays normal
when characters are put behind its last name, as they are for the files that a session
puts beside another (`AbsolutePath.beside`).
-/

namespace Mender

open Text

/-- A name that leads down from a directory. -/
structure IsName (n : Name) : Prop where
  ne_nil : n ≠ []
  ne_here : n ≠ ['.']
  ne_up : n ≠ ['.', '.']
  no_slash : '/' ∉ n

/-- A name stays one when a few more characters follow. -/
theorem IsName.append {n s : Name} (h : IsName n) (hs : 2 ≤ s.length) (hslash : '/' ∉ s) :
    IsName (n ++ s) := by
  have hn : 0 < n.length := List.length_pos_iff.2 h.ne_nil
  have hlong : 2 < (n ++ s).length := by
    rw [List.length_append]
    omega
  refine ⟨?_, ?_, ?_, by simp [h.no_slash, hslash]⟩ <;> intro heq <;> rw [heq] at hlong <;>
    simp at hlong

namespace AbsolutePath

/-- Every name of the path leads down. -/
def Normal (p : AbsolutePath) : Prop := ∀ n ∈ p.names, IsName n

/-- The path `path`, seen from the root directory. -/
def ofText (path : String) : AbsolutePath := (mk false []).join path

/-- The path of a directory whose path `directory` is seen from the directory `home`. -/
def absolute (home directory : String) : AbsolutePath := (ofText home).join directory

/-! ## Where paths lead -/

/-- A step that does not lead up leads down. -/
theorem isName_of_mem_steps {path n : List Char} (h : n ∈ steps path) (hup : n ≠ ['.', '.']) :
    IsName n := by
  simp only [steps, List.mem_filter, decide_eq_true_eq] at h
  exact ⟨h.2.1, h.2.2, hup, not_mem_of_mem_fields h.1⟩

theorem isName_of_mem_walk {here names : List Name} (hhere : ∀ n ∈ here, IsName n)
    (hnames : ∀ n ∈ names, n ≠ ['.', '.'] → IsName n) : ∀ n ∈ walk here names, IsName n := by
  induction names generalizing here with
  | nil => exact hhere
  | cons name names ih =>
    refine ih (fun n hn => ?_) fun n hn => hnames n (List.mem_cons_of_mem _ hn)
    rw [step] at hn
    split at hn
    · exact hhere n (List.mem_of_mem_dropLast hn)
    · next hup =>
      rcases List.mem_append.1 hn with hn | hn
      · exact hhere n hn
      · rw [List.mem_singleton.1 hn]
        exact hnames name List.mem_cons_self hup

theorem Normal.join {base : AbsolutePath} (h : base.Normal) (path : String) :
    (base.join path).Normal := by
  rw [AbsolutePath.join]
  split
  · exact isName_of_mem_walk (fun _ h => absurd h List.not_mem_nil) fun _ => isName_of_mem_steps
  · exact isName_of_mem_walk h fun _ => isName_of_mem_steps

theorem normal_ofText (path : String) : (ofText path).Normal :=
  Normal.join (fun _ h => absurd h List.not_mem_nil) path

theorem normal_absolute (home directory : String) : (absolute home directory).Normal :=
  (normal_ofText home).join directory

/-- A path that is let through lies in the root, as far as names go. -/
theorem resolve?_eq_some {root p : AbsolutePath} {path : String}
    (h : root.resolve? path = some p) : p = root.join path ∧ root.names <+: p.names := by
  simp only [resolve?, Option.ite_none_right_eq_some, Option.some.injEq] at h
  obtain ⟨hin, rfl⟩ := h
  simp only [Bool.and_eq_true, List.isPrefixOf_iff_prefix] at hin
  exact ⟨rfl, hin.2⟩

theorem Normal.of_resolve? {root p : AbsolutePath} {path : String} (h : root.Normal)
    (hp : root.resolve? path = some p) : p.Normal := by
  rw [(resolve?_eq_some hp).1]
  exact h.join path

/-! ## Texts of paths -/

/-- The fields of a text are the names of the path behind empty ones. -/
theorem fields_text {p : AbsolutePath} (h : p.Normal) :
    ∃ empty, (∀ f ∈ empty, f = []) ∧
      fields '/' p.text.toList = empty ++ p.names := by
  have hnames : ∃ empty, (∀ f ∈ empty, f = []) ∧
      fields '/' (joined ['/'] p.names) = empty ++ p.names := by
    -- Behind the slash of the root directory stands one field more, an empty one.
    by_cases hp : p.names = []
    · exact ⟨[[]], by simp, by simp [hp, joined, fields]⟩
    · exact ⟨[], by simp, by simp [fields_joined hp fun n hn => (h n hn).no_slash]⟩
  obtain ⟨empty, hempty, hfields⟩ := hnames
  cases hd : p.doubled
  · exact ⟨[] :: empty, by simpa using hempty, by simp [text, hd, fields, hfields]⟩
  · exact ⟨[] :: [] :: empty, by simpa using hempty, by simp [text, hd, fields, hfields]⟩

theorem head?_text (p : AbsolutePath) : p.text.toList.head? = some '/' := by
  cases hd : p.doubled <;> simp [text, hd]

/-! ## Paths side by side -/

/-- The path with the given characters behind its last name. -/
def beside (p : AbsolutePath) (suffix : String) : AbsolutePath :=
  ⟨p.doubled, p.names.dropLast ++ [p.names.getLastD [] ++ suffix.toList]⟩

theorem joined_append_singleton (sep : List Char) (fs : List (List Char)) (f s : List Char) :
    joined sep (fs ++ [f ++ s]) = joined sep (fs ++ [f]) ++ s := by
  induction fs with
  | nil => rfl
  | cons g fs ih =>
    have hjoin : ∀ x, joined sep (g :: (fs ++ [x])) = g ++ sep ++ joined sep (fs ++ [x]) := by
      cases fs <;> simp [joined]
    simp only [List.cons_append, hjoin, ih, List.append_assoc]

theorem names_eq {p : AbsolutePath} (h : p.names ≠ []) :
    p.names = p.names.dropLast ++ [p.names.getLastD []] := by
  rw [List.getLastD_eq_getLast?, List.getLast?_eq_some_getLast h, Option.getD_some,
    List.dropLast_append_getLast h]

/-- Characters behind the last name stand at the end of the text. -/
theorem text_beside {p : AbsolutePath} (h : p.names ≠ []) (suffix : String) :
    (p.beside suffix).text = p.text ++ suffix := by
  apply String.toList_injective
  rw [String.toList_append, text, text, String.toList_ofList, String.toList_ofList, beside,
    joined_append_singleton, ← names_eq h, List.append_assoc]

/-- A path below the root directory does not end in a slash. -/
theorem getLast?_text {p : AbsolutePath} (h : p.Normal) (hne : p.names ≠ []) :
    p.text.toList.getLast? ≠ some '/' := by
  intro hslash
  have hname : IsName (p.names.getLastD []) := by
    refine h _ ?_
    rw [names_eq hne]
    simp
  -- The last character of the text is that of the last name.
  have hlast : p.names.getLastD [] = (p.names.getLastD []).dropLast ++
      [(p.names.getLastD []).getLast hname.ne_nil] :=
    (List.dropLast_append_getLast hname.ne_nil).symm
  rw [text, names_eq hne, hlast, joined_append_singleton, String.toList_ofList, ← List.append_assoc,
    List.getLast?_concat, Option.some.injEq] at hslash
  exact hname.no_slash (hslash ▸ List.getLast_mem hname.ne_nil)

theorem Normal.beside {p : AbsolutePath} (h : p.Normal) (hne : p.names ≠ []) {suffix : String}
    (hlong : 2 ≤ suffix.toList.length) (hslash : '/' ∉ suffix.toList) :
    (p.beside suffix).Normal := by
  intro n hn
  rcases List.mem_append.1 hn with hn | hn
  · exact h n (List.mem_of_mem_dropLast hn)
  · rw [List.mem_singleton.1 hn]
    have hlast : p.names.getLastD [] ∈ p.names := by
      rw [List.getLastD_eq_getLast?, List.getLast?_eq_some_getLast hne]
      exact List.getLast_mem hne
    exact (h _ hlast).append hlong hslash

theorem length_names_beside {p : AbsolutePath} (h : p.names ≠ []) (suffix : String) :
    (p.beside suffix).names.length = p.names.length := by
  have := List.length_pos_iff.2 h
  simp only [AbsolutePath.beside, List.length_append, List.length_dropLast, List.length_singleton]
  omega

theorem names_beside_ne_nil (p : AbsolutePath) (suffix : String) :
    (p.beside suffix).names ≠ [] := by
  simp [beside]

end AbsolutePath

end Mender
