import Mender.Proofs.Repair.Bystanders

/-!
# The copies of many replacements

Replacements follow one another, of any files, in any processes, at times that may repeat or go
back, and with any steps that fail (`Call`, `after`). Each one that works leaves a copy (`copies`).
A copy is there for good: every later replacement leaves a file in its place (`IsCopy.run`), and
leaves it as it was unless it is a replacement of the copy itself (`IsCopy.get?_run_of_ne`). So no
copy ever gets the name of an earlier one.

The reason is in the names. A new copy goes where nothing is, and no temporary file has the name
of a copy, whatever paths the two are made from (`IsCopy.find_temporary_ne`).

* `copies_fresh`: the name of a copy is found after finitely many tries, and stays that of this
  one copy.
-/

namespace Mender.Repair.Replacement

open FileTree

variable {r : Replacement} {process : Nat} {faults : Faults} {time : Int} {t : FileTree}
  {l : Location} {content : Text.Bytes} {mode : Nat}
  {p : Except ReplaceFailure (Option Record) × FileTree}

/-- Where a file is to be replaced, there is a file afterwards. -/
theorem Course.lookup_live (h : Course r process faults time t p)
    (hlive : t.lookup r.path = .ok (l, .file content mode)) :
    ∃ content mode, p.2.lookup r.path = .ok (l, .file content mode) := by
  cases h with
  | unneeded | nullByte => exact ⟨content, mode, hlive⟩
  | unsaved hbackup => exact ⟨content, mode, lookup_of_backUp hbackup hlive⟩
  | torn hbackup hopen =>
    have hchanges := changesOnly_opened (changesOnly_of_backUp hbackup)
      (changesOnly_of_openTemporary hopen)
    exact ⟨content, mode, (hchanges.lookup_eq fun _ => isNeighbour_of_mem).trans hlive⟩
  | @discarded e s u hbackup hopened =>
    have hkept : Kept r process faults time .overwrite t (r.discard process faults u) :=
      kept_discard (changesOnly_of_backUp hbackup) hopened
    exact ⟨content, mode, hkept.live.trans hlive⟩
  | @done new s u hbackup hover =>
    -- The file that the new content replaced is the one that was there before the copy.
    obtain ⟨l', old, mode', hfound, hreplaced, -⟩ := of_overwrite hover
    have hcopied : s.lookup r.path = .ok (l, .file content mode) := lookup_of_backUp hbackup hlive
    obtain ⟨rfl, -, -⟩ : l = l' ∧ content = old ∧ mode = mode' := by simpa [hcopied] using hfound
    exact ⟨new, _, hreplaced⟩

/-! ## Calls -/

/-- A replacement that is asked for. -/
structure Call where
  replacement : Replacement
  /-- The number of the process that asks. -/
  process : Nat
  /-- The steps that fail for a reason outside the tree. -/
  faults : Faults
  /-- What the clock says. -/
  time : Int

namespace Call

/-- What a call comes to. -/
def run (c : Call) (t : FileTree) : Except ReplaceFailure (Option Record) × FileTree :=
  c.replacement.apply c.process c.faults c.time t

/-- The name of the copy that the call leaves, if it works. -/
def copy? (c : Call) (t : FileTree) : Option String :=
  match (c.run t).1 with
  | .ok (some record) => some record.backupPath
  | _ => none

/-- A call takes one of the courses of a replacement. -/
theorem course_run (c : Call) (t : FileTree) :
    Course c.replacement c.process c.faults c.time t (c.run t) :=
  course_apply c.replacement c.process c.faults c.time t

/-- All paths lead to the same places before and after a call. -/
theorem find_run (c : Call) (t : FileTree) (path : String) :
    (c.run t).2.find path = .ok l ↔ t.find path = .ok l :=
  (c.course_run t).changesOnly.find_eq_ok

end Call

/-- The tree after some calls. -/
def after : List Call → FileTree → FileTree
  | [], t => t
  | c :: cs, t => after cs (c.run t).2

/-- The names of the copies that the calls leave, in order. -/
def copies : List Call → FileTree → List String
  | [], _ => []
  | c :: cs, t => (c.copy? t).toList ++ copies cs (c.run t).2

theorem after_append (cs later : List Call) (t : FileTree) :
    after (cs ++ later) t = after later (after cs t) := by
  induction cs generalizing t with
  | nil => rfl
  | cons c cs ih => exact ih (c.run t).2

/-- Calls move no path to another place. -/
theorem find_after (cs : List Call) (t : FileTree) (path : String) :
    (after cs t).find path = .ok l ↔ t.find path = .ok l := by
  induction cs generalizing t with
  | nil => rfl
  | cons c cs ih => rw [after, ih, Call.find_run]

/-! ## Places of copies -/

/-- The file at this place has the name of a copy. -/
structure IsCopy (t : FileTree) (l : Location) : Prop where
  named : ∃ m name time n, l = m ++ [name ++ (backupSuffix time n).toList]
  file : ∃ content mode, t.get? l = some (.file content mode)

namespace IsCopy

/-- A copy that is made later goes elsewhere. -/
theorem find_freshBackupName_ne (h : IsCopy t l) (path : String) (time : Int) :
    t.find (freshBackupName t path time) ≠ .ok l := by
  obtain ⟨content, mode, hget⟩ := h.file
  exact Replacement.find_freshBackupName_ne hget

/-- A temporary file goes elsewhere, whatever the number of the process is. -/
theorem find_temporary_ne (h : IsCopy t l) (path : String) (process : Nat) :
    t.find (path ++ temporarySuffix process) ≠ .ok l := by
  obtain ⟨m, name, time, n, rfl⟩ := h.named
  intro hf
  obtain ⟨m', -, -, heq⟩ := find_append (isSuffix_temporary process) hf
  rw [List.append_singleton_inj] at heq
  exact backup_ne_temporary _ _ time n process heq.2

/-- A call leaves a copy alone that it is not about. -/
theorem get?_run_of_ne (h : IsCopy t l) {c : Call} (hne : t.find c.replacement.path ≠ .ok l) :
    (c.run t).2.get? l = t.get? l := by
  refine (c.course_run t).changesOnly.get?_eq fun q hq => ?_
  simp only [List.mem_cons, List.not_mem_nil, or_false] at hq
  rcases hq with rfl | rfl | rfl
  · exact h.find_freshBackupName_ne _ _
  · rw [temporaryName_eq]
    exact h.find_temporary_ne _ c.process
  · exact hne

/-- A call leaves a copy in its place, even if it is about this copy. -/
theorem run (h : IsCopy t l) (c : Call) : IsCopy (c.run t).2 l := by
  refine ⟨h.named, ?_⟩
  obtain ⟨content, mode, hget⟩ := h.file
  by_cases hf : t.find c.replacement.path = .ok l
  · obtain ⟨content, mode, hlive⟩ := (c.course_run t).lookup_live (lookup_eq_ok.2 ⟨hf, hget⟩)
    exact ⟨content, mode, (lookup_eq_ok.1 hlive).2⟩
  · exact ⟨content, mode, (h.get?_run_of_ne hf).trans hget⟩

/-- A copy stays one, whatever calls there are. -/
theorem after (h : IsCopy t l) (cs : List Call) : IsCopy (after cs t) l := by
  induction cs generalizing t with
  | nil => exact h
  | cons c cs ih => exact ih (h.run c)

/-- A copy stays as it is as long as no call is for a path to it. -/
theorem get?_after_of_ne (h : IsCopy t l) {cs : List Call}
    (hne : ∀ c ∈ cs, t.find c.replacement.path ≠ .ok l) :
    (Replacement.after cs t).get? l = t.get? l := by
  induction cs generalizing t with
  | nil => rfl
  | cons c cs ih =>
    have hrun := h.get?_run_of_ne (hne c List.mem_cons_self)
    refine (ih (h.run c) fun c' hc' hf => ?_).trans hrun
    exact hne c' (List.mem_cons_of_mem c hc') ((c.find_run t _).1 hf)

end IsCopy

/-! ## The copies that calls leave -/

/-- A call that works leaves its copy where the first free name leads. -/
theorem Call.of_copy? {c : Call} {copy : String} (h : c.copy? t = some copy) :
    copy = freshBackupName t c.replacement.path c.time ∧
      ∃ l, t.find copy = .ok l ∧ IsCopy (c.run t).2 l := by
  have hcourse := c.course_run t
  rw [copy?] at h
  generalize c.run t = p at h hcourse
  -- Only a replacement that works has a record.
  cases hcourse with
  | unneeded | nullByte | unsaved | torn | discarded => simp at h
  | @done new s u hbackup hover =>
    obtain rfl : freshBackupName t c.replacement.path c.time = copy := by
      simpa [record] using h
    obtain ⟨l, mode, hcopy⟩ := lookup_copy_of_overwrite hbackup hover
    obtain ⟨hf, hget⟩ := lookup_eq_ok.1 hcopy
    have hfind := (Course.done hbackup hover).changesOnly.find_eq_ok.1 hf
    refine ⟨rfl, l, hfind, ?_, bytes c.replacement.old, mode, hget⟩
    obtain ⟨n, hname, -⟩ := freshBackupName_eq t c.replacement.path c.time
    rw [hname] at hfind
    obtain ⟨m, -, -, hplace⟩ := find_append (isSuffix_backup c.time n) hfind
    exact ⟨m, lastName c.replacement.path, c.time, n, hplace⟩

/-- Each of the copies is in its place after all of the calls. -/
theorem isCopy_of_mem_copies {cs : List Call} {copy : String} (h : copy ∈ copies cs t) :
    ∃ l, t.find copy = .ok l ∧ IsCopy (after cs t) l := by
  induction cs generalizing t with
  | nil => simp [copies] at h
  | cons c cs ih =>
    rw [copies, List.mem_append, Option.mem_toList] at h
    rcases h with h | h
    · obtain ⟨-, l, hfind, hcopy⟩ := Call.of_copy? h
      exact ⟨l, hfind, hcopy.after cs⟩
    · obtain ⟨l, hfind, hcopy⟩ := ih h
      exact ⟨l, (c.find_run t copy).1 hfind, hcopy⟩

/-- Where a copy is already, none of the copies goes. -/
theorem IsCopy.find_ne_of_mem_copies (h : IsCopy t l) {cs : List Call} {copy : String}
    (hmem : copy ∈ copies cs t) : t.find copy ≠ .ok l := by
  induction cs generalizing t with
  | nil => simp [copies] at hmem
  | cons c cs ih =>
    rw [copies, List.mem_append, Option.mem_toList] at hmem
    rcases hmem with hmem | hmem
    · rw [(Call.of_copy? hmem).1]
      exact h.find_freshBackupName_ne _ _
    · exact fun hfind => ih (h.run c) hmem ((c.find_run t copy).2 hfind)

/-- The copies are in different places, in any tree where paths lead to the same places. -/
theorem nodup_map_find_copies {s : FileTree} (cs : List Call)
    (hs : ∀ path l, s.find path = .ok l ↔ t.find path = .ok l) :
    ((copies cs t).map s.find).Nodup := by
  induction cs generalizing t with
  | nil => exact List.nodup_nil
  | cons c cs ih =>
    have hrun : ∀ path l, s.find path = .ok l ↔ (c.run t).2.find path = .ok l :=
      fun path l => (hs path l).trans (c.find_run t path).symm
    rw [copies]
    cases hcopy? : c.copy? t with
    | none => exact ih hrun
    | some copy =>
      -- The copy stands in its place before any of the later ones is made.
      refine List.nodup_cons.2 ⟨fun hmem => ?_, ih hrun⟩
      obtain ⟨later, hlater, heq⟩ := List.mem_map.1 hmem
      obtain ⟨-, l, hfind, hcopy⟩ := Call.of_copy? hcopy?
      rw [(hs copy l).2 hfind] at heq
      exact hcopy.find_ne_of_mem_copies hlater ((hrun later l).1 heq)

/-- The search for the name of a copy ends, with the first of the names that nothing has yet.
    Whatever replacements follow one another, the copies of those that work are in different
    places, so that they have different names. Each copy stays the file that it is as long as no
    later replacement is one of this very file: neither another copy nor a temporary file gets
    into its place, whatever the number of the process is. -/
theorem copies_fresh (t : FileTree) (cs : List Call) :
    (∀ path time, ∃ n ≤ t.entries.length,
      IsFirstFree t path time n ∧ freshBackupName t path time = path ++ backupSuffix time n ∧
        ∀ tries > t.entries.length,
          firstFree t (backupName path time) 0 tries = freshBackupName t path time) ∧
    ((copies cs t).map (after cs t).find).Nodup ∧
    ∀ copy ∈ copies cs t, ∃ l content mode,
      (after cs t).lookup copy = .ok (l, .file content mode) ∧
      (∀ later : List Call, (∀ c ∈ later, (after cs t).find c.replacement.path ≠ .ok l) →
        (after (cs ++ later) t).lookup copy = .ok (l, .file content mode)) ∧
      ∀ path,
        (∀ time, (after cs t).find (freshBackupName (after cs t) path time) ≠ .ok l) ∧
        ∀ process, (after cs t).find (path ++ temporarySuffix process) ≠ .ok l := by
  refine ⟨fun path time => ?_, nodup_map_find_copies cs fun path l => find_after cs t path,
    fun copy hmem => ?_⟩
  · obtain ⟨n, hle, hfirst, hname⟩ := exists_isFirstFree t path time
    have hfresh : freshBackupName t path time = path ++ backupSuffix time n :=
      hname _ (Nat.lt_succ_self _)
    exact ⟨n, hle, hfirst, hfresh, fun tries htries => (hname tries htries).trans hfresh.symm⟩
  · obtain ⟨l, hfind, hcopy⟩ := isCopy_of_mem_copies hmem
    obtain ⟨content, mode, hget⟩ := hcopy.file
    have hfound := (find_after cs t copy).2 hfind
    refine ⟨l, content, mode, lookup_eq_ok.2 ⟨hfound, hget⟩, fun later hne => ?_,
      fun path => ⟨hcopy.find_freshBackupName_ne path, hcopy.find_temporary_ne path⟩⟩
    rw [after_append, lookup_eq_ok, find_after, hcopy.get?_after_of_ne hne]
    exact ⟨hfound, hget⟩

/-- A tree with a single file. -/
def single : FileTree := ⟨[(["a".toList], .file (bytes "old") newMode)], []⟩

/-- A call for the file in the tree `single`. -/
def Call.ofSingle (new old : String) (time : Int) : Call :=
  ⟨⟨"a", new, old, "", "", "", none⟩, 4242, .none, time⟩

/-- The clock stands still at the number of the process, and then goes back. -/
theorem copies_fresh_single :
    let cs := [Call.ofSingle "new" "old" 4242, Call.ofSingle "old" "new" 4242]
    let later := [Call.ofSingle "newer" "old" 0]
    copies cs single = ["a.backup.4242", "a.backup.4242-1"] ∧
      (after (cs ++ later) single).lookup "a.backup.4242" =
        .ok (["a.backup.4242".toList], .file (bytes "old") newMode) := by
  intro cs later
  have hcopies : copies cs single = ["a.backup.4242", "a.backup.4242-1"] := by rfl
  have hlookup : (after cs single).lookup "a.backup.4242" =
      .ok (["a.backup.4242".toList], .file (bytes "old") newMode) := by rfl
  have hlive : (after cs single).find "a" = .ok ["a".toList] := by rfl
  obtain ⟨l, content, mode, hfound, hstays, -⟩ :=
    (copies_fresh single cs).2.2 "a.backup.4242" (by simp [hcopies])
  obtain ⟨rfl, rfl, rfl⟩ :
      ["a.backup.4242".toList] = l ∧ bytes "old" = content ∧ newMode = mode := by
    simpa [hlookup] using hfound
  refine ⟨hcopies, hstays later fun c hc => ?_⟩
  obtain rfl := List.mem_singleton.1 hc
  rw [show (Call.ofSingle "newer" "old" 0).replacement.path = "a" from rfl, hlive]
  simp

end Mender.Repair.Replacement
