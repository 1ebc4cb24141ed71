import Mender.Proofs.Repair.AllOrNothing

/-!
# Bystanders of a replacement

A replacement, whether it works or fails at whatever step, leaves the other files of the tree
alone: they are found where they were, with their bytes and their mode
(`Replacement.lookup_apply_bystander`). Files with the name of a copy are among them, as a copy
only goes where nothing is.

The one exception is a file with the name of the temporary file. Once the copy is made, such a
file is taken for a temporary file of the replacement itself: it is emptied, and then it goes
into the place of the live file or is removed (`temporary_file_lost`).

The proof goes by the six ways that a replacement can go (`Course`).
-/

namespace Mender.Repair.Replacement

open FileTree

variable {r : Replacement} {process : Nat} {faults : Faults} {time : Int} {t u : FileTree}
  {path : String} {l : Location} {content : Text.Bytes} {mode : Nat}
  {p : Except ReplaceFailure (Option Record) × FileTree}

/-! ## The course of a replacement -/

/-- The ways that a replacement can go. The tree `s` is the one with the copy in it, and `u` the
    one that the steps behind the copy come to. -/
inductive Course (r : Replacement) (process : Nat) (faults : Faults) (time : Int) (t : FileTree) :
    Except ReplaceFailure (Option Record) × FileTree → Prop
  | unneeded : Course r process faults time t (.ok none, t)
  | nullByte : Course r process faults time t (.error (.broken .nullByte), t)
  | unsaved {e : IoError} {u : FileTree} :
      r.backUp faults (freshBackupName t r.path time) t = (some e, u) →
      Course r process faults time t (.error (.operation ⟨r.path, .backup, e⟩), u)
  | torn {why : Text.EncodeError} {s u : FileTree} :
      r.backUp faults (freshBackupName t r.path time) t = (none, s) →
      r.openTemporary process faults s = (none, u) →
      Course r process faults time t (.error (.broken (.unwritable why)), u)
  | discarded {e : IoError} {s u : FileTree} :
      r.backUp faults (freshBackupName t r.path time) t = (none, s) →
      ChangesOnly [temporaryName process r.path] s u →
      Course r process faults time t
        (.error (.operation ⟨r.path, .overwrite, e⟩), r.discard process faults u)
  | done {new : Text.Bytes} {s u : FileTree} :
      r.backUp faults (freshBackupName t r.path time) t = (none, s) →
      r.overwrite process faults new s = (none, u) →
      Course r process faults time t (.ok (some (r.record (freshBackupName t r.path time))), u)

/-- A replacement takes one of these courses. -/
theorem course_apply (r : Replacement) (process : Nat) (faults : Faults) (time : Int)
    (t : FileTree) :
    Course r process faults time t (r.apply process faults time t) := by
  rw [apply]
  split
  · exact .unneeded
  split
  · exact .nullByte
  simp only
  rcases hbackup : r.backUp faults (freshBackupName t r.path time) t with ⟨_ | e, s⟩
  · cases r.new.encode with
    | error why =>
      have hopened := changesOnly_openTemporary process faults r s
      simp only
      rcases hopen : r.openTemporary process faults s with ⟨_ | e, u⟩ <;> rw [hopen] at hopened
      · exact .torn hbackup hopen
      · exact .discarded hbackup hopened
    | ok new =>
      simp only
      rcases hover : r.overwrite process faults new s with ⟨_ | e, u⟩
      · exact .done hbackup hover
      · exact .discarded hbackup (changesOnly_of_overwrite hover)
  · exact .unsaved hbackup

/-- The copying changes nothing but what stands at the path of the copy, however it ends. -/
theorem changesOnly_of_backUp {o : Option IoError}
    (h : r.backUp faults (freshBackupName t r.path time) t = (o, u)) :
    ChangesOnly [freshBackupName t r.path time] t u := by
  simpa [h] using changesOnly_backUp faults r (freshBackupName t r.path time) t

/-- To open the temporary file changes nothing but what stands at its path, however it ends. -/
theorem changesOnly_of_openTemporary {o : Option IoError}
    (h : r.openTemporary process faults t = (o, u)) :
    ChangesOnly [temporaryName process r.path] t u := by
  simpa [h] using changesOnly_openTemporary process faults r t

/-- A replacement changes nothing but the copy, the temporary file and the live file. -/
theorem Course.changesOnly (h : Course r process faults time t p) :
    ChangesOnly [freshBackupName t r.path time, temporaryName process r.path, r.path] t p.2 := by
  cases h with
  | unneeded | nullByte => exact .refl _ t
  | unsaved hbackup => exact (changesOnly_of_backUp hbackup).mono (by simp)
  | torn hbackup hopen =>
    exact (changesOnly_opened (changesOnly_of_backUp hbackup)
      (changesOnly_of_openTemporary hopen)).mono (by simp)
  | discarded hbackup hopened =>
    exact ((changesOnly_opened (changesOnly_of_backUp hbackup) hopened).trans
      ((changesOnly_discard process faults r _).mono (by simp))).mono (by simp)
  | done hbackup hover =>
    obtain ⟨-, -, -, -, -, -, hchanges⟩ := of_overwrite hover
    exact ((changesOnly_of_backUp hbackup).mono (by simp)).trans (hchanges.mono (by simp))

/-! ## Bystanders -/

/-- Where a file is, no copy goes. -/
theorem find_freshBackupName_ne {e : Entry} (hget : t.get? l = some e) :
    t.find (freshBackupName t path time) ≠ .ok l := by
  obtain ⟨n, hname, hfree, -⟩ := freshBackupName_eq t path time
  rw [hname]
  intro hf
  simp [isPresent, lookup_eq_ok.2 ⟨hf, hget⟩] at hfree

/-- The copy is in the way of no file. -/
theorem lookup_of_backUp {o : Option IoError} {e : Entry}
    (h : r.backUp faults (freshBackupName t r.path time) t = (o, u))
    (hfile : t.lookup path = .ok (l, e)) : u.lookup path = .ok (l, e) :=
  (changesOnly_of_backUp h).lookup_of_ne hfile <| by
    simpa using find_freshBackupName_ne (lookup_eq_ok.1 hfile).2

/-- A temporary file that is opened is empty, and keeps its mode if it was there before. -/
theorem lookup_of_openTemporary (h : r.openTemporary process faults t = (none, u))
    (htemporary : t.find (temporaryName process r.path) = .ok l)
    (hfile : t.lookup path = .ok (l, .file content mode)) :
    u.lookup path = .ok (l, .file [] mode) := by
  obtain ⟨hf, hget⟩ := lookup_eq_ok.1 hfile
  have hl : t.lookup (temporaryName process r.path) = .ok (l, .file content mode) :=
    lookup_eq_ok.2 ⟨htemporary, hget⟩
  have htruncate := (perform_eq_none.1 h).2
  rw [truncate, hl] at htruncate
  obtain rfl := Except.ok.inj htruncate
  exact lookup_put_of_lookup hfile [] mode

/-- What leads to the place of a temporary file that is gone leads to nothing. -/
theorem isPresent_of_temporary (h : Course r process faults time t p)
    (htemporary : t.find (temporaryName process r.path) = .ok l) (hpath : t.find path = .ok l)
    (hgone : p.2.isPresent (temporaryName process r.path) = false) :
    p.2.isPresent path = false := by
  refine isPresent_eq_false (h.changesOnly.find_eq_ok.2 hpath) ?_
  by_contra hsome
  obtain ⟨e, he⟩ := Option.ne_none_iff_exists'.1 hsome
  simp [isPresent, lookup_eq_ok.2 ⟨h.changesOnly.find_eq_ok.2 htemporary, he⟩] at hgone

/-- What becomes of the file that `path` leads to when it stands where the temporary file is to
    be: it stays as it was as long as the replacement does not get behind the copy. After that it
    is emptied, and it is gone unless removing it fails. -/
def TakenForTemporary (faults : Faults) (path : String) (l : Location) (content : Text.Bytes)
    (mode : Nat) : Except ReplaceFailure (Option Record) × FileTree → Prop
  | (.ok none, t') => t'.lookup path = .ok (l, .file content mode)
  | (.ok (some _), t') => t'.isPresent path = false
  | (.error (.operation e), t') =>
    match e.phase with
    | .backup => t'.lookup path = .ok (l, .file content mode)
    | .overwrite => faults .removeTemporary = none → t'.isPresent path = false
  | (.error (.broken .nullByte), t') => t'.lookup path = .ok (l, .file content mode)
  | (.error (.broken (.unwritable _)), t') => t'.lookup path = .ok (l, .file [] mode)

/-- A file that has the name of the temporary file is taken for it. -/
theorem Course.takenForTemporary (h : Course r process faults time t p)
    (htemporary : t.find (temporaryName process r.path) = .ok l)
    (hfile : t.lookup path = .ok (l, .file content mode)) :
    TakenForTemporary faults path l content mode p := by
  have hpath := (lookup_eq_ok.1 hfile).1
  have hgone := fun hg => isPresent_of_temporary h htemporary hpath hg
  cases h with
  | unneeded | nullByte => exact hfile
  | unsaved hbackup => exact lookup_of_backUp hbackup hfile
  | torn hbackup hopen =>
    have hcopied := changesOnly_of_backUp hbackup
    exact lookup_of_openTemporary hopen (hcopied.find_eq_ok.2 htemporary)
      (lookup_of_backUp hbackup hfile)
  | discarded hbackup hopened =>
    intro hremoved
    refine hgone (Bool.eq_false_iff.2 fun hthere => ?_)
    rcases of_isPresent_discard hthere with hfault | hdir
    · exact hfault hremoved
    · -- Where a file was before, there is no directory.
      rw [(changesOnly_opened (changesOnly_of_backUp hbackup) hopened).isDirectory_iff,
        isDirectory, lookup_eq_ok.2 ⟨htemporary, (lookup_eq_ok.1 hfile).2⟩] at hdir
      simp at hdir
  | done hbackup hover =>
    obtain ⟨-, -, -, -, -, hmoved, -⟩ := of_overwrite hover
    exact hgone hmoved

/-- A file other than the live one is found as it was, with its bytes and its mode, whatever
    becomes of the replacement and whatever the name of the file is, but for that of the temporary
    file: a file of this name is taken for the temporary file. -/
theorem lookup_apply_bystander (r : Replacement) (process : Nat) (faults : Faults) (time : Int)
    (t : FileTree)
    (hfile : t.lookup path = .ok (l, .file content mode)) (hlive : t.find r.path ≠ .ok l) :
    (t.find (temporaryName process r.path) ≠ .ok l →
      (r.apply process faults time t).2.lookup path = .ok (l, .file content mode)) ∧
    (t.find (temporaryName process r.path) = .ok l →
      TakenForTemporary faults path l content mode (r.apply process faults time t)) := by
  have hcourse := course_apply r process faults time t
  refine ⟨fun htemporary => ?_, fun htemporary => hcourse.takenForTemporary htemporary hfile⟩
  refine hcourse.changesOnly.lookup_of_ne hfile fun q hq => ?_
  simp only [List.mem_cons, List.not_mem_nil, or_false] at hq
  rcases hq with rfl | rfl | rfl
  · exact find_freshBackupName_ne (lookup_eq_ok.1 hfile).2
  · exact htemporary
  · exact hlive

/-- A tree with a file, one that has the name of its copy, and one that has the name of its
    temporary file. -/
def crowded : FileTree :=
  ⟨[(["a".toList], .file (bytes "old") newMode),
    (["a.backup.7".toList], .file (bytes "kept") newMode),
    (["a.tmp.4242".toList], .file (bytes "lost") newMode)], []⟩

/-- The replacement of the content of the file in the tree `crowded`. -/
def crowdedReplacement : Replacement := ⟨"a", "new", "old", "", "", "", none⟩

/-- The file with the name of a copy stays, while the move into place fails and takes the other
    one with it. -/
theorem lookup_apply_crowded :
    let faults : Faults := fun step => if step = .moveIntoPlace then some "no" else none
    let t' := (crowdedReplacement.apply 4242 faults 7 crowded).2
    crowded.find "a" = .ok ["a".toList] ∧
      crowded.lookup "a.backup.7" =
        .ok (["a.backup.7".toList], .file (bytes "kept") newMode) ∧
      t'.lookup "a.backup.7" = .ok (["a.backup.7".toList], .file (bytes "kept") newMode) := by
  intro faults t'
  have hlive : crowded.find "a" = .ok ["a".toList] := by rfl
  have hfile : crowded.lookup "a.backup.7" =
      .ok (["a.backup.7".toList], .file (bytes "kept") newMode) := by rfl
  have htemporary : crowded.find "a.tmp.4242" = .ok ["a.tmp.4242".toList] := by rfl
  refine ⟨hlive, hfile, ?_⟩
  refine (lookup_apply_bystander crowdedReplacement 4242 faults 7 crowded hfile ?_).1 ?_
  · rw [show crowdedReplacement.path = "a" from rfl, hlive]
    simp
  · rw [show temporaryName 4242 crowdedReplacement.path = "a.tmp.4242" from rfl, htemporary]
    simp

/-- A file with the name of the temporary file is lost although the replacement works. -/
theorem temporary_file_lost :
    crowded.lookup "a.tmp.4242" = .ok (["a.tmp.4242".toList], .file (bytes "lost") newMode) ∧
      crowded.find crowdedReplacement.path ≠ .ok ["a.tmp.4242".toList] ∧
      (crowdedReplacement.apply 4242 .none 7 crowded).1 =
        .ok (some (crowdedReplacement.record "a.backup.7-1")) ∧
      (crowdedReplacement.apply 4242 .none 7 crowded).2.isPresent "a.tmp.4242" = false := by
  refine ⟨by rfl, ?_, by rfl, by rfl⟩
  simp [show crowded.find crowdedReplacement.path = .ok ["a".toList] from rfl]

end Mender.Repair.Replacement
