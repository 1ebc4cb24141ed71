import Mender.Proofs.Repair.Backup

/-!
# What a replacement does

When nothing but the tree can make a step fail, there are five things that the replacement
of a file's content can come to (`Settled`), and each leaves a tree that is known: the old
one, with the copy in it or not, and with the new content in place or not. The temporary
file is only left behind when a content has no bytes.
-/

namespace Mender.Repair.Replacement

open AbsolutePath

section

variable {r : Replacement} {process : Nat} {faults : Faults} {time : Int} {t t' : FileTree}

/-- A content is found to have no bytes only if it has none. -/
theorem encode_of_apply {e : Text.EncodeError}
    (h : r.apply process faults time t = (.error (.broken (.unwritable e)), t')) :
    r.new.encode = .error e := by
  unfold apply at h
  split at h
  · simp at h
  split at h
  · simp at h
  simp only at h
  split at h
  · simp at h
  split at h
  next why henc =>
    split at h
    · simp [overwriteFailure] at h
    · simp only [Prod.mk.injEq, Except.error.injEq, ReplaceFailure.broken.injEq,
        Breakage.unwritable.injEq] at h
      rw [henc, h.1]
  · split at h
    · simp [overwriteFailure] at h
    · simp at h

/-- Nothing is replaced only if nothing is to be. -/
theorem isNeeded_of_apply (h : r.apply process faults time t = (.ok none, t')) :
    r.isNeeded = false := by
  unfold apply at h
  split at h
  next hn => simpa using hn
  split at h
  · simp at h
  simp only at h
  split at h
  · simp at h
  split at h
  · split at h <;> simp at h
  · split at h <;> simp at h

/-- With the character in its path that no path holds, a replacement breaks and does nothing. -/
theorem apply_of_mem (hneed : r.isNeeded = true) (hnull : '\x00' ∈ r.path.toList) :
    r.apply process faults time t = (.error (.broken .nullByte), t) := by
  simp [apply, hneed, hnull]

/-- A replacement breaks over its path only if that holds the character that no path holds. -/
theorem mem_of_apply (h : (r.apply process faults time t).1 = .error (.broken .nullByte)) :
    r.isNeeded = true ∧ '\x00' ∈ r.path.toList := by
  unfold apply at h
  split at h
  · simp at h
  next hneed =>
  split at h
  next hnull => exact ⟨by simpa using hneed, hnull⟩
  simp only at h
  split at h
  · simp at h
  split at h
  · split at h <;> simp [overwriteFailure] at h
  · split at h <;> simp [overwriteFailure] at h

end

/-! ## Steps that fail for no reason outside the tree -/

/-- The tree with a copy of the old content beside the file. -/
def copied (r : Replacement) (p : AbsolutePath) (time : Int) (n : Nat) (t : FileTree) : FileTree :=
  t.put (p.beside (backupSuffix time n)).names (.file (bytes r.old) FileTree.newMode)

/-- A name that is free for a copy beside the file, and not too long. -/
structure Free (p : AbsolutePath) (time : Int) (n : Nat) (t : FileTree) : Prop where
  find : t.find (p.text ++ backupSuffix time n) = .ok (p.beside (backupSuffix time n)).names
  get? : t.get? (p.beside (backupSuffix time n)).names = none

/-- What the replacement of the content of the file at `p`, of the given mode, comes to. -/
inductive Settled (r : Replacement) (process : Nat) (p : AbsolutePath) (mode : Nat) (time : Int)
    (t : FileTree) : Except ReplaceFailure (Option Record) × FileTree → Prop
  | unneeded : r.isNeeded = false → Settled r process p mode time t (.ok none, t)
  | unsaved (e : IoError) :
      Settled r process p mode time t (.error (.operation ⟨r.path, .backup, e⟩), t)
  | saved (n : Nat) (e : IoError) : Free p time n t →
      Settled r process p mode time t
        (.error (.operation ⟨r.path, .overwrite, e⟩), r.copied p time n t)
  | torn (n : Nat) (why : Text.EncodeError) : Free p time n t → r.new.encode = .error why →
      Settled r process p mode time t (.error (.broken (.unwritable why)),
        (r.copied p time n t).put (p.beside (temporarySuffix process)).names
          (.file [] FileTree.newMode))
  | done (n : Nat) (new : Text.Bytes) : Free p time n t → r.new.encode = .ok new →
      Settled r process p mode time t (.ok (some (r.record (r.path ++ backupSuffix time n))),
        (r.copied p time n t).put p.names (.file new mode))

section

variable {r : Replacement} {process : Nat} {p : AbsolutePath} {t t' : FileTree} {time : Int}
  {n mode : Nat} {old : Text.Bytes}

/-- Where something stands, no copy is made. -/
theorem Free.ne_of_get? (h : Free p time n t) {l : Location} {e : Entry}
    (hl : t.get? l = some e) : l ≠ (p.beside (backupSuffix time n)).names := by
  rintro rfl
  simp [h.get?] at hl

/-- A copy under a free name takes nothing away. -/
theorem Free.extends_copied (h : Free p time n t) : t.Extends (r.copied p time n t) :=
  FileTree.extends_put h.get? _

theorem names_backup_ne_temporary (p : AbsolutePath) (time : Int) (n process : Nat) :
    (p.beside (backupSuffix time n)).names ≠ (p.beside (temporarySuffix process)).names := by
  intro h
  simp only [beside, List.append_cancel_left_eq, List.cons.injEq, and_true] at h
  exact absurd h fun h => backup_ne_temporary [] [] time n process (by simpa using h)

/-- A copy is made under the first free name, or not at all if that is too long. -/
theorem backUp_settled (hp : p.Normal) (hr : r.path = p.text)
    (hlive : t.lookup p.text = .ok (p.names, .file old mode)) :
    ∃ n, freshBackupName t r.path time = p.text ++ backupSuffix time n ∧
      ((∃ e, r.backUp .none (p.text ++ backupSuffix time n) t = (some e, t)) ∨
        Free p time n t ∧
          r.backUp .none (p.text ++ backupSuffix time n) t = (none, r.copied p time n t)) := by
  obtain ⟨hfind, hget⟩ := FileTree.lookup_eq_ok.1 hlive
  have hne := FileTree.ne_nil_of_lookup hlive
  obtain ⟨n, hname, habsent, -⟩ := freshBackupName_eq t p.text time
  refine ⟨n, by rw [hr, hname], ?_⟩
  have hb := normal_beside_backup hp hne time n
  rw [← text_beside hne] at habsent ⊢
  -- A name that nothing has may still be too long for anything to have.
  rcases FileTree.find_beside hp hne hb (nullByte_not_mem_backupSuffix time n) hfind with hf | hf
  · have hfree : t.get? (p.beside (backupSuffix time n)).names = none := by
      by_contra hsome
      obtain ⟨e, he⟩ := Option.ne_none_iff_exists'.1 hsome
      simp [FileTree.isPresent, FileTree.lookup_eq_ok.2 ⟨hf, he⟩] at habsent
    right
    refine ⟨⟨by rw [← text_beside hne, hf], hfree⟩, ?_⟩
    have hcreate : FileTree.create (p.beside (backupSuffix time n)).text t =
        .ok (t.put (p.beside (backupSuffix time n)).names (.file [] FileTree.newMode)) := by
      simp [FileTree.create, hf, hfree]
    have hlookup := FileTree.lookup_put hf (by simp [hfree]) [] FileTree.newMode
    simp [backUp, perform, Faults.none, Progress.andThen, hcreate, FileTree.fill_eq hlookup,
      FileTree.put_put, copied]
  · left
    refine ⟨.at .nameTooLong (p.beside (backupSuffix time n)).text, ?_⟩
    simp [backUp, perform, Faults.none, Progress.andThen, FileTree.create, hf]

/-- The new content takes the place of the old one, or the temporary file is not even
    opened, as its name is too long. -/
theorem overwrite_settled (hp : p.Normal) (hr : r.path = p.text)
    (hlive : t.lookup p.text = .ok (p.names, .file old mode))
    (htmp : t.get? (p.beside (temporarySuffix process)).names = none) :
    (∃ e, r.openTemporary process .none t = (some e, t) ∧ r.discard process .none t = t ∧
      ∀ new, r.overwrite process .none new t = (some e, t)) ∨
    r.openTemporary process .none t =
        (none, t.put (p.beside (temporarySuffix process)).names (.file [] FileTree.newMode)) ∧
      ∀ new, r.overwrite process .none new t = (none, t.put p.names (.file new mode)) := by
  obtain ⟨hfind, hget⟩ := FileTree.lookup_eq_ok.1 hlive
  have hne := FileTree.ne_nil_of_lookup hlive
  have hq := normal_beside_temporary hp hne process
  have hqne := names_beside_ne_nil p (temporarySuffix process)
  have hlen := length_names_beside hne (temporarySuffix process)
  have hdiff : p.names ≠ (p.beside (temporarySuffix process)).names := by
    intro h
    rw [← h, hget] at htmp
    simp at htmp
  have hname := temporaryName_text hne process
  have hbeside := FileTree.find_beside hp hne hq
    (not_mem_temporarySuffix (by decide) (by decide)) hfind
  simp only [overwrite, openTemporary, discard, hr, hname]
  generalize p.beside (temporarySuffix process) = q at *
  rcases hbeside with hf | hf
  · right
    have htruncate : FileTree.truncate q.text t =
        .ok (t.put q.names (.file [] FileTree.newMode)) := by
      simp [FileTree.truncate, FileTree.lookup_of_get?_eq_none hf htmp, FileTree.create, hf, htmp]
    -- What the steps find, whatever file stands at the temporary place.
    have hthere : ∀ c m, (t.put q.names (.file c m)).lookup q.text = .ok (q.names, .file c m) :=
      FileTree.lookup_put hf (by simp [htmp])
    have hfound : ∀ c m, (t.put q.names (.file c m)).find p.text = .ok p.names := by
      intro c m
      rw [FileTree.find_put hqne hp hlen.ge, hfind]
    have hold : ∀ c m, (t.put q.names (.file c m)).get? p.names = some (.file old mode) := by
      intro c m
      rw [FileTree.get?_put _ hqne, if_neg hdiff, hget]
    have hlive' : ∀ c m, (t.put q.names (.file c m)).lookup p.text =
        .ok (p.names, .file old mode) := fun c m =>
      FileTree.lookup_eq_ok.2 ⟨hfound c m, hold c m⟩
    refine ⟨by simp [perform, Faults.none, htruncate], fun new => ?_⟩
    simp [perform, Faults.none, Progress.andThen, htruncate,
      FileTree.fill_eq (hthere [] FileTree.newMode),
      FileTree.put_put, FileTree.copyMode, hlive', hthere, FileTree.move, hfound, hold,
      getLast?_text hp hne, FileTree.erase_put htmp]
  · left
    have hlookup : t.lookup q.text = .error .nameTooLong := by simp [FileTree.lookup, hf]
    have htruncate : FileTree.truncate q.text t = .error (.at .nameTooLong q.text) := by
      simp [FileTree.truncate, hlookup, FileTree.create, hf]
    exact ⟨.at .nameTooLong q.text, by simp [perform, Faults.none, htruncate],
      by simp [perform, Faults.none, FileTree.remove, hlookup],
      fun new => by simp [perform, Faults.none, htruncate, Progress.andThen]⟩

/-- A replacement comes to one of the five things, if nothing stands where its temporary file
    is to be. -/
theorem apply_settled (hp : p.Normal) (hr : r.path = p.text)
    (hlive : t.lookup p.text = .ok (p.names, .file old mode))
    (htmp : t.get? (p.beside (temporarySuffix process)).names = none) :
    Settled r process p mode time t (r.apply process .none time t) := by
  -- A path that leads somewhere can be one.
  have hnull : '\x00' ∉ r.path.toList :=
    hr ▸ FileTree.not_mem_of_find (FileTree.lookup_eq_ok.1 hlive).1
  rw [apply]
  cases hneed : r.isNeeded with
  | false => exact .unneeded hneed
  | true =>
    simp only [Bool.not_true, Bool.false_eq_true, if_false, hnull]
    obtain ⟨n, hname, ⟨e, hb⟩ | ⟨hfree, hb⟩⟩ := backUp_settled hp hr hlive
    · rw [hname, hb]
      exact .unsaved e
    · rw [hname, hb]
      simp only
      -- The copy is in the way of neither file.
      have hlive' : (r.copied p time n t).lookup p.text = .ok (p.names, .file old mode) :=
        hfree.extends_copied.lookup hlive
      have htmp' :
          (r.copied p time n t).get? (p.beside (temporarySuffix process)).names = none := by
        rw [copied, FileTree.get?_put _ (names_beside_ne_nil p _),
          if_neg (names_backup_ne_temporary p time n process).symm]
        exact htmp
      rcases overwrite_settled hp hr hlive' htmp' with
        ⟨e, hopen, hdiscard, hover⟩ | ⟨hopen, hover⟩
      · cases henc : r.new.encode with
        | error why =>
          simp only [hopen, hdiscard]
          exact .saved n e hfree
        | ok new =>
          simp only [hover, hdiscard]
          exact .saved n e hfree
      · cases henc : r.new.encode with
        | error why =>
          simp only [hopen]
          exact .torn n why hfree henc
        | ok new =>
          simp only [hover, ← hr]
          exact .done n new hfree henc

end

end Mender.Repair.Replacement
