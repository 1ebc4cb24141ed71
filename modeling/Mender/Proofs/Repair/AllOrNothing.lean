import Mender.Proofs.Repair.Replacement

/-!
# Replacements are all or nothing

Whatever step of a replacement fails, for a reason in the tree or for one from outside it,
the live file is as it was, or it holds the new content in full
(`Replacement.apply_all_or_nothing`). No path is excluded: there may be nothing where it
leads, or a directory, and it need not be made absolute.

Up to the move into place, only the copy and the temporary file are changed, and these
stand beside the live file. So the proof goes by what the steps change (`ChangesOnly`), and
by what a step that worked has found (`of_backUp`, `of_prepare`,
`of_overwrite`).
-/

namespace Mender.Repair

open FileTree

/-! ## Steps -/

section

variable {paths : List String} {t u : FileTree} {p : Progress} {next : FileTree → Progress}
  {e : IoError} {faults : Faults} {step : ReplaceStep}
  {operation : FileTree → Except IoError FileTree}

/-- Two steps work if the first works, and the second works in the tree that it leaves. -/
theorem andThen_eq_none :
    p.andThen next = (none, u) ↔ ∃ t, p = (none, t) ∧ next t = (none, u) := by
  obtain ⟨_ | e, t⟩ := p <;> simp [Progress.andThen]

/-- Of steps one after another that fail, the first ones fail, or they work and the last
    one fails. -/
theorem andThen_eq_some :
    p.andThen next = (some e, u) ↔
      p = (some e, u) ∨ ∃ t, p = (none, t) ∧ next t = (some e, u) := by
  obtain ⟨_ | e, t⟩ := p <;> simp [Progress.andThen]

/-- Two steps change what each of them may change. -/
theorem changesOnly_andThen (hp : ChangesOnly paths t p.2)
    (hnext : ∀ u, ChangesOnly paths u (next u).2) : ChangesOnly paths t (p.andThen next).2 := by
  obtain ⟨_ | e, u⟩ := p
  · exact hp.trans (hnext u)
  · exact hp

/-- A step works if there is no fault in it and its operation works. -/
theorem perform_eq_none :
    perform faults step operation t = (none, u) ↔ faults step = none ∧ operation t = .ok u := by
  rw [perform]
  cases faults step with
  | some text => simp
  | none => cases operation t <;> simp

/-- A step that fails leaves the tree as it was. -/
theorem eq_of_perform (h : perform faults step operation t = (some e, u)) : u = t := by
  rw [perform] at h
  split at h
  · exact (Prod.mk.inj h).2.symm
  · split at h
    · simp at h
    · exact (Prod.mk.inj h).2.symm

/-- A step changes what its operation may change. -/
theorem changesOnly_perform (h : ∀ u, operation t = .ok u → ChangesOnly paths t u) :
    ChangesOnly paths t (perform faults step operation t).2 := by
  cases hp : perform faults step operation t with
  | mk o u =>
    cases o with
    | none => exact h u (perform_eq_none.1 hp).2
    | some e =>
      rw [eq_of_perform hp]
      exact .refl paths t

end

namespace Replacement

variable {r : Replacement} {process : Nat} {faults : Faults} {time : Int} {t u : FileTree}
  {backup : String} {new : Text.Bytes}

/-! ## The copy -/

/-- The copying changes nothing but what stands at the path of the copy. -/
theorem changesOnly_backUp (faults : Faults) (r : Replacement) (backup : String) (t : FileTree) :
    ChangesOnly [backup] t (r.backUp faults backup t).2 :=
  changesOnly_andThen (changesOnly_perform fun _ => changesOnly_create) fun _ =>
    changesOnly_perform fun _ => changesOnly_fill

/-- A copy that is made stands where nothing was, and holds the old content. -/
theorem of_backUp (h : r.backUp faults backup t = (none, u)) :
    ∃ l mode, t.find backup = .ok l ∧ t.get? l = none ∧
      u.lookup backup = .ok (l, .file (bytes r.old) mode) := by
  obtain ⟨t₁, hopen, hwrite⟩ := andThen_eq_none.1 h
  have hcreate := (perform_eq_none.1 hopen).2
  obtain ⟨l, hf, hl, -⟩ := of_create hcreate
  obtain ⟨l', c, mode, hl', hfilled⟩ := lookup_of_fill (perform_eq_none.1 hwrite).2
  have hf' := (changesOnly_create hcreate).find_eq_ok.1 (lookup_eq_ok.1 hl').1
  obtain rfl := Except.ok.inj (hf.symm.trans hf')
  exact ⟨l, mode, hf, hl, hfilled⟩

/-! ## The temporary file -/

/-- To open the temporary file changes nothing but what stands at its path. -/
theorem changesOnly_openTemporary (process : Nat) (faults : Faults) (r : Replacement)
    (t : FileTree) :
    ChangesOnly [temporaryName process r.path] t (r.openTemporary process faults t).2 :=
  changesOnly_perform fun _ => changesOnly_truncate

/-- The new content in the temporary file, with the mode of the live file. -/
def prepare (process : Nat) (faults : Faults) (r : Replacement) (new : Text.Bytes) (t : FileTree) :
    Progress :=
  ((r.openTemporary process faults t).andThen
    (perform faults .writeTemporary (FileTree.fill (temporaryName process r.path) new))).andThen
    (perform faults .copyMode (FileTree.copyMode r.path (temporaryName process r.path)))

/-- The overwriting ends with the move of what was prepared into its place. -/
theorem overwrite_eq (process : Nat) (faults : Faults) (r : Replacement) (new : Text.Bytes)
    (t : FileTree) :
    r.overwrite process faults new t = (r.prepare process faults new t).andThen
      (perform faults .moveIntoPlace (FileTree.move (temporaryName process r.path) r.path)) :=
  rfl

/-- What is prepared is prepared in the temporary file. -/
theorem changesOnly_prepare (process : Nat) (faults : Faults) (r : Replacement) (new : Text.Bytes)
    (t : FileTree) :
    ChangesOnly [temporaryName process r.path] t (r.prepare process faults new t).2 := by
  have hopen := changesOnly_openTemporary process faults r t
  refine changesOnly_andThen (changesOnly_andThen hopen ?_) ?_
  · exact fun _ => changesOnly_perform fun _ => changesOnly_fill
  · exact fun _ => changesOnly_perform fun _ => changesOnly_copyMode

/-- The temporary file is not seen where the path leads. -/
theorem lookup_of_changesOnly (h : ChangesOnly [temporaryName process r.path] t u) :
    u.lookup r.path = t.lookup r.path :=
  h.lookup_eq (by simpa using isNeighbour_temporary process r.path)

/-- A temporary file that is ready holds the new content, with the mode of what is found at
    the path. -/
theorem of_prepare (h : r.prepare process faults new t = (none, u)) :
    ∃ l m e, u.lookup (temporaryName process r.path) = .ok (l, .file new (copiedMode e)) ∧
      u.lookup r.path = .ok (m, e) := by
  obtain ⟨t₂, h₂, hcopy⟩ := andThen_eq_none.1 h
  obtain ⟨t₁, -, hwrite⟩ := andThen_eq_none.1 h₂
  obtain ⟨l, c, mode, -, hfilled⟩ := lookup_of_fill (perform_eq_none.1 hwrite).2
  have hcopy' := (perform_eq_none.1 hcopy).2
  obtain ⟨m, e, hlive, ⟨⟨l', hl'⟩, -⟩ | ⟨l', c', mode', hl', rfl⟩⟩ := of_copyMode hcopy'
  · simp [hl'] at hfilled
  · obtain ⟨rfl, rfl, -⟩ : l = l' ∧ new = c' ∧ mode = mode' := by simpa [hfilled] using hl'
    refine ⟨l, m, e, lookup_put_of_lookup hl' _ _, ?_⟩
    rwa [lookup_of_changesOnly (changesOnly_copyMode hcopy')]

/-- The temporary file moves to where the path leads, if there is a file. -/
theorem of_overwrite (h : r.overwrite process faults new t = (none, u)) :
    ∃ l old mode, t.lookup r.path = .ok (l, .file old mode) ∧
      u.lookup r.path = .ok (l, .file new mode) ∧
      u.isPresent (temporaryName process r.path) = false ∧
      ChangesOnly [temporaryName process r.path, r.path] t u := by
  rw [overwrite_eq, andThen_eq_none] at h
  obtain ⟨t₁, hprepare, hmove⟩ := h
  have hchanges : ChangesOnly [temporaryName process r.path] t t₁ := by
    simpa [hprepare] using changesOnly_prepare process faults r new t
  obtain ⟨l, m, e, htemporary, hlive⟩ := of_prepare hprepare
  obtain ⟨hf, hget⟩ := lookup_eq_ok.1 hlive
  have hne : t₁.find r.path ≠ .ok l := by
    intro hl
    have hft := (lookup_eq_ok.1 htemporary).1
    rw [temporaryName_eq] at hft
    exact ne_of_find_append (isSuffix_temporary process) hl hft rfl
  obtain ⟨m', hm', hdir, hmoved, hgone, hmoves⟩ :=
    lookup_of_move (perform_eq_none.1 hmove).2 htemporary hne
  obtain rfl := Except.ok.inj (hf.symm.trans hm')
  -- Where a directory is, nothing is moved, so it is a file that is replaced.
  cases e with
  | directory => exact absurd hget hdir
  | file old mode =>
    rw [lookup_of_changesOnly hchanges] at hlive
    exact ⟨m, old, mode, hlive, hmoved, hgone, (hchanges.mono (by simp)).trans hmoves⟩

/-- If the move into place or a step before it fails, only the temporary file has
    changed. -/
theorem changesOnly_of_overwrite {e : IoError}
    (h : r.overwrite process faults new t = (some e, u)) :
    ChangesOnly [temporaryName process r.path] t u := by
  rw [overwrite_eq, andThen_eq_some] at h
  have hchanges := changesOnly_prepare process faults r new t
  rcases h with h | ⟨s, h, hmove⟩ <;> rw [h] at hchanges
  · exact hchanges
  · rwa [eq_of_perform hmove]

/-! ## Clearing up -/

/-- What is cleared up is the temporary file. -/
theorem changesOnly_discard (process : Nat) (faults : Faults) (r : Replacement) (t : FileTree) :
    ChangesOnly [temporaryName process r.path] t (r.discard process faults t) :=
  changesOnly_perform fun _ => changesOnly_remove

/-- A temporary file stays only if it cannot be removed. -/
theorem of_isPresent_discard
    (h : (r.discard process faults t).isPresent (temporaryName process r.path) = true) :
    faults .removeTemporary ≠ none ∨ t.isDirectory (temporaryName process r.path) = true := by
  refine or_iff_not_imp_left.2 fun hfault => ?_
  rw [discard, perform, not_not.1 hfault] at h
  simp only at h
  cases hremove : t.remove (temporaryName process r.path) with
  | ok u => simp [hremove, isPresent_of_remove hremove] at h
  | error e =>
    -- There is something that cannot be removed, so it is no file.
    rw [hremove, isPresent] at h
    rw [FileTree.remove] at hremove
    rcases hl : t.lookup (temporaryName process r.path) with c | ⟨l, _ | _⟩
    · simp [hl] at h
    · simp [hl] at hremove
    · simp [isDirectory, hl]

/-! ## Whole replacements -/

/-- The content was replaced in full, and the old one is kept in a new file. -/
structure Replaced (r : Replacement) (process : Nat) (time : Int) (t t' : FileTree) : Prop where
  live : ∃ l old new mode, t.lookup r.path = .ok (l, .file old mode) ∧
    r.new.encode = .ok new ∧ t'.lookup r.path = .ok (l, .file new mode)
  fresh : t.isPresent (freshBackupName t r.path time) = false
  backup : ∃ l mode,
    t'.lookup (freshBackupName t r.path time) = .ok (l, .file (bytes r.old) mode)
  temporary : t'.isPresent (temporaryName process r.path) = false
  changes : ChangesOnly [freshBackupName t r.path time, temporaryName process r.path, r.path] t t'

/-- The live file, if there is one, was kept as it was: its bytes and its mode. -/
structure Kept (r : Replacement) (process : Nat) (faults : Faults) (time : Int)
    (phase : ReplacePhase) (t t' : FileTree) : Prop where
  live : t'.lookup r.path = t.lookup r.path
  /-- A temporary file that was opened is gone, unless it could not be removed. -/
  temporary :
    match phase with
    | .backup => t'.lookup (temporaryName process r.path) = t.lookup (temporaryName process r.path)
    | .overwrite => t'.isPresent (temporaryName process r.path) = true →
        faults .removeTemporary ≠ none ∨ t.isDirectory (temporaryName process r.path) = true
  /-- Nothing is new but the copy, and a temporary file that could not be removed. -/
  new : ∀ l, t.get? l = none → t'.get? l ≠ none →
    t.find (freshBackupName t r.path time) = .ok l ∨
      faults .removeTemporary ≠ none ∧ t.find (temporaryName process r.path) = .ok l
  changes : ChangesOnly [freshBackupName t r.path time, temporaryName process r.path] t t'

/-- The copy and the temporary file stand beside the path. -/
theorem isNeighbour_of_mem {q : String}
    (hq : q ∈ [freshBackupName t r.path time, temporaryName process r.path]) :
    IsNeighbour r.path q := by
  simp only [List.mem_cons, List.not_mem_nil, or_false] at hq
  rcases hq with rfl | rfl
  · exact isNeighbour_freshBackupName t r.path time
  · exact isNeighbour_temporary process r.path

/-- The copy and the temporary file stand at different places. -/
theorem ne_of_find_temporary {s : FileTree} {l m : Location}
    (h : s.find (freshBackupName t r.path time) = .ok l)
    (h' : s.find (temporaryName process r.path) = .ok m) : l ≠ m := by
  obtain ⟨n, hname, -⟩ := freshBackupName_eq t r.path time
  rw [hname] at h
  rw [temporaryName_eq] at h'
  refine ne_of_find_appends (isSuffix_backup time n) (isSuffix_temporary process)
    (fun heq => ?_) h h'
  exact backup_ne_temporary [] [] time n process (by rw [heq])

/-- A copying that fails leaves the live file as it was. -/
theorem kept_of_backUp {e : IoError}
    (h : r.backUp faults (freshBackupName t r.path time) t = (some e, u)) :
    Kept r process faults time .backup t u := by
  have hchanges : ChangesOnly [freshBackupName t r.path time] t u := by
    simpa [h] using changesOnly_backUp faults r (freshBackupName t r.path time) t
  have hbeside : ∀ q ∈ [freshBackupName t r.path time], IsNeighbour r.path q := by
    simpa using isNeighbour_freshBackupName t r.path time
  refine ⟨hchanges.lookup_eq hbeside, ?_, fun l hl hl' => ?_, hchanges.mono (by simp)⟩
  · simp only
    rw [temporaryName_eq]
    refine hchanges.lookup_append_eq hbeside (isSuffix_temporary process).no_slash
      fun q hq l hl hl' => ?_
    rw [List.mem_singleton.1 hq] at hl'
    rw [← temporaryName_eq] at hl
    exact ne_of_find_temporary hl' hl rfl
  · obtain ⟨q, hq, hf⟩ := hchanges.get? l (by rwa [hl])
    rw [List.mem_singleton.1 hq] at hf
    exact .inl hf

/-- If nothing but the copy and the temporary file has changed, the live file is as it was. -/
theorem kept_of_overwrite
    (hchanges : ChangesOnly [freshBackupName t r.path time, temporaryName process r.path] t u)
    (htemporary : u.isPresent (temporaryName process r.path) = true →
      faults .removeTemporary ≠ none ∨ t.isDirectory (temporaryName process r.path) = true) :
    Kept r process faults time .overwrite t u := by
  refine ⟨hchanges.lookup_eq fun q => isNeighbour_of_mem, htemporary, fun l hl hl' => ?_, hchanges⟩
  obtain ⟨q, hq, hf⟩ := hchanges.get? l (by rwa [hl])
  simp only [List.mem_cons, List.not_mem_nil, or_false] at hq
  rcases hq with rfl | rfl
  · exact .inl hf
  · -- What is new at the place of the temporary file is no directory.
    obtain ⟨e, he⟩ := Option.ne_none_iff_exists'.1 hl'
    have hpresent : u.isPresent (temporaryName process r.path) = true := by
      rw [isPresent, lookup_eq_ok.2 ⟨hchanges.find_eq_ok.2 hf, he⟩]
    have hdir : ¬t.isDirectory (temporaryName process r.path) = true := by
      simp [isDirectory, lookup_of_get?_eq_none hf hl]
    exact .inr ⟨(htemporary hpresent).resolve_right hdir, hf⟩

/-- Behind the copy and before the move into place. -/
theorem changesOnly_opened {s : FileTree}
    (hcopied : ChangesOnly [freshBackupName t r.path time] t s)
    (hopened : ChangesOnly [temporaryName process r.path] s u) :
    ChangesOnly [freshBackupName t r.path time, temporaryName process r.path] t u :=
  (hcopied.mono (by simp)).trans (hopened.mono (by simp))

/-- What is cleared up after a failure behind the copy leaves the live file as it was. -/
theorem kept_discard {s : FileTree} (hcopied : ChangesOnly [freshBackupName t r.path time] t s)
    (hopened : ChangesOnly [temporaryName process r.path] s u) :
    Kept r process faults time .overwrite t (r.discard process faults u) := by
  have hchanges := changesOnly_opened hcopied hopened
  refine kept_of_overwrite
    (hchanges.trans ((changesOnly_discard process faults r u).mono (by simp))) fun h => ?_
  rw [← hchanges.isDirectory_iff]
  exact of_isPresent_discard h

/-- The steps behind the copy leave it alone, as neither the temporary file nor the live file is
    in its place. -/
theorem lookup_copy_of_overwrite {s : FileTree}
    (hbackup : r.backUp faults (freshBackupName t r.path time) t = (none, s))
    (hover : r.overwrite process faults new s = (none, u)) :
    ∃ l mode,
      u.lookup (freshBackupName t r.path time) = .ok (l, .file (bytes r.old) mode) := by
  obtain ⟨l, mode, -, -, hcopy⟩ := of_backUp hbackup
  obtain ⟨-, -, -, -, -, -, hchanges⟩ := of_overwrite hover
  refine ⟨l, mode, hchanges.lookup_of_ne hcopy fun q hq hq' => ?_⟩
  simp only [List.mem_cons, List.not_mem_nil, or_false] at hq
  have hfound := (lookup_eq_ok.1 hcopy).1
  rcases hq with rfl | rfl
  · exact ne_of_find_temporary hfound hq' rfl
  · obtain ⟨n, hname, -⟩ := freshBackupName_eq t r.path time
    rw [hname] at hfound
    exact ne_of_find_append (isSuffix_backup time n) hq' hfound rfl

/-- If the copying and the overwriting work, the content is replaced. -/
theorem replaced_of_overwrite {s : FileTree}
    (hbackup : r.backUp faults (freshBackupName t r.path time) t = (none, s))
    (hencode : r.new.encode = .ok new) (hover : r.overwrite process faults new s = (none, u)) :
    Replaced r process time t u := by
  have hcopied : ChangesOnly [freshBackupName t r.path time] t s := by
    simpa [hbackup] using changesOnly_backUp faults r (freshBackupName t r.path time) t
  obtain ⟨b, -, hf, hfree, -⟩ := of_backUp hbackup
  obtain ⟨l, old, mode, hlive, hlive', htemporary, hchanges⟩ := of_overwrite hover
  refine ⟨⟨l, old, new, mode, ?_, hencode, hlive'⟩, isPresent_eq_false hf hfree,
    lookup_copy_of_overwrite hbackup hover, htemporary,
    (hcopied.mono (by simp)).trans (hchanges.mono (by simp))⟩
  rwa [hcopied.lookup_eq (by simpa using isNeighbour_freshBackupName t r.path time)] at hlive

/-- A content is replaced in full or not at all. If it is the same, nothing is done. Otherwise
    the live file holds the new content when the replacement works, and is as it was when that
    fails. A text without lone surrogates has bytes, so that only the operations on the tree can
    fail, at any path that can be one. At no other is anything done, but the replacement breaks. -/
theorem apply_all_or_nothing (r : Replacement) (process : Nat) (faults : Faults) (time : Int)
    (t : FileTree) :
    (match r.apply process faults time t with
    | (.ok none, t') => r.new = .whole r.old ∧ t' = t
    | (.ok (some record), t') =>
      r.new ≠ .whole r.old ∧ record = r.record (freshBackupName t r.path time) ∧
        Replaced r process time t t'
    | (.error (.operation e), t') =>
      r.new ≠ .whole r.old ∧ e.path = r.path ∧ Kept r process faults time e.phase t t'
    | (.error (.broken (.unwritable _)), t') =>
      (∀ s, r.new ≠ .whole s) ∧ t'.lookup r.path = t.lookup r.path
    | (.error (.broken .nullByte), t') => t' = t) ∧
      ((r.apply process faults time t).1 = .error (.broken .nullByte) ↔
        r.new ≠ .whole r.old ∧ '\x00' ∈ r.path.toList) := by
  have hneeded : r.isNeeded = true ↔ r.new ≠ .whole r.old := by simp [isNeeded]
  refine ⟨?_, fun h => ⟨hneeded.1 (mem_of_apply h).1, (mem_of_apply h).2⟩, fun h => by
    rw [apply_of_mem (hneeded.2 h.1) h.2]⟩
  rw [apply]
  cases hneed : r.isNeeded with
  | false => simpa [isNeeded] using hneed
  | true =>
    have hne := hneeded.1 hneed
    by_cases hnull : '\x00' ∈ r.path.toList
    · simp [hnull]
    simp only [hnull, Bool.not_true, Bool.false_eq_true, if_false]
    have hcopied := changesOnly_backUp faults r (freshBackupName t r.path time) t
    rcases hbackup : r.backUp faults (freshBackupName t r.path time) t with ⟨_ | e, s⟩
    · rw [hbackup] at hcopied
      simp only
      cases hencode : r.new.encode with
      | error why =>
        have hopened := changesOnly_openTemporary process faults r s
        rcases hopen : r.openTemporary process faults s with ⟨_ | e, u⟩ <;> rw [hopen] at hopened
        · refine ⟨fun text htext => by simp [htext, Text.Loose.encode] at hencode, ?_⟩
          exact (changesOnly_opened hcopied hopened).lookup_eq fun _ => isNeighbour_of_mem
        · exact ⟨hne, rfl, kept_discard hcopied hopened⟩
      | ok new =>
        simp only
        rcases hover : r.overwrite process faults new s with ⟨_ | e, u⟩
        · exact ⟨hne, rfl, replaced_of_overwrite hbackup hencode hover⟩
        · exact ⟨hne, rfl, kept_discard hcopied (changesOnly_of_overwrite hover)⟩
    · exact ⟨hne, rfl, kept_of_backUp hbackup⟩

/-- A path with the character U+0000 makes the replacement break, and it does nothing. -/
theorem apply_of_nullByte :
    let t : FileTree := ⟨[(["proj".toList], .directory),
      (["proj".toList, "a.ts".toList], .file (bytes "old\n") newMode)], ["proj".toList]⟩
    apply 4242 .none 1700000000000000000
        ⟨"/proj/a\x00.ts", "new\n", "old\n", "", "", "", none⟩ t =
      (.error (.broken .nullByte), t) :=
  apply_of_mem (by decide) (by decide)

/-- A temporary file that can be neither moved nor removed stays. -/
example :
    let faults : Faults := fun
      | .moveIntoPlace | .removeTemporary => some "input/output error"
      | _ => none
    let t : FileTree := ⟨[(["a".toList], .file [] newMode)], []⟩
    let r : Replacement := ⟨"a", "new", "", "", "", "", none⟩
    (r.apply 4242 faults 0 t).2.isPresent (temporaryName 4242 "a") = true := by
  decide +kernel

end Replacement

end Mender.Repair
