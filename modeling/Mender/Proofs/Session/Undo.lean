import Mender.Proofs.Session.Stop

/-!
# Undoing a session

The records of a session tell how to undo it: from the last record to the first, the copy
is put back in the place of the file that its name tells (`undo`). This brings back every
file that was there at the start, for the copy of each record holds what its repair found
(`Restorable`), and a copy made later takes nothing away from what undoing an earlier
repair needs (`undo_of_extends`).

* `run_undone`: whatever the builds, the answers and the times are, a session can be
  undone if it has a report.
-/

namespace Mender

open Repair Text AbsolutePath

/-! ## Putting copies back -/

namespace Repair.Record

/-- The tree with the copy that a record names in the place of the file. -/
def putBack (r : Record) (t : FileTree) : Except IoError FileTree :=
  match livePath? r.backupPath with
  | none => .error (.at .notFound r.backupPath)
  | some live =>
    match t.read r.backupPath with
    | .error e => .error e
    | .ok content => t.fill live content

end Repair.Record

/-- The tree with all copies put back, that of the last record first. -/
def undo : List Record → FileTree → Except IoError FileTree
  | [], t => .ok t
  | r :: rs, t =>
    match undo rs t with
    | .error e => .error e
    | .ok t => r.putBack t

section

variable {t t' u : FileTree}

/-- A copy that can be put back in a tree can be put back in one that holds more. -/
theorem putBack_of_extends {r : Record} (h : t.Extends t') (hu : r.putBack t = .ok u) :
    ∃ u', r.putBack t' = .ok u' ∧ u.Extends u' := by
  rw [Record.putBack] at hu ⊢
  split at hu
  · simp at hu
  next live hlive =>
  split at hu
  · simp at hu
  next content hread =>
  rw [h.read hread]
  exact h.fill hu

/-- What is undone in a tree is undone in one that holds more. -/
theorem undo_of_extends {rs : List Record} (h : t.Extends t') (hu : undo rs t = .ok u) :
    ∃ u', undo rs t' = .ok u' ∧ u.Extends u' := by
  induction rs generalizing u with
  | nil =>
    obtain rfl := Except.ok.inj hu
    exact ⟨t', rfl, h⟩
  | cons r rs ih =>
    rw [undo] at hu ⊢
    split at hu
    · simp at hu
    next v hv =>
    obtain ⟨v', hv', hext⟩ := ih hv
    rw [hv']
    exact putBack_of_extends hext hu

/-- The record at the end is the first to be undone. -/
theorem undo_concat {rs : List Record} {r : Record} (hr : r.putBack t = .ok t') :
    undo (rs ++ [r]) t = undo rs t' := by
  induction rs with
  | nil => simp [undo, hr]
  | cons r' rs ih => rw [List.cons_append, undo, undo, ih]

end

/-! ## Trees that can be restored -/

namespace Session

/-- The event left a copy at the place `l`, in the tree `t`. -/
def Event.Saves (t : FileTree) (l : Location) : Event → Prop
  | .replace _ (some r) => t.find r.backupPath = .ok l
  | .replaceFailed path e =>
    e.phase = .overwrite ∧ ∃ time n, t.find (path ++ backupSuffix time n) = .ok l
  | _ => False

/-- A copy is at its place as long as the tree keeps its directories. -/
theorem Event.Saves.of_keepsDirectories {t t' : FileTree} {l : Location} {e : Event}
    (h : e.Saves t l) (ht : t.KeepsDirectories t') : e.Saves t' l := by
  cases e with
  | build | select => exact h
  | replace _ record =>
    cases record with
    | none => exact h
    | some r => exact ht.find h
  | replaceFailed path error =>
    obtain ⟨hphase, time, n, h⟩ := h
    exact ⟨hphase, time, n, ht.find h⟩

end Session

/-- The record is of a repair of the file at the place `l`, in the tree `t`. -/
def Repair.Record.IsOf (t : FileTree) (l : Location) (r : Record) : Prop :=
  ∃ live, livePath? r.backupPath = some live ∧ t.find live = .ok l

/-- Nothing has the name of a temporary file of the process. -/
def FileTree.Tidy (t : FileTree) (process : Nat) : Prop :=
  ∀ l n, t.get? (l ++ [n]) ≠ none → ¬(temporarySuffix process).toList <:+ n

/-- The tree `t`, which was `t₀` before the repairs of the records and the events, can be
    restored. The process made the repairs. -/
structure Restorable (process : Nat) (t₀ : FileTree) (events : List Session.Event)
    (records : List Record) (t : FileTree) : Prop where
  undo : ∃ u, undo records t = .ok u ∧ t₀.Extends u
  /-- What changed was repaired. -/
  repaired : ∀ l e, t₀.get? l = some e → t.get? l = some e ∨ ∃ r ∈ records, r.IsOf t l
  /-- What is new is a copy. -/
  saved : ∀ l, t₀.get? l = none → t.get? l ≠ none → ∃ e ∈ events, e.Saves t l
  tidy : t.Tidy process

/-- A tree is tidy if no entry of it has the name of a temporary file. -/
theorem FileTree.tidy_of_entries {t : FileTree} {process : Nat}
    (h : ∀ entry ∈ t.entries, ¬(temporarySuffix process).toList <:+ entry.1.getLastD []) :
    t.Tidy process := by
  intro l n hl
  rw [get?, if_neg (by simp)] at hl
  obtain ⟨e, he⟩ := Option.ne_none_iff_exists'.1 hl
  obtain ⟨before, behind, hsplit, -⟩ := List.lookup_eq_some_iff.1 he
  have hmem := h (l ++ [n], e) (by simp [hsplit])
  simpa using hmem

namespace Restorable

variable {process : Nat} {t₀ t : FileTree} {events : List Session.Event} {records : List Record}

/-- Before any repair, a tidy tree can be restored. -/
theorem start (h : t.Tidy process) : Restorable process t [] [] t :=
  ⟨⟨t, rfl, .refl t⟩, fun _ _ h => .inl h, fun _ h h' => absurd h h', h⟩

/-- Events that change nothing of the tree leave it one that can be restored. -/
theorem noted (h : Restorable process t₀ events records t) (more : List Session.Event) :
    Restorable process t₀ (events ++ more) records t := by
  refine ⟨h.undo, h.repaired, fun l hl hl' => ?_, h.tidy⟩
  obtain ⟨e, he, hsaves⟩ := h.saved l hl hl'
  exact ⟨e, List.mem_append_left _ he, hsaves⟩

end Restorable

section

variable {process : Nat} {t₀ t : FileTree} {events : List Session.Event} {records : List Record}
  {r : Replacement} {p : AbsolutePath} {time : Int} {n mode : Nat} {old new : Bytes}

open Replacement

/-- A copy has not the name of a temporary file. -/
theorem tidy_copied (h : t.Tidy process) : (r.copied p time n t).Tidy process := by
  intro l name hl
  rw [copied, FileTree.get?_put _ (names_beside_ne_nil p _)] at hl
  split at hl
  · next heq =>
    rw [beside, List.append_singleton_inj] at heq
    rintro ⟨s, hs⟩
    exact backup_ne_temporary _ _ time n process (heq.2.symm.trans hs.symm)
  · exact h l name hl

/-- A copy that no record tells of only adds to the tree. -/
theorem Restorable.copied (h : Restorable process t₀ events records t) (hfree : Free p time n t)
    (hr : r.path = p.text) (cause : IoError) :
    Restorable process t₀ (events ++ [.replaceFailed r.path ⟨r.path, .overwrite, cause⟩]) records
      (r.copied p time n t) := by
  have hext : t.Extends (r.copied p time n t) := hfree.extends_copied
  refine ⟨?_, fun l e hl => ?_, fun l hl hl' => ?_, tidy_copied h.tidy⟩
  · obtain ⟨u, hu, hstart⟩ := h.undo
    obtain ⟨u', hu', hmore⟩ := undo_of_extends hext hu
    exact ⟨u', hu', hstart.trans hmore⟩
  · rcases h.repaired l e hl with hkept | ⟨r, hmem, live, hlive, hfind⟩
    · exact .inl (hext.get? l e hkept)
    · exact .inr ⟨r, hmem, live, hlive, hext.keepsDirectories.find hfind⟩
  · by_cases heq : l = (p.beside (backupSuffix time n)).names
    · have hfind := hext.keepsDirectories.find hfree.find
      rw [← hr, ← heq] at hfind
      have hsaves : Session.Event.Saves (r.copied p time n t) l
          (.replaceFailed r.path ⟨r.path, .overwrite, cause⟩) := ⟨rfl, time, n, hfind⟩
      exact ⟨_, List.mem_append_right _ List.mem_cons_self, hsaves⟩
    · rw [Replacement.copied, FileTree.get?_put _ (names_beside_ne_nil p _), if_neg heq] at hl'
      obtain ⟨e, he, hsaves⟩ := h.saved l hl hl'
      exact ⟨e, List.mem_append_left _ he, hsaves.of_keepsDirectories hext.keepsDirectories⟩

/-- What stands where after a repair. -/
theorem get?_done (hlive : t.lookup p.text = .ok (p.names, .file old mode)) (l : Location) :
    ((r.copied p time n t).put p.names (.file new mode)).get? l =
      if l = p.names then some (.file new mode)
      else if l = (p.beside (backupSuffix time n)).names then
        some (.file (bytes r.old) FileTree.newMode)
      else t.get? l := by
  rw [FileTree.get?_put _ (FileTree.ne_nil_of_lookup hlive), copied,
    FileTree.get?_put _ (names_beside_ne_nil p _)]

/-- A repair keeps all directories. -/
theorem keepsDirectories_done (hlive : t.lookup p.text = .ok (p.names, .file old mode))
    (hfree : Free p time n t) :
    t.KeepsDirectories ((r.copied p time n t).put p.names (.file new mode)) := by
  have hcopied : t.Extends (r.copied p time n t) := hfree.extends_copied
  have hget := hcopied.get? _ _ (FileTree.lookup_eq_ok.1 hlive).2
  exact hcopied.keepsDirectories.trans (FileTree.keepsDirectories_put (by simp [hget]) _)

/-- A repaired tree is the tree before, and the copy, once the copy is put back. -/
theorem putBack_record (new : Bytes) (hr : r.path = p.text) (hold : bytes r.old = old)
    (hlive : t.lookup p.text = .ok (p.names, .file old mode)) (hfree : Free p time n t) :
    ∃ u, (r.record (r.path ++ backupSuffix time n)).putBack
        ((r.copied p time n t).put p.names (.file new mode)) = .ok u ∧ t.Extends u := by
  obtain ⟨hfind, hget⟩ := FileTree.lookup_eq_ok.1 hlive
  have hdirs : t.KeepsDirectories ((r.copied p time n t).put p.names (.file new mode)) :=
    keepsDirectories_done hlive hfree
  have hcopy : ((r.copied p time n t).put p.names (.file new mode)).read
      (p.text ++ backupSuffix time n) = .ok old := by
    have hentry : ((r.copied p time n t).put p.names (.file new mode)).get?
        (p.beside (backupSuffix time n)).names = some (.file old FileTree.newMode) := by
      rw [get?_done hlive, if_neg (hfree.ne_of_get? hget).symm, if_pos rfl, hold]
    exact FileTree.read_eq (FileTree.lookup_eq_ok.2 ⟨hdirs.find hfree.find, hentry⟩)
  have hthere : ((r.copied p time n t).put p.names (.file new mode)).lookup p.text =
      .ok (p.names, .file new mode) := by
    refine FileTree.lookup_eq_ok.2 ⟨hdirs.find hfind, ?_⟩
    rw [get?_done hlive, if_pos rfl]
  refine ⟨(r.copied p time n t).put p.names (.file old mode), ?_, rfl, fun l e hl => ?_⟩
  · simp only [Record.putBack, record, hr, livePath?_backup, hcopy]
    rw [FileTree.fill_eq hthere, FileTree.put_put]
  · rw [get?_done hlive]
    split
    · next heq => rw [← hl, heq, hget]
    · rw [if_neg (hfree.ne_of_get? hl)]
      exact hl

/-- A repair that a record tells of can be undone before those that were made earlier. -/
theorem Restorable.done (h : Restorable process t₀ events records t) (hr : r.path = p.text)
    (hold : bytes r.old = old) (hlive : t.lookup p.text = .ok (p.names, .file old mode))
    (hfree : Free p time n t) :
    Restorable process t₀
      (events ++ [.replace r.path (some (r.record (r.path ++ backupSuffix time n)))])
      (records ++ [r.record (r.path ++ backupSuffix time n)])
      ((r.copied p time n t).put p.names (.file new mode)) := by
  obtain ⟨hfind, hget⟩ := FileTree.lookup_eq_ok.1 hlive
  have hdirs : t.KeepsDirectories ((r.copied p time n t).put p.names (.file new mode)) :=
    keepsDirectories_done hlive hfree
  refine ⟨?_, fun l e hl => ?_, fun l hl hl' => ?_, fun l name hl => ?_⟩
  · -- Undoing this repair first leads to a tree that holds all that there was before.
    obtain ⟨v, hv, hext⟩ := putBack_record new hr hold hlive hfree
    obtain ⟨u, hu, hstart⟩ := h.undo
    obtain ⟨u', hu', hmore⟩ := undo_of_extends hext hu
    exact ⟨u', by rw [undo_concat hv, hu'], hstart.trans hmore⟩
  · -- The record is of the file that was repaired; all else is as it was before.
    by_cases heq : l = p.names
    · refine .inr ⟨_, List.mem_append_right _ List.mem_cons_self, p.text, ?_, ?_⟩
      · rw [record, hr, livePath?_backup]
      · rw [heq]
        exact hdirs.find hfind
    · rcases h.repaired l e hl with hkept | ⟨r', hmem, live, hlive', hfind'⟩
      · left
        rw [get?_done hlive, if_neg heq, if_neg (hfree.ne_of_get? hkept)]
        exact hkept
      · exact .inr ⟨r', List.mem_append_left _ hmem, live, hlive', hdirs.find hfind'⟩
  · by_cases heq : l = (p.beside (backupSuffix time n)).names
    · have hsaves : Session.Event.Saves ((r.copied p time n t).put p.names (.file new mode)) l
          (.replace r.path (some (r.record (r.path ++ backupSuffix time n)))) := by
        have hcopy := hdirs.find hfree.find
        rwa [← hr, ← heq] at hcopy
      exact ⟨_, List.mem_append_right _ List.mem_cons_self, hsaves⟩
    · have hl'' : t.get? l ≠ none := by
        rw [get?_done hlive, if_neg heq] at hl'
        split at hl'
        · next heq' => simp [heq', hget]
        · exact hl'
      obtain ⟨e, he, hsaves⟩ := h.saved l hl hl''
      exact ⟨e, List.mem_append_left _ he, hsaves.of_keepsDirectories hdirs⟩
  · -- The file itself was there before, so it has not the name of a temporary file either.
    by_cases heq : l ++ [name] = p.names
    · exact h.tidy l name (by simp [heq, hget])
    · rw [FileTree.get?_put _ (FileTree.ne_nil_of_lookup hlive), if_neg heq] at hl
      exact tidy_copied h.tidy l name hl

/-- Nothing stands where a temporary file is to be. -/
theorem FileTree.Tidy.get?_temporary (h : t.Tidy process) (p : AbsolutePath) :
    t.get? (p.beside (temporarySuffix process)).names = none := by
  by_contra hsome
  exact h _ _ hsome ⟨_, rfl⟩

end

/-! ## Sessions -/

namespace Session

/-- The record of a repair, if one was made. -/
def Result.record? : Result → Option Record
  | .fixed r => some r
  | _ => none

@[simp]
theorem Result.record?_because (reason : Reason) (detail : String) :
    (because reason detail).record? = none := rfl

/-- The records of the books are those of the results. -/
theorem State.fixed_book (s : State) (d : Diagnostic) (r : Result) :
    (s.book d r).fixed = s.fixed ++ r.record?.toList := by
  cases r <;> simp [book, bookFixed, bookUnfixed, Result.record?]

/-- A session that came from the world `w₀` to `w` with the given log, and nothing but the
    tree made its steps fail, can be undone. -/
structure Undoable (w₀ : World) (log : Log) (w : World) : Prop where
  faults : ∀ i, w.faults.answer i = Faults.none
  process : w.process = w₀.process
  tree : ∃ events, w.journal = w₀.journal ++ events ∧
    Restorable w₀.process w₀.tree events (State.ofLog log).fixed w.tree

section

variable {root : AbsolutePath} {w₀ w w' : World} {log : Log} {d : Diagnostic}

/-- A replacement of what was just read comes to one of the five things. -/
theorem settled_of_replaced {p : AbsolutePath} {content : String} {o : Outcome} {w₁ w₂ : World}
    {result : Except ReplaceFailure (Option Record)} (hp : p.Normal)
    (hf : ∀ i, w.faults.answer i = Faults.none) (htidy : w.tree.Tidy w.process)
    {old : Bytes} {mode : Nat} (hlive : w.tree.lookup p.text = .ok (p.names, .file old mode))
    (hs : w.Selected d content o w₁) (hr : w₁.Replaced (replacement p d content o) result w₂) :
    ∃ time, Replacement.Settled (replacement p d content o) w.process p mode time w.tree
      (result, w₂.tree) := by
  have happlied := hr.applied
  rw [World.applied, hs.process, hs.faults, hs.tree, hs.clock, hf] at happlied
  rw [← happlied]
  exact ⟨_, Replacement.apply_settled hp rfl hlive (htidy.get?_temporary p)⟩

/-- The tree of a session that can be undone is tidy. -/
theorem Undoable.tidy (h : Undoable w₀ log w) : w.tree.Tidy w.process := by
  obtain ⟨events, -, htree⟩ := h.tree
  rw [h.process]
  exact htree.tidy

/-- Work on a diagnostic leads from a session that can be undone to another. -/
theorem undoable_of_attempt {result : Result} (hroot : root.Normal) (h : Undoable w₀ log w)
    (ha : attempt root d w = (.ok result, w')) : Undoable w₀ (log ++ [(d, result)]) w' := by
  have hcases := ha ▸ attempted root d w
  have htidy := h.tidy
  obtain ⟨hf, hprocess, events, hjournal, htree⟩ := h
  refine ⟨?_, ?_, ?_⟩
  · cases hcases with
    | outOfScope | unread => exact hf
    | unchanged _ _ hs _ => simpa only [hs.faults] using hf
    | replaced _ _ hs _ hr | failed _ _ hs _ hr =>
      rw [hr.faults, hs.faults]
      exact hf
  · rw [process_of_attempt ha, hprocess]
  rw [State.ofLog_append, State.fixed_book]
  cases hcases with
  | outOfScope | unread => exact ⟨events, hjournal, by simpa using htree⟩
  | unchanged _ _ hs _ =>
    refine ⟨events ++ [_], by rw [hs.journal, hjournal, List.append_assoc], ?_⟩
    rw [hs.tree]
    simpa [Result.record?] using htree.noted _
  | @replaced p content o w₁ _ record hpath hread hs _ hr =>
    have hp := hroot.of_resolve? hpath
    obtain ⟨old, mode, -, hold, hlive⟩ := World.file_of_readText hp hread
    obtain ⟨time, hsettled⟩ := settled_of_replaced hp hf htidy hlive hs hr
    have hselected := htree.noted [.select d o]
    refine ⟨events ++ [.select d o] ++ [.replace p.text record], ?_, ?_⟩
    · rw [hr.journal, hs.journal, hjournal]
      simp [World.eventOf, replacement]
    · -- A record is only made of a replacement that was done.
      generalize w'.tree = t' at hsettled
      cases hsettled with
      | unneeded => simpa [Result.record?] using hselected.noted [.replace p.text none]
      | done n new hfree _ =>
        exact hselected.done (r := replacement p d content o) rfl hold hlive hfree
  | @failed p content o w₁ _ e hpath hread hs _ hr =>
    have hp := hroot.of_resolve? hpath
    obtain ⟨old, mode, -, hold, hlive⟩ := World.file_of_readText hp hread
    obtain ⟨time, hsettled⟩ := settled_of_replaced hp hf htidy hlive hs hr
    have hselected := htree.noted [.select d o]
    refine ⟨events ++ [.select d o] ++ [.replaceFailed p.text e], ?_, ?_⟩
    · rw [hr.journal, hs.journal, hjournal]
      simp [World.eventOf, replacement]
    · rw [Result.record?_because, Option.toList_none, List.append_nil]
      -- A replacement that fails leaves a copy or nothing behind.
      generalize w'.tree = t' at hsettled
      cases hsettled with
      | unsaved => exact hselected.noted _
      | saved n cause hfree =>
        exact hselected.copied (r := replacement p d content o) hfree rfl cause

/-- After a build, a session can be undone as before. -/
theorem undoable_build (h : Undoable w₀ log w) (n : Nat) : Undoable w₀ log (w.build n).2 := by
  obtain ⟨hf, hprocess, events, hjournal, htree⟩ := h
  refine ⟨hf, hprocess, events ++ [.build n], ?_, htree.noted _⟩
  simp [World.build, World.note, hjournal]

/-- What can be undone before a round can be undone after it. -/
theorem Worked.undoable {more : Log} (hroot : root.Normal) (h : Worked root w more w')
    (hw : Undoable w₀ log w) : Undoable w₀ (log ++ more) w' := by
  induction h with
  | nil => simpa using hw
  | snoc _ ha ih =>
    rw [← List.append_assoc]
    exact undoable_of_attempt hroot ih ha

/-- After any rounds, a session can be undone. -/
theorem Rounds.undoable {n : Nat} (hroot : root.Normal) (h : Rounds root w₀ n log w')
    (hf : ∀ i, w₀.faults.answer i = Faults.none) (htidy : w₀.tree.Tidy w₀.process) :
    Undoable w₀ log w' := by
  induction h with
  | start => exact ⟨hf, rfl, [], by simp, .start htidy⟩
  | round _ _ hwork _ ih => exact hwork.undoable hroot (undoable_build ih _)

/-- Work that breaks off leaves a temporary file behind, where nothing was before. -/
theorem temporary_of_attempt {why : Breakage} (hroot : root.Normal) (h : Undoable w₀ log w)
    (ha : attempt root d w = (.error why, w')) :
    ∃ l n, w'.tree.get? (l ++ [n]) = some (.file [] FileTree.newMode) ∧
      (temporarySuffix w.process).toList <:+ n := by
  have hcases := ha ▸ attempted root d w
  cases hcases with
  | @broken p content o w₁ _ _ hpath hread hs _ hr =>
    have hp := hroot.of_resolve? hpath
    obtain ⟨old, mode, -, -, hlive⟩ := World.file_of_readText hp hread
    obtain ⟨time, hsettled⟩ := settled_of_replaced hp h.faults h.tidy hlive hs hr
    generalize w'.tree = t' at hsettled ⊢
    cases hsettled with
    | torn n why hfree _ =>
      refine ⟨p.names.dropLast, p.names.getLastD [] ++ (temporarySuffix w.process).toList, ?_,
        ⟨_, rfl⟩⟩
      exact (FileTree.get?_put _ (names_beside_ne_nil p (temporarySuffix w.process)) _ _).trans
        (if_pos rfl)

/-- A session with a report can be undone by its records. -/
theorem undoable_of_run {maxBuilds : Int} {r : Report} (hroot : root.Normal)
    (hf : ∀ i, w.faults.answer i = Faults.none) (htidy : w.tree.Tidy w.process)
    (hr : (run root maxBuilds w).1 = .ok r) :
    ∃ log, r.fixed = (State.ofLog log).fixed ∧ Undoable w log (run root maxBuilds w).2 := by
  have hended := run_ended root maxBuilds w
  generalize run root maxBuilds w = p at hended hr ⊢
  cases hended with
  | stopped h =>
    obtain rfl := Except.ok.inj hr
    exact ⟨_, rfl, undoable_build (h.undoable hroot hf htidy) _⟩
  | exhausted h =>
    obtain rfl := Except.ok.inj hr
    exact ⟨_, rfl, h.undoable hroot hf htidy⟩
  | broken => simp at hr

/-- A session without a report leaves a temporary file behind, where nothing was before. -/
theorem temporary_of_run {maxBuilds : Int} {why : Breakage} (hroot : root.Normal)
    (hf : ∀ i, w.faults.answer i = Faults.none) (htidy : w.tree.Tidy w.process)
    (hwhy : (run root maxBuilds w).1 = .error why) :
    ∃ l n, w.tree.get? (l ++ [n]) = none ∧
      (run root maxBuilds w).2.tree.get? (l ++ [n]) = some (.file [] FileTree.newMode) ∧
      (temporarySuffix w.process).toList <:+ n := by
  have hended := run_ended root maxBuilds w
  generalize run root maxBuilds w = p at hended hwhy ⊢
  cases hended with
  | stopped | exhausted => simp at hwhy
  | broken h _ _ hwork _ ha =>
    have hlast := hwork.undoable hroot (undoable_build (h.undoable hroot hf htidy) _)
    obtain ⟨l, n, hget, hname⟩ := temporary_of_attempt hroot hlast ha
    rw [hlast.process] at hname
    refine ⟨l, n, ?_, hget, hname⟩
    by_contra hsome
    exact htidy l n hsome hname

end

/-- A session on a directory can be undone, whatever the builds, the answers and the times
    are: its records bring back every file that was there at the start, it repaired every file
    that it changed, and all that is new are its copies. It breaks off without a report exactly
    if it is to write a content that has no bytes, and then leaves a temporary file behind. -/
theorem run_undone (home directory : String) (maxBuilds : Int) (w : World)
    (hfaults : ∀ i, w.faults.answer i = Faults.none) (htidy : w.tree.Tidy w.process) :
    ∃ outcome w', run (absolute home directory) maxBuilds w = (outcome, w') ∧
      (∀ r, outcome = .ok r →
        (∃ u, undo r.fixed w'.tree = .ok u ∧
          ∀ l c mode, w.tree.get? l = some (.file c mode) → u.get? l = some (.file c mode)) ∧
        (∀ l c mode, w.tree.get? l = some (.file c mode) →
          w'.tree.get? l = some (.file c mode) ∨ ∃ record ∈ r.fixed, record.IsOf w'.tree l) ∧
        ∃ events, w'.journal = w.journal ++ events ∧
          ∀ l, w.tree.get? l = none → w'.tree.get? l ≠ none →
            ∃ e ∈ events, e.Saves w'.tree l) ∧
      (w.selector.Textual → ∃ r, outcome = .ok r) ∧
      (∀ why, outcome = .error why ↔ ∃ e, why = .unwritable e ∧ w'.unwritten? = some e) ∧
      ∀ why, outcome = .error why → ∃ l n, w.tree.get? (l ++ [n]) = none ∧
        w'.tree.get? (l ++ [n]) = some (.file [] FileTree.newMode) ∧
        (temporarySuffix w.process).toList <:+ n := by
  have hroot := normal_absolute home directory
  refine ⟨_, _, rfl, fun r hr => ?_, run_eq_ok_of_textual _ maxBuilds,
    run_eq_error_iff _ maxBuilds w, fun why hwhy => temporary_of_run hroot hfaults htidy hwhy⟩
  obtain ⟨log, hfixed, -, -, events, hjournal, htree⟩ := undoable_of_run hroot hfaults htidy hr
  rw [hfixed]
  obtain ⟨u, hu, hext⟩ := htree.undo
  exact ⟨⟨u, hu, fun l c mode => hext.get? l _⟩, fun l c mode => htree.repaired l _,
    events, hjournal, htree.saved⟩

/-- A world with one file that has an unused import, as every build finds. -/
def unused : World where
  process := 4242
  tree := ⟨[([['p']], .directory), ([['p'], "a.ts".toList],
    .file (Utf8.encode "import b from 'c';\n".toList) 0o600)], []⟩
  clock := .always 7
  faults := .always .none
  builder := .given (.always (.ok
    ⟨false, "a.ts\n1:8  Error: 'b' is defined but never used.  no-unused-vars\n", 1, false, none⟩))
  selector := .standard none false
  journal := []

theorem tidy_unused : unused.tree.Tidy unused.process := by
  exact FileTree.tidy_of_entries (by decide)

/-- In the world `unused`, the file is brought back with its content and its mode. -/
theorem run_undone_unused : ∃ r u,
    (run (absolute "/" "p") 3 unused).1 = .ok r ∧
      undo r.fixed (run (absolute "/" "p") 3 unused).2.tree = .ok u ∧
      u.get? [['p'], "a.ts".toList] =
        some (.file (Utf8.encode "import b from 'c';\n".toList) 0o600) := by
  obtain ⟨_, _, h, hreport, htextual, -⟩ :=
    run_undone "/" "p" 3 unused (fun _ => rfl) tidy_unused
  obtain ⟨r, hr⟩ := htextual nofun
  obtain ⟨⟨u, hu, hfiles⟩, -⟩ := hreport r hr
  rw [h]
  exact ⟨r, u, hr, hu, hfiles _ _ _ rfl⟩

/-- The session in the world `torn` leaves no report and a file that is no copy. -/
theorem no_undo_torn :
    (∀ i, torn.faults.answer i = Faults.none) ∧ torn.tree.Tidy torn.process ∧
      (∀ r, (run tornRoot 3 torn).1 ≠ .ok r) ∧
      torn.tree.get? [['p'], "a.ts.tmp.4242".toList] = none ∧
      (run tornRoot 3 torn).2.tree.get? [['p'], "a.ts.tmp.4242".toList] =
        some (.file [] FileTree.newMode) := by
  obtain ⟨w, htree, h⟩ := run_torn
  refine ⟨fun _ => rfl, FileTree.tidy_of_entries (by decide), by simp [h], by rfl, ?_⟩
  rw [h, htree]
  rfl

end Session

end Mender
