import Mender.Proofs.Repair.Replacement

/-!
# Replacements below a directory

What a replacement does below a directory (`Below`) stays there: nothing changes outside,
and what happens inside depends on nothing outside, as paths lead to the directory through
directories only. This holds of every operation on a path that leads below the directory
(`Keeps`), of steps one after another, and so of a replacement (`confined_apply`), whose
copy and temporary file stand beside the file.
-/

namespace Mender

open Text AbsolutePath

/-- The place `l` lies below the place `root`. -/
def Below (root l : Location) : Prop := root <+: l ∧ l ≠ root

theorem Below.ne_nil {root l : Location} (h : Below root l) : l ≠ [] := by
  rintro rfl
  exact h.2 (List.prefix_nil.1 h.1).symm

/-! ## Operations on trees -/

namespace FileTree

/-- The trees agree on `root`, on all that lies below it, and on the way down to it. -/
def AgreeAt (root : Location) (t t' : FileTree) : Prop :=
  ∀ l, root <+: l ∨ l <+: root → t'.get? l = t.get? l

/-- The operation fails alike in trees that agree at `root`, or leads to such trees, and
    changes nothing but what lies below `root`. -/
structure Keeps (root : Location) (operation : FileTree → Except IoError FileTree) : Prop where
  frame : ∀ t u, operation t = .ok u → ∀ l, ¬Below root l → u.get? l = t.get? l
  congr : ∀ t t', AgreeAt root t t' →
    (∃ e, operation t = .error e ∧ operation t' = .error e) ∨
    ∃ u u', operation t = .ok u ∧ operation t' = .ok u' ∧ AgreeAt root u u'

section

variable {root l m : Location} {t t' : FileTree} {p q : AbsolutePath} {e : Entry}

/-- Trees that agree below a root still do when the same is put into both. -/
theorem AgreeAt.put (h : AgreeAt root t t') (hl : l ≠ []) (e : Entry) :
    AgreeAt root (t.put l e) (t'.put l e) := by
  intro m hm
  rw [get?_put _ hl, get?_put _ hl, h m hm]

/-- Trees that agree below a root still do when the same is taken out of both. -/
theorem AgreeAt.erase (h : AgreeAt root t t') (hl : l ≠ []) :
    AgreeAt root (t.erase l) (t'.erase l) := by
  intro m hm
  rw [get?_erase _ hl, get?_erase _ hl, h m hm]

/-- On the way to a place at `root` there are only places that are seen from there. -/
theorem AgreeAt.find (h : AgreeAt root t t') (hp : p.Normal) (hin : root <+: p.names) :
    t'.find p.text = t.find p.text :=
  find_congr hp fun i _ => h _ (List.prefix_or_prefix_of_prefix hin (List.take_prefix i _))

/-- Trees that agree below a root have the same at a path there. -/
theorem AgreeAt.lookup (h : AgreeAt root t t') (hp : p.Normal) (hin : root <+: p.names) :
    t'.lookup p.text = t.lookup p.text := by
  rw [FileTree.lookup, FileTree.lookup, h.find hp hin]
  cases hf : t.find p.text with
  | error c => rfl
  | ok l =>
    obtain rfl := eq_names_of_find hp hf
    simp only [h p.names (.inl hin)]

/-- Trees that agree below a root are read the same at a path there. -/
theorem AgreeAt.read (h : AgreeAt root t t') (hp : p.Normal) (hin : root <+: p.names) :
    t'.read p.text = t.read p.text := by
  rw [FileTree.read, FileTree.read, h.lookup hp hin]

theorem AgreeAt.isPresent (h : AgreeAt root t t') (hp : p.Normal) (hin : root <+: p.names) :
    t'.isPresent p.text = t.isPresent p.text := by
  rw [FileTree.isPresent, FileTree.isPresent, h.lookup hp hin]

theorem get?_put_of_not_below (hm : Below root m) (hl : ¬Below root l) (e : Entry) :
    (t.put m e).get? l = t.get? l := by
  rw [get?_put _ hm.ne_nil, if_neg]
  rintro rfl
  exact hl hm

theorem get?_erase_of_not_below (hm : Below root m) (hl : ¬Below root l) :
    (t.erase m).get? l = t.get? l := by
  rw [get?_erase _ hm.ne_nil, if_neg]
  rintro rfl
  exact hl hm

/-- What a path in normal form leads to stands where its names say. -/
theorem eq_names_of_lookup (hp : p.Normal) (h : t.lookup p.text = .ok (l, e)) : l = p.names :=
  eq_names_of_find hp (lookup_eq_ok.1 h).1

/-- To create a file below a root keeps what is outside, and goes by what is inside. -/
theorem keeps_create (hp : p.Normal) (hb : Below root p.names) : Keeps root (create p.text) := by
  constructor
  · intro t u h l hl
    rw [create] at h
    split at h
    · simp at h
    next hf =>
    obtain rfl := eq_names_of_find hp hf
    split at h
    · simp at h
    · obtain rfl := Except.ok.inj h
      exact get?_put_of_not_below hb hl _
  · intro t t' h
    simp only [create, h.find hp hb.1]
    cases hf : t.find p.text with
    | error c => exact .inl ⟨_, rfl, rfl⟩
    | ok l =>
      obtain rfl := eq_names_of_find hp hf
      simp only [h p.names (.inl hb.1)]
      cases t.get? p.names with
      | some e => exact .inl ⟨_, rfl, rfl⟩
      | none => exact .inr ⟨_, _, rfl, rfl, h.put hb.ne_nil _⟩

theorem keeps_truncate (hp : p.Normal) (hb : Below root p.names) :
    Keeps root (truncate p.text) := by
  constructor
  · intro t u h l hl
    rw [truncate] at h
    split at h
    · simp at h
    · next hlookup =>
      obtain rfl := eq_names_of_lookup hp hlookup
      obtain rfl := Except.ok.inj h
      exact get?_put_of_not_below hb hl _
    · exact (keeps_create hp hb).frame t u h l hl
  · intro t t' h
    simp only [truncate, h.lookup hp hb.1]
    rcases hlookup : t.lookup p.text with c | ⟨l, _ | _⟩
    · -- Nothing is there yet.
      exact (keeps_create hp hb).congr t t' h
    · obtain rfl := eq_names_of_lookup hp hlookup
      exact .inr ⟨_, _, rfl, rfl, h.put hb.ne_nil _⟩
    · exact .inl ⟨_, rfl, rfl⟩

/-- To fill a file below a root keeps what is outside, and goes by what is inside. -/
theorem keeps_fill (hp : p.Normal) (hb : Below root p.names) (content : Bytes) :
    Keeps root (fill p.text content) := by
  constructor
  · intro t u h l hl
    rw [fill] at h
    split at h
    · simp at h
    · simp at h
    · next hlookup =>
      obtain rfl := eq_names_of_lookup hp hlookup
      obtain rfl := Except.ok.inj h
      exact get?_put_of_not_below hb hl _
  · intro t t' h
    simp only [fill, h.lookup hp hb.1]
    rcases hlookup : t.lookup p.text with c | ⟨l, _ | _⟩
    · exact .inl ⟨_, rfl, rfl⟩
    · obtain rfl := eq_names_of_lookup hp hlookup
      exact .inr ⟨_, _, rfl, rfl, h.put hb.ne_nil _⟩
    · exact .inl ⟨_, rfl, rfl⟩

/-- To hand a mode on below a root keeps what is outside, and goes by what is inside. -/
theorem keeps_copyMode (hp : p.Normal) (hin : root <+: p.names) (hq : q.Normal)
    (hb : Below root q.names) : Keeps root (copyMode p.text q.text) := by
  constructor
  · intro t u h l hl
    rw [copyMode] at h
    split at h
    · simp at h
    simp only at h
    split at h
    · simp at h
    · obtain rfl := Except.ok.inj h
      rfl
    · next hlookup =>
      obtain rfl := eq_names_of_lookup hq hlookup
      obtain rfl := Except.ok.inj h
      exact get?_put_of_not_below hb hl _
  · intro t t' h
    simp only [copyMode, h.lookup hp hin, h.lookup hq hb.1]
    rcases t.lookup p.text with c | ⟨l, e⟩
    · exact .inl ⟨_, rfl, rfl⟩
    rcases hlookup : t.lookup q.text with c | ⟨m, _ | _⟩
    · exact .inl ⟨_, rfl, rfl⟩
    · obtain rfl := eq_names_of_lookup hq hlookup
      exact .inr ⟨_, _, rfl, rfl, h.put hb.ne_nil _⟩
    · exact .inr ⟨_, _, rfl, rfl, h⟩

/-- A move below a root keeps what is outside, and goes by what is inside. -/
theorem keeps_move (hp : p.Normal) (hb : Below root p.names) (hq : q.Normal)
    (hb' : Below root q.names) : Keeps root (move p.text q.text) := by
  constructor
  · intro t u h l hl
    rw [move] at h
    split at h
    · simp at h
    next hlookup =>
    obtain rfl := eq_names_of_lookup hp hlookup
    split at h
    · simp at h
    next hf =>
    obtain rfl := eq_names_of_find hq hf
    split at h
    · simp at h
    split at h
    · simp at h
    · obtain rfl := Except.ok.inj h
      rw [get?_put_of_not_below hb' hl, get?_erase_of_not_below hb hl]
  · intro t t' h
    simp only [move, h.lookup hp hb.1, h.find hq hb'.1]
    rcases hlookup : t.lookup p.text with c | ⟨l, e⟩
    · exact .inl ⟨_, rfl, rfl⟩
    obtain rfl := eq_names_of_lookup hp hlookup
    cases hf : t.find q.text with
    | error c => exact .inl ⟨_, rfl, rfl⟩
    | ok m =>
      obtain rfl := eq_names_of_find hq hf
      simp only [h q.names (.inl hb'.1)]
      split
      · exact .inl ⟨_, rfl, rfl⟩
      split
      · exact .inl ⟨_, rfl, rfl⟩
      · exact .inr ⟨_, _, rfl, rfl, (h.erase hb.ne_nil).put hb'.ne_nil _⟩

/-- To remove a file below a root keeps what is outside, and goes by what is inside. -/
theorem keeps_remove (hp : p.Normal) (hb : Below root p.names) : Keeps root (remove p.text) := by
  constructor
  · intro t u h l hl
    rw [remove] at h
    split at h
    · simp at h
    · simp at h
    · next hlookup =>
      obtain rfl := eq_names_of_lookup hp hlookup
      obtain rfl := Except.ok.inj h
      exact get?_erase_of_not_below hb hl
  · intro t t' h
    simp only [remove, h.lookup hp hb.1]
    rcases hlookup : t.lookup p.text with c | ⟨l, _ | _⟩
    · exact .inl ⟨_, rfl, rfl⟩
    · obtain rfl := eq_names_of_lookup hp hlookup
      exact .inr ⟨_, _, rfl, rfl, h.erase hb.ne_nil⟩
    · exact .inl ⟨_, rfl, rfl⟩

end

end FileTree

/-! ## Steps -/

namespace Repair

open FileTree

/-- What the step comes to, and what it does at `root`, depends only on what is there, and
    nothing changes but below `root`. -/
structure Confined {α : Type} (root : Location) (step : FileTree → α × FileTree) : Prop where
  frame : ∀ t l, ¬Below root l → (step t).2.get? l = t.get? l
  congr : ∀ t t', AgreeAt root t t' →
    (step t').1 = (step t).1 ∧ AgreeAt root (step t).2 (step t').2

section

variable {α : Type} {root : Location} {p : AbsolutePath} {r : Replacement} {process : Nat}
  {faults : Faults} {time : Int} {t t' : FileTree}

/-- To do nothing is confined. -/
theorem confined_pure (a : α) : Confined root fun t => (a, t) :=
  ⟨fun _ _ _ => rfl, fun _ _ h => ⟨rfl, h⟩⟩

/-- A step is confined to a root if its operation keeps to it. -/
theorem confined_perform (faults : Faults) {operation : FileTree → Except IoError FileTree}
    (h : Keeps root operation) (step : ReplaceStep) :
    Confined root (perform faults step operation) := by
  constructor
  · intro t l hl
    rw [perform]
    split
    · rfl
    · split
      · next u hu => exact h.frame t u hu l hl
      · rfl
  · intro t t' hagree
    simp only [perform]
    cases faults step with
    | some text => exact ⟨rfl, hagree⟩
    | none =>
      rcases h.congr t t' hagree with ⟨e, he, he'⟩ | ⟨u, u', hu, hu', hagree'⟩
      · rw [he, he']
        exact ⟨rfl, hagree⟩
      · rw [hu, hu']
        exact ⟨rfl, hagree'⟩

/-- Steps that go on after a failure and after success are confined if they all are. -/
theorem Confined.next {step : FileTree → Progress} {failed : IoError → FileTree → α × FileTree}
    {done : FileTree → α × FileTree} (h : Confined root step)
    (hfailed : ∀ e, Confined root (failed e)) (hdone : Confined root done) :
    Confined root fun t =>
      match step t with
      | (some e, t) => failed e t
      | (none, t) => done t := by
  constructor
  · intro t l hl
    have hframe := h.frame t l hl
    rcases hstep : step t with ⟨_ | e, u⟩ <;> simp only [hstep] at hframe ⊢
    · rw [hdone.frame u l hl, hframe]
    · rw [(hfailed e).frame u l hl, hframe]
  · intro t t' hagree
    obtain ⟨heq, hagree'⟩ := h.congr t t' hagree
    rcases hstep : step t with ⟨a, u⟩
    rcases hstep' : step t' with ⟨a', u'⟩
    rw [hstep, hstep'] at heq hagree'
    obtain rfl : a' = a := heq
    cases a' with
    | none => exact hdone.congr u u' hagree'
    | some e => exact (hfailed e).congr u u' hagree'

/-- Two steps are confined to a root if each of them is. -/
theorem Confined.andThen {step next : FileTree → Progress} (h : Confined root step)
    (hnext : Confined root next) : Confined root fun t => (step t).andThen next := by
  have heq : (fun t => (step t).andThen next) = fun t =>
      match step t with
      | (some e, t) => (some e, t)
      | (none, t) => next t := by
    funext t
    rcases step t with ⟨_ | e, u⟩ <;> rfl
  rw [heq]
  exact h.next (fun e => confined_pure (some e)) hnext

/-! ## Replacements -/

theorem below_beside (hb : Below root p.names) (suffix : String) :
    Below root (p.beside suffix).names := by
  have hne := hb.ne_nil
  have hlen := length_names_beside hne suffix
  obtain ⟨rest, hrest⟩ := hb.1
  -- The last name, which becomes another one, is none of those that lead to `root`.
  have hlong : root.length < p.names.length := by
    rw [← hrest, List.length_append]
    have hnil : rest ≠ [] := by
      rintro rfl
      exact hb.2 (by simpa using hrest.symm)
    have := List.length_pos_iff.2 hnil
    omega
  constructor
  · have hdrop : root <+: p.names.dropLast := by
      rw [← hrest] at hlong ⊢
      rw [List.dropLast_append_of_ne_nil]
      · exact List.prefix_append _ _
      · rintro rfl
        simp at hlong
    exact hdrop.trans (List.prefix_append _ _)
  · intro heq
    rw [heq] at hlen
    omega

/-- In trees that agree at `root`, a copy gets the same name. -/
theorem freshBackupName_congr (hp : p.Normal) (hb : Below root p.names)
    (h : AgreeAt root t t') (time : Int) :
    freshBackupName t' p.text time = freshBackupName t p.text time := by
  have hne := hb.ne_nil
  have hpresent : ∀ i, t'.isPresent (p.text ++ backupSuffix time i) =
      t.isPresent (p.text ++ backupSuffix time i) := by
    intro i
    rw [← text_beside hne]
    exact h.isPresent (normal_beside_backup hp hne time i) (below_beside hb _).1
  obtain ⟨n, hname, habsent, hbefore⟩ := freshBackupName_eq t p.text time
  obtain ⟨n', hname', habsent', hbefore'⟩ := freshBackupName_eq t' p.text time
  rw [hname, hname']
  -- A name that is tried earlier in one tree would be free there and taken in the other.
  rcases Nat.lt_trichotomy n n' with hlt | rfl | hlt
  · rw [← hpresent, hbefore' n hlt] at habsent
    simp at habsent
  · rfl
  · rw [hpresent, hbefore n' hlt] at habsent'
    simp at habsent'

/-- The copying is confined to a root above the file. -/
theorem confined_backUp (hp : p.Normal) (hb : Below root p.names) (n : Nat) :
    Confined root (r.backUp faults (p.text ++ backupSuffix time n)) := by
  have hq := normal_beside_backup hp hb.ne_nil time n
  have hbq := below_beside hb (backupSuffix time n)
  rw [← text_beside hb.ne_nil]
  exact (confined_perform faults (keeps_create hq hbq) _).andThen
    (confined_perform faults (keeps_fill hq hbq _) _)

/-- The opening of the temporary file is confined to a root above the file. -/
theorem confined_openTemporary (hp : p.Normal) (hb : Below root p.names) (hr : r.path = p.text) :
    Confined root (r.openTemporary process faults) := by
  have hq := normal_beside_temporary hp hb.ne_nil process
  have hbq := below_beside hb (temporarySuffix process)
  have h := confined_perform faults (keeps_truncate hq hbq) .openTemporary
  rwa [← temporaryName_text hb.ne_nil, ← hr] at h

/-- The overwriting is confined to a root above the file. -/
theorem confined_overwrite (hp : p.Normal) (hb : Below root p.names) (hr : r.path = p.text)
    (new : Bytes) : Confined root (r.overwrite process faults new) := by
  have hq := normal_beside_temporary hp hb.ne_nil process
  have hbq := below_beside hb (temporarySuffix process)
  have hopen : Confined root (r.openTemporary process faults) := confined_openTemporary hp hb hr
  have hfill := confined_perform faults (keeps_fill hq hbq new) .writeTemporary
  have hmode := confined_perform faults (keeps_copyMode hp hb.1 hq hbq) .copyMode
  have hmove := confined_perform faults (keeps_move hq hbq hp hb) .moveIntoPlace
  have h := ((hopen.andThen hfill).andThen hmode).andThen hmove
  rwa [← temporaryName_text hb.ne_nil, ← hr] at h

/-- The clearing up is confined to a root above the file. -/
theorem confined_discard (hp : p.Normal) (hb : Below root p.names) (hr : r.path = p.text)
    (a : α) : Confined root fun t => (a, r.discard process faults t) := by
  have hq := normal_beside_temporary hp hb.ne_nil process
  have hbq := below_beside hb (temporarySuffix process)
  have h := confined_perform faults (keeps_remove hq hbq) .removeTemporary
  rw [← temporaryName_text hb.ne_nil, ← hr] at h
  exact ⟨h.frame, fun t t' hagree => ⟨rfl, (h.congr t t' hagree).2⟩⟩

/-- The replacement, needed and with the copy under the given name. -/
def Replacement.applyNamed (process : Nat) (faults : Faults) (backup : String) (r : Replacement)
    (t : FileTree) : Except ReplaceFailure (Option Record) × FileTree :=
  match r.backUp faults backup t with
  | (some e, t) => (.error (.operation ⟨r.path, .backup, e⟩), t)
  | (none, t) =>
    match r.new.encode with
    | .error why =>
      match r.openTemporary process faults t with
      | (some e, t) => (.error (r.overwriteFailure e), r.discard process faults t)
      | (none, t) => (.error (.broken (.unwritable why)), t)
    | .ok new =>
      match r.overwrite process faults new t with
      | (some e, t) => (.error (r.overwriteFailure e), r.discard process faults t)
      | (none, t) => (.ok (some (r.record backup)), t)

/-- A replacement that is made at a path that is one has the first free name for its copy. -/
theorem Replacement.apply_eq (hneed : r.isNeeded = true) (hnull : '\x00' ∉ r.path.toList)
    (t : FileTree) :
    r.apply process faults time t =
      r.applyNamed process faults (freshBackupName t r.path time) t := by
  rw [apply, hneed, if_neg (by simp), if_neg hnull]
  rfl

/-- A replacement with a given copy is confined to a root above the file. -/
theorem confined_applyNamed (hp : p.Normal) (hb : Below root p.names) (hr : r.path = p.text)
    (n : Nat) : Confined root (r.applyNamed process faults (p.text ++ backupSuffix time n)) := by
  refine (confined_backUp hp hb n).next (fun e => confined_pure _) ?_
  cases r.new.encode with
  | error why =>
    exact (confined_openTemporary hp hb hr).next (fun e => confined_discard hp hb hr _)
      (confined_pure _)
  | ok new =>
    exact (confined_overwrite hp hb hr new).next (fun e => confined_discard hp hb hr _)
      (confined_pure _)

/-- A replacement below `root` is confined to it. -/
theorem confined_apply (hp : p.Normal) (hb : Below root p.names) (hr : r.path = p.text) :
    Confined root (r.apply process faults time) := by
  cases hneed : r.isNeeded with
  | false =>
    have heq : r.apply process faults time = fun t => (.ok none, t) := by
      funext t
      simp [Replacement.apply, hneed]
    rw [heq]
    exact confined_pure _
  | true =>
    by_cases hnull : '\x00' ∈ r.path.toList
    · have heq : r.apply process faults time = fun t => (.error (.broken .nullByte), t) :=
        funext fun t => Replacement.apply_of_mem hneed hnull
      rw [heq]
      exact confined_pure _
    -- The name of the copy depends on the tree, so the steps are confined once it is known.
    constructor
    · intro t l hl
      obtain ⟨n, hname, -, -⟩ := freshBackupName_eq t p.text time
      rw [Replacement.apply_eq hneed hnull, hr, hname]
      exact (confined_applyNamed hp hb hr n).frame t l hl
    · intro t t' hagree
      obtain ⟨n, hname, -, -⟩ := freshBackupName_eq t p.text time
      rw [Replacement.apply_eq hneed hnull, Replacement.apply_eq hneed hnull, hr,
        freshBackupName_congr hp hb hagree, hname]
      exact (confined_applyNamed hp hb hr n).congr t t' hagree

end

end Repair

end Mender
