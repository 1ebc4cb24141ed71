import Mender.Proofs.FileTree

/-!
# Neighbours

A path with a few more characters behind it leads to a place in the same directory: the
one that the path goes through last (`FileTree.above`). Neither is this the place that the
path itself leads to (`ne_of_find_append`), nor do different characters lead to the same
place (`ne_of_find_appends`). All this holds of any path, be it empty, or ending in a slash
or in `..`.

Operations on files change what stands where their paths lead, and take no directory away
(`ChangesOnly`). Hence what happens beside a path does not show where it leads
(`ChangesOnly.lookup_eq`).
-/

namespace Mender

open Text

/-- The characters make another name of every name. -/
structure IsSuffix (s : String) : Prop where
  /-- Longer than `..`, so that no name leads up. -/
  long : 3 ≤ s.toList.length
  no_slash : '/' ∉ s.toList

/-- The path `q` is `path` with characters behind it. -/
def IsNeighbour (path q : String) : Prop := ∃ s, IsSuffix s ∧ q = path ++ s

/-- What stands behind the last slash of a path. -/
def lastName (path : String) : Name := (fields '/' path.toList).getLastD []

theorem fields_eq_concat (path : String) :
    fields '/' path.toList = (fields '/' path.toList).dropLast ++ [lastName path] := by
  have hne := fields_ne_nil '/' path.toList
  rw [lastName, List.getLastD_eq_getLast?, List.getLast?_eq_some_getLast hne, Option.getD_some,
    List.dropLast_append_getLast hne]

/-- Characters without a slash go into the last name. -/
theorem fields_append_suffix (path : String) {s : String} (hs : '/' ∉ s.toList) :
    fields '/' (path ++ s).toList =
      (fields '/' path.toList).dropLast ++ [lastName path ++ s.toList] := by
  have hjoin : (path ++ s).toList =
      joined ['/'] ((fields '/' path.toList).dropLast ++ [lastName path ++ s.toList]) := by
    rw [AbsolutePath.joined_append_singleton, ← fields_eq_concat, joined_fields,
      String.toList_append]
  have hmem : ∀ f ∈ fields '/' path.toList, '/' ∉ f := fun f => not_mem_of_mem_fields
  rw [hjoin, fields_joined (by simp)]
  intro f hf
  rcases List.mem_append.1 hf with hf | hf
  · exact hmem f (List.mem_of_mem_dropLast hf)
  · rw [List.mem_singleton.1 hf, List.mem_append, not_or]
    refine ⟨hmem _ ?_, hs⟩
    rw [fields_eq_concat]
    simp

theorem lastName_append (path : String) {s : String} (hs : '/' ∉ s.toList) :
    lastName (path ++ s) = lastName path ++ s.toList := by
  rw [lastName, fields_append_suffix path hs, List.getLastD_concat]

namespace FileTree

variable {t t' : FileTree} {l m : Location} {path s s' : String}

/-! ## The directory above -/

/-- Where a path leads, its last name left out. -/
def above (t : FileTree) (path : String) : Except IoCause Location :=
  t.follow (if path.toList.head? = some '/' then [] else t.home)
    (fields '/' path.toList).dropLast

theorem above_append (t : FileTree) (path : String) (hs : '/' ∉ s.toList) :
    t.above (path ++ s) = t.above path := by
  have hhead : (path ++ s).toList.head? = some '/' ↔ path.toList.head? = some '/' := by
    rw [String.toList_append]
    cases path.toList with
    | nil =>
      refine iff_of_false (fun h => hs ?_) (by simp)
      exact List.mem_of_mem_head? h
    | cons c cs => simp
  rw [above, above, fields_append_suffix path hs, List.dropLast_concat]
  simp only [hhead]

/-- A path is found by going to the directory above, and from there by the last name. -/
theorem find_eq_above (t : FileTree) (hne : path ≠ "") :
    t.find path =
      if '\x00' ∈ path.toList then .error .nullByte
      else if maxPath < (Utf8.encode path.toList).length then .error .nameTooLong
      else t.above path >>= fun m => t.follow m [lastName path] := by
  have hnil : path.toList ≠ [] := fun h => hne (String.toList_injective h)
  rw [find, above, ← follow_append, ← fields_eq_concat]
  simp only [hnil, if_false]

/-- Where a name leads depends on the directory only. -/
theorem follow_singleton_congr (h : t'.get? m = t.get? m) (n : Name) :
    t'.follow m [n] = t.follow m [n] := by
  simp only [follow, h]

/-! ## Paths with characters behind them -/

theorem append_ne_empty (hs : IsSuffix s) (path : String) : path ++ s ≠ "" := by
  intro h
  have hlong := hs.long
  have hlen := congrArg (fun s : String => s.toList.length) h
  simp only [String.toList_append, List.length_append, String.toList_empty, List.length_nil]
    at hlen
  omega

/-- A name with characters behind it leads down. -/
theorem isName_append (hs : IsSuffix s) (path : String) :
    IsName (lastName path ++ s.toList) := by
  have hlong := hs.long
  have hlen : 3 ≤ (lastName path ++ s.toList).length := by
    rw [List.length_append]
    omega
  have hmem : lastName path ∈ fields '/' path.toList := by
    rw [fields_eq_concat]
    simp
  refine ⟨?_, ?_, ?_, by simp [hs.no_slash, not_mem_of_mem_fields hmem]⟩ <;> intro heq <;>
    rw [heq] at hlen <;> simp at hlen

/-- With characters behind it, a path leads from the directory above down to another
    name. -/
theorem find_append (hs : IsSuffix s) (h : t.find (path ++ s) = .ok l) :
    ∃ m, t.above path = .ok m ∧ t.get? m = some .directory ∧
      l = m ++ [lastName path ++ s.toList] := by
  rw [find_eq_above t (append_ne_empty hs path), above_append t path hs.no_slash,
    lastName_append path hs.no_slash] at h
  split at h
  · simp at h
  split at h
  · simp at h
  cases ha : t.above path with
  | error c => simp [ha, Bind.bind, Except.bind] at h
  | ok m =>
    simp only [ha, Bind.bind, Except.bind] at h
    obtain ⟨rfl, hdir⟩ := follow_eq_ok (by simpa using isName_append hs path) h
    exact ⟨m, rfl, by simpa using hdir 0 (by simp), rfl⟩

/-- Different characters lead to different places. -/
theorem ne_of_find_appends (hs : IsSuffix s) (hs' : IsSuffix s') (hne : s ≠ s')
    (h : t.find (path ++ s) = .ok l) (h' : t.find (path ++ s') = .ok m) : l ≠ m := by
  obtain ⟨k, ha, -, rfl⟩ := find_append hs h
  obtain ⟨k', ha', -, rfl⟩ := find_append hs' h'
  obtain rfl := Except.ok.inj (ha.symm.trans ha')
  intro heq
  refine hne (String.toList_injective ?_)
  simpa using heq

/-- Characters lead away from where the path itself leads. -/
theorem ne_of_find_append (hs : IsSuffix s) (h : t.find path = .ok l)
    (h' : t.find (path ++ s) = .ok m) : l ≠ m := by
  obtain ⟨k, ha, hdir, rfl⟩ := find_append hs h'
  have hne : path ≠ "" := by
    rintro rfl
    simp [find] at h
  rw [find_eq_above t hne] at h
  split at h
  · simp at h
  split at h
  · simp at h
  simp only [ha, Bind.bind, Except.bind, follow, hdir] at h
  have hlong := hs.long
  rintro rfl
  -- The path stays in the directory above, leads up from it, or down to a shorter name.
  repeat' split at h
  · simpa using congrArg List.length (Except.ok.inj h)
  · have := congrArg List.length (Except.ok.inj h)
    simp only [List.length_dropLast, List.length_append, List.length_singleton] at this
    omega
  · simp at h
  · have hname := List.append_cancel_left (Except.ok.inj h)
    simp only [List.cons.injEq, and_true] at hname
    have := congrArg List.length hname
    rw [List.length_append] at this
    omega

/-! ## Trees that differ at the ends of paths -/

/-- The trees have the same directories, and all that stands in them elsewhere than where
    the paths lead. -/
structure ChangesOnly (paths : List String) (t t' : FileTree) : Prop where
  home : t'.home = t.home
  directory : ∀ l, t'.get? l = some .directory ↔ t.get? l = some .directory
  get? : ∀ l, t'.get? l ≠ t.get? l → ∃ path ∈ paths, t.find path = .ok l

variable {paths paths' : List String}

namespace ChangesOnly

theorem refl (paths : List String) (t : FileTree) : ChangesOnly paths t t :=
  ⟨rfl, fun _ => Iff.rfl, fun _ h => absurd rfl h⟩

theorem mono (h : ChangesOnly paths t t') (hsub : paths ⊆ paths') : ChangesOnly paths' t t' := by
  refine ⟨h.home, h.directory, fun l hl => ?_⟩
  obtain ⟨path, hpath, hf⟩ := h.get? l hl
  exact ⟨path, hsub hpath, hf⟩

/-- All paths lead to the same places. -/
theorem find_eq_ok (h : ChangesOnly paths t t') {path : String} :
    t'.find path = .ok l ↔ t.find path = .ok l :=
  ⟨KeepsDirectories.find ⟨h.home.symm, fun l => (h.directory l).1⟩,
    KeepsDirectories.find ⟨h.home, fun l => (h.directory l).2⟩⟩

theorem trans {t'' : FileTree} (h : ChangesOnly paths t t') (h' : ChangesOnly paths t' t'') :
    ChangesOnly paths t t'' := by
  refine ⟨h'.home.trans h.home, fun l => (h'.directory l).trans (h.directory l), fun l hl => ?_⟩
  by_cases hmid : t'.get? l = t.get? l
  · obtain ⟨path, hpath, hf⟩ := h'.get? l (hmid ▸ hl)
    exact ⟨path, hpath, h.find_eq_ok.1 hf⟩
  · exact h.get? l hmid

/-- A place where none of the paths leads is as it was. -/
theorem get?_eq (h : ChangesOnly paths t t') (hl : ∀ path ∈ paths, t.find path ≠ .ok l) :
    t'.get? l = t.get? l := by
  by_contra hne
  obtain ⟨path, hpath, hf⟩ := h.get? l hne
  exact hl path hpath hf

theorem put (hf : t.find path = .ok l) (hl : t.get? l ≠ some .directory) (c : Bytes) (mode : Nat) :
    ChangesOnly [path] t (t.put l (.file c mode)) := by
  have hget := get?_put t (ne_nil_of_get? hl) (.file c mode)
  refine ⟨rfl, fun m => ?_, fun m hm => ⟨path, by simp, ?_⟩⟩ <;> by_cases heq : m = l
  · simp [hget, heq, hl]
  · simp [hget, heq]
  · rw [hf, heq]
  · simp [hget, heq] at hm

theorem put_of_lookup {c : Bytes} {mode : Nat} (h : t.lookup path = .ok (l, .file c mode))
    (c' : Bytes) (mode' : Nat) : ChangesOnly [path] t (t.put l (.file c' mode')) := by
  obtain ⟨hf, hget⟩ := lookup_eq_ok.1 h
  exact .put hf (by simp [hget]) _ _

theorem erase {c : Bytes} {mode : Nat} (h : t.lookup path = .ok (l, .file c mode)) :
    ChangesOnly [path] t (t.erase l) := by
  obtain ⟨hf, hl⟩ := lookup_eq_ok.1 h
  have hget := get?_erase t (ne_nil_of_lookup h)
  refine ⟨rfl, fun m => ?_, fun m hm => ⟨path, by simp, ?_⟩⟩ <;> by_cases heq : m = l
  · simp [hget, heq, hl]
  · simp [hget, heq]
  · rw [hf, heq]
  · simp [hget, heq] at hm

/-- What stands elsewhere is still found. -/
theorem lookup_of_ne (h : ChangesOnly paths t t') {e : Entry} (hl : t.lookup path = .ok (l, e))
    (hne : ∀ q ∈ paths, t.find q ≠ .ok l) : t'.lookup path = .ok (l, e) := by
  rw [lookup_eq_ok] at hl ⊢
  rw [h.find_eq_ok, h.get?_eq hne]
  exact hl

theorem isDirectory_iff (h : ChangesOnly paths t t') (path : String) :
    t'.isDirectory path = true ↔ t.isDirectory path = true := by
  have hiff : ∀ t : FileTree, t.isDirectory path = true ↔
      ∃ l, t.lookup path = .ok (l, .directory) := by
    intro t
    rw [isDirectory]
    split
    · next l hl => simp [hl]
    · next hne => simpa using hne
  simp only [hiff, lookup_eq_ok, h.find_eq_ok, h.directory]

/-- Beside a path, nothing changes where it leads, with other characters behind it or
    none. -/
theorem find_eq (h : ChangesOnly paths t t')
    (hpaths : ∀ q ∈ paths, IsNeighbour path q) (hs : '/' ∉ s.toList) :
    t'.find (path ++ s) = t.find (path ++ s) := by
  by_cases hempty : path ++ s = ""
  · rw [hempty]
    simp [find]
  by_cases hq : ∃ q ∈ paths, ∃ l, t.find q = .ok l
  · -- All these paths go through one directory, which is still there.
    obtain ⟨q, hq, l, hl⟩ := hq
    obtain ⟨sq, hsq, rfl⟩ := hpaths q hq
    obtain ⟨m, ha, hm, rfl⟩ := find_append hsq hl
    obtain ⟨m', ha', -, heq⟩ := find_append hsq (h.find_eq_ok.2 hl)
    obtain rfl : m = m' := List.append_cancel_right heq
    rw [find_eq_above t hempty, find_eq_above t' hempty, above_append t path hs,
      above_append t' path hs, ha, ha']
    simp only [Bind.bind, Except.bind,
      follow_singleton_congr (((h.directory m).2 hm).trans hm.symm)]
  · -- None of the paths leads anywhere, so the trees do not differ at all.
    push Not at hq
    have hget : t'.get? = t.get? := funext fun l => h.get?_eq fun q hq' => hq q hq' l
    have hfollow : ∀ ns l, t'.follow l ns = t.follow l ns := by
      intro ns
      induction ns with
      | nil => exact fun _ => rfl
      | cons n ns ih => simp only [follow, hget, ih, implies_true]
    simp only [find, hfollow, h.home]

/-- What happens beside a path is not seen where it leads with other characters behind it. -/
theorem lookup_append_eq (h : ChangesOnly paths t t')
    (hpaths : ∀ q ∈ paths, IsNeighbour path q) (hs : '/' ∉ s.toList)
    (hne : ∀ q ∈ paths, ∀ l, t.find (path ++ s) = .ok l → t.find q ≠ .ok l) :
    t'.lookup (path ++ s) = t.lookup (path ++ s) := by
  rw [lookup, lookup, h.find_eq hpaths hs]
  cases hf : t.find (path ++ s) with
  | error c => rfl
  | ok l => simp only [h.get?_eq fun q hq => hne q hq l hf]

/-- What happens beside a path is not seen where it leads. -/
theorem lookup_eq (h : ChangesOnly paths t t') (hpaths : ∀ q ∈ paths, IsNeighbour path q) :
    t'.lookup path = t.lookup path := by
  have hlookup := h.lookup_append_eq hpaths (s := "") (by simp) fun q hq l hl hq' => by
    obtain ⟨s, hs, rfl⟩ := hpaths q hq
    rw [String.append_empty] at hl
    exact ne_of_find_append hs hl hq' rfl
  rwa [String.append_empty] at hlookup

end ChangesOnly

/-! ## Operations that succeed -/

theorem lookup_put (hf : t.find path = .ok l) (hl : t.get? l ≠ some .directory) (c : Bytes)
    (mode : Nat) : (t.put l (.file c mode)).lookup path = .ok (l, .file c mode) := by
  rw [lookup_eq_ok, (ChangesOnly.put hf hl c mode).find_eq_ok, get?_put t (ne_nil_of_get? hl)]
  exact ⟨hf, if_pos rfl⟩

theorem lookup_put_of_lookup {c : Bytes} {mode : Nat}
    (h : t.lookup path = .ok (l, .file c mode)) (c' : Bytes) (mode' : Nat) :
    (t.put l (.file c' mode')).lookup path = .ok (l, .file c' mode') := by
  obtain ⟨hf, hget⟩ := lookup_eq_ok.1 h
  exact lookup_put hf (by simp [hget]) _ _

/-- Nothing is found where nothing stands. -/
theorem isPresent_eq_false (hf : t.find path = .ok l) (hl : t.get? l = none) :
    t.isPresent path = false := by
  rw [isPresent, lookup_of_get?_eq_none hf hl]

theorem isPresent_erase {c : Bytes} {mode : Nat} (h : t.lookup path = .ok (l, .file c mode)) :
    (t.erase l).isPresent path = false := by
  have hf := (ChangesOnly.erase h).find_eq_ok.2 (lookup_eq_ok.1 h).1
  refine isPresent_eq_false hf ?_
  rw [get?_erase _ (ne_nil_of_lookup h), if_pos rfl]

theorem of_create {u : FileTree} (h : t.create path = .ok u) :
    ∃ l, t.find path = .ok l ∧ t.get? l = none ∧ u = t.put l (.file [] newMode) := by
  rw [create] at h
  split at h
  · simp at h
  next l hf =>
  split at h
  · simp at h
  next hl => exact ⟨l, hf, hl, (Except.ok.inj h).symm⟩

theorem changesOnly_create {u : FileTree} (h : t.create path = .ok u) : ChangesOnly [path] t u := by
  obtain ⟨l, hf, hl, rfl⟩ := of_create h
  exact .put hf (by simp [hl]) _ _

theorem of_truncate {u : FileTree} (h : t.truncate path = .ok u) :
    ∃ l mode, t.find path = .ok l ∧ t.get? l ≠ some .directory ∧
      u = t.put l (.file [] mode) := by
  rw [truncate] at h
  split at h
  · simp at h
  · next l c mode hl =>
    obtain ⟨hf, hget⟩ := lookup_eq_ok.1 hl
    exact ⟨l, mode, hf, by simp [hget], (Except.ok.inj h).symm⟩
  · obtain ⟨l, hf, hl, hu⟩ := of_create h
    exact ⟨l, newMode, hf, by simp [hl], hu⟩

theorem changesOnly_truncate {u : FileTree} (h : t.truncate path = .ok u) :
    ChangesOnly [path] t u := by
  obtain ⟨l, mode, hf, hl, rfl⟩ := of_truncate h
  exact .put hf hl _ _

theorem of_fill {u : FileTree} {content : Bytes} (h : t.fill path content = .ok u) :
    ∃ l c mode, t.lookup path = .ok (l, .file c mode) ∧ u = t.put l (.file content mode) := by
  rw [fill] at h
  split at h
  · simp at h
  · simp at h
  · next l c mode hl => exact ⟨l, c, mode, hl, (Except.ok.inj h).symm⟩

/-- A file that is filled is found with the new content. -/
theorem lookup_of_fill {u : FileTree} {content : Bytes} (h : t.fill path content = .ok u) :
    ∃ l c mode, t.lookup path = .ok (l, .file c mode) ∧
      u.lookup path = .ok (l, .file content mode) := by
  obtain ⟨l, c, mode, hl, rfl⟩ := of_fill h
  exact ⟨l, c, mode, hl, lookup_put_of_lookup hl _ _⟩

theorem changesOnly_fill {u : FileTree} {content : Bytes} (h : t.fill path content = .ok u) :
    ChangesOnly [path] t u := by
  obtain ⟨l, c, mode, hl, rfl⟩ := of_fill h
  exact .put_of_lookup hl _ _

theorem changesOnly_write {u : FileTree} {content : Bytes} (h : t.write path content = .ok u) :
    ChangesOnly [path] t u := by
  rw [write] at h
  split at h
  · simp at h
  · next hopen => exact (changesOnly_truncate hopen).trans (changesOnly_fill h)

/-- The path leads to a place where a file stands or can be made. -/
def IsWritable (t : FileTree) (path : String) : Prop :=
  ∃ l, t.find path = .ok l ∧ t.get? l ≠ some .directory

theorem truncate_eq (hf : t.find path = .ok l) (hl : t.get? l ≠ some .directory) :
    ∃ mode, t.truncate path = .ok (t.put l (.file [] mode)) := by
  cases he : t.get? l with
  | none =>
    refine ⟨newMode, ?_⟩
    rw [truncate, lookup_of_get?_eq_none hf he]
    simp [create, hf, he]
  | some e =>
    cases e with
    | directory => exact absurd he hl
    | file c mode =>
      refine ⟨mode, ?_⟩
      rw [truncate, lookup_eq_ok.2 ⟨hf, he⟩]

/-- What is written is read, where a file can be written. -/
theorem exists_write (h : t.IsWritable path) (content : Bytes) :
    ∃ u, t.write path content = .ok u ∧ u.read path = .ok content := by
  obtain ⟨l, hf, hl⟩ := h
  obtain ⟨mode, hopen⟩ := truncate_eq hf hl
  refine ⟨t.put l (.file content mode), ?_, read_eq (lookup_put hf hl content mode)⟩
  rw [write, hopen]
  simp only [fill_eq (lookup_put hf hl [] mode), put_put]

/-- The mode that is copied from an entry. -/
def copiedMode : Entry → Nat
  | .file _ mode => mode
  | .directory => directoryMode

theorem of_copyMode {source target : String} {u : FileTree}
    (h : t.copyMode source target = .ok u) :
    ∃ m e, t.lookup source = .ok (m, e) ∧
      ((∃ l, t.lookup target = .ok (l, .directory)) ∧ u = t ∨
        ∃ l c mode, t.lookup target = .ok (l, .file c mode) ∧
          u = t.put l (.file c (copiedMode e))) := by
  rw [copyMode] at h
  split at h
  · simp at h
  next m e hsource =>
  refine ⟨m, e, hsource, ?_⟩
  simp only at h
  split at h
  · simp at h
  · next l hl => exact .inl ⟨⟨l, hl⟩, (Except.ok.inj h).symm⟩
  · next l c mode hl => exact .inr ⟨l, c, mode, hl, (Except.ok.inj h).symm⟩

theorem changesOnly_copyMode {source target : String} {u : FileTree}
    (h : t.copyMode source target = .ok u) : ChangesOnly [target] t u := by
  obtain ⟨m, e, -, ⟨-, rfl⟩ | ⟨l, c, mode, hl, rfl⟩⟩ := of_copyMode h
  · exact .refl _ _
  · exact .put_of_lookup hl _ _

theorem of_move {source target : String} {u : FileTree} (h : t.move source target = .ok u) :
    ∃ l e m, t.lookup source = .ok (l, e) ∧ t.find target = .ok m ∧
      t.get? m ≠ some .directory ∧ u = (t.erase l).put m e := by
  rw [move] at h
  split at h
  · simp at h
  next l e hsource =>
  split at h
  · simp at h
  next m hm =>
  split at h
  · simp at h
  split at h
  · simp at h
  next hdir => exact ⟨l, e, m, hsource, hm, hdir, (Except.ok.inj h).symm⟩

/-- A file that is moved to another place is found there, and no longer where it was. -/
theorem lookup_of_move {source target : String} {u : FileTree} {c : Bytes} {mode : Nat}
    (h : t.move source target = .ok u) (hl : t.lookup source = .ok (l, .file c mode))
    (hne : t.find target ≠ .ok l) :
    ∃ m, t.find target = .ok m ∧ t.get? m ≠ some .directory ∧
      u.lookup target = .ok (m, .file c mode) ∧ u.isPresent source = false ∧
      ChangesOnly [source, target] t u := by
  obtain ⟨l', e, m, hsource, hm, hdir, rfl⟩ := of_move h
  obtain ⟨rfl, rfl⟩ : l = l' ∧ .file c mode = e := by simpa [hl] using hsource
  have herase := ChangesOnly.erase hl
  have hm' := herase.find_eq_ok.2 hm
  have hdir' : (t.erase l).get? m ≠ some .directory := fun h => hdir ((herase.directory m).1 h)
  have hput := ChangesOnly.put hm' hdir' c mode
  have hchanges : ChangesOnly [source, target] t ((t.erase l).put m (.file c mode)) :=
    (herase.mono (by simp)).trans (hput.mono (by simp))
  refine ⟨m, hm, hdir, lookup_put hm' hdir' c mode, ?_, hchanges⟩
  have hlm : l ≠ m := fun heq => hne (heq ▸ hm)
  refine isPresent_eq_false (hchanges.find_eq_ok.2 (lookup_eq_ok.1 hl).1) ?_
  rw [get?_put _ (ne_nil_of_get? hdir'), if_neg hlm, get?_erase _ (ne_nil_of_lookup hl),
    if_pos rfl]

theorem of_remove {u : FileTree} (h : t.remove path = .ok u) :
    ∃ l c mode, t.lookup path = .ok (l, .file c mode) ∧ u = t.erase l := by
  rw [remove] at h
  split at h
  · simp at h
  · simp at h
  · next l c mode hl => exact ⟨l, c, mode, hl, (Except.ok.inj h).symm⟩

theorem changesOnly_remove {u : FileTree} (h : t.remove path = .ok u) : ChangesOnly [path] t u := by
  obtain ⟨l, c, mode, hl, rfl⟩ := of_remove h
  exact .erase hl

/-- A file that is removed is no longer found. -/
theorem isPresent_of_remove {u : FileTree} (h : t.remove path = .ok u) :
    u.isPresent path = false := by
  obtain ⟨l, c, mode, hl, rfl⟩ := of_remove h
  exact isPresent_erase hl

end FileTree

end Mender
