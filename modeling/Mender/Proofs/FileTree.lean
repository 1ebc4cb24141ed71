import Mender.FileTree
import Mender.Proofs.Path

/-!
# Paths in file trees

A normal path leads to the place of its names, and whether it does so depends only on what
stands above that place (`find_congr`). Paths side by side differ only in how long they
are (`find_beside`).

A tree that extends another (`Extends`) has all that this one has, and every file is read
and filled in it as in that one.
-/

namespace Mender.FileTree

open Text AbsolutePath

variable {t t' : FileTree} {l m : Location} {p q : AbsolutePath}

@[simp]
theorem get?_nil (t : FileTree) : t.get? [] = some .directory := by simp [get?]

/-! ## Following names -/

/-- Names are followed one part after the other. -/
theorem follow_append (t : FileTree) (ns ns' : List Name) (l : Location) :
    t.follow l (ns ++ ns') = t.follow l ns >>= fun m => t.follow m ns' := by
  induction ns generalizing l with
  | nil => rfl
  | cons n ns ih =>
    simp only [List.cons_append, follow]
    repeat' split
    all_goals first | exact ih _ | rfl

/-- Empty names lead nowhere. -/
theorem follow_of_empty {fs : List Name} (h : ∀ f ∈ fs, f = [])
    (hl : t.get? l = some .directory) : t.follow l fs = .ok l := by
  induction fs with
  | nil => rfl
  | cons f fs ih =>
    rw [h f List.mem_cons_self, follow, hl]
    simpa using ih fun f hf => h f (List.mem_cons_of_mem _ hf)

/-- One name leads from a directory down to an entry, if it fits. -/
theorem follow_singleton {n : Name} (hn : IsName n) (hl : t.get? l = some .directory) :
    t.follow l [n] =
      if maxName < (Utf8.encode n).length then .error .nameTooLong else .ok (l ++ [n]) := by
  simp [follow, hl, hn.ne_nil, hn.ne_here, hn.ne_up]

/-- Names that lead down lead to where they say, through directories. -/
theorem follow_eq_ok {ns : List Name} (hn : ∀ n ∈ ns, IsName n) (h : t.follow l ns = .ok m) :
    m = l ++ ns ∧ ∀ i < ns.length, t.get? (l ++ ns.take i) = some .directory := by
  induction ns generalizing l with
  | nil => exact ⟨by simpa [follow] using h.symm, nofun⟩
  | cons n ns ih =>
    have hname := hn n List.mem_cons_self
    rw [follow] at h
    split at h
    · simp at h
    · simp at h
    next hdir =>
    simp only [hname.ne_nil, hname.ne_here, hname.ne_up, or_self, if_false] at h
    split at h
    · simp at h
    obtain ⟨rfl, hns⟩ := ih (fun n hn' => hn n (List.mem_cons_of_mem _ hn')) h
    refine ⟨by simp, fun i hi => ?_⟩
    cases i with
    | zero => simpa using hdir
    | succ i => simpa using hns i (by simpa using hi)

/-- Trees that agree on the way down agree on where it leads. -/
theorem follow_congr {ns : List Name} (hn : ∀ n ∈ ns, IsName n)
    (h : ∀ i < ns.length, t'.get? (l ++ ns.take i) = t.get? (l ++ ns.take i)) :
    t'.follow l ns = t.follow l ns := by
  induction ns generalizing l with
  | nil => rfl
  | cons n ns ih =>
    have hname := hn n List.mem_cons_self
    have hhere : t'.get? l = t.get? l := by simpa using h 0 (by simp)
    have hdown : t'.follow (l ++ [n]) ns = t.follow (l ++ [n]) ns := by
      refine ih (fun n hn' => hn n (List.mem_cons_of_mem _ hn')) fun i hi => ?_
      simpa using h (i + 1) (by simpa using hi)
    rw [follow, follow, hhere]
    simp only [hname.ne_nil, hname.ne_here, hname.ne_up, or_self, if_false, hdown]

/-! ## Finding paths -/

/-- A normal path is followed by its names. -/
theorem find_text (t : FileTree) (hp : p.Normal) :
    t.find p.text =
      if '\x00' ∈ p.text.toList then .error .nullByte
      else if maxPath < (Utf8.encode p.text.toList).length then .error .nameTooLong
      else t.follow [] p.names := by
  obtain ⟨empty, hempty, hfields⟩ := fields_text hp
  have hslash := head?_text p
  have hne : p.text.toList ≠ [] := by
    intro h
    simp [h] at hslash
  simp only [find, hne, hslash, if_true, if_false, hfields, follow_append,
    follow_of_empty hempty (get?_nil t)]
  rfl

theorem find_congr (hp : p.Normal)
    (h : ∀ i < p.names.length, t'.get? (p.names.take i) = t.get? (p.names.take i)) :
    t'.find p.text = t.find p.text := by
  rw [find_text t hp, find_text t' hp, follow_congr hp (by simpa using h)]

/-- A normal path leads to the place of its names, or nowhere. -/
theorem eq_names_of_find (hp : p.Normal) (h : t.find p.text = .ok l) : l = p.names := by
  rw [find_text t hp] at h
  split at h
  · simp at h
  split at h
  · simp at h
  · simpa using (follow_eq_ok hp h).1

/-- Names that lead somewhere lead where they would by themselves. -/
theorem eq_walk_of_follow {ns : List Name} (h : t.follow l ns = .ok m) :
    m = walk l (ns.filter fun n => n ≠ [] ∧ n ≠ ['.']) := by
  induction ns generalizing l with
  | nil => exact (Except.ok.inj h).symm
  | cons n ns ih =>
    rw [follow] at h
    split at h
    · simp at h
    · simp at h
    split at h
    · next hstay =>
      rw [List.filter_cons_of_neg (by simpa [or_iff_not_imp_left] using hstay)]
      exact ih h
    next hgo =>
    rw [List.filter_cons_of_pos (by simpa using hgo), walk, List.foldl_cons, step]
    split at h
    · next hup =>
      rw [if_pos hup]
      exact ih h
    next hdown =>
    rw [if_neg hdown]
    split at h
    · simp at h
    · exact ih h

/-- A path that leads somewhere leads to the place that it has when it is made absolute. -/
theorem eq_join_of_find {path : String} (h : t.find path = .ok l) :
    l = ((AbsolutePath.mk false t.home).join path).names := by
  simp only [find] at h
  split at h
  · simp at h
  split at h
  · simp at h
  split at h
  · simp at h
  rw [eq_walk_of_follow h, AbsolutePath.join]
  split <;> rfl

/-- A path that leads somewhere holds no character that no path holds. -/
theorem not_mem_of_find {path : String} (h : t.find path = .ok l) : '\x00' ∉ path.toList := by
  intro hnull
  simp [find, hnull] at h

/-- Beside a path that leads somewhere, a path leads somewhere unless it is too long. -/
theorem find_beside (hp : p.Normal) (hne : p.names ≠ []) {suffix : String}
    (hq : (p.beside suffix).Normal) (hsuffix : '\x00' ∉ suffix.toList)
    (h : t.find p.text = .ok l) :
    t.find (p.beside suffix).text = .ok (p.beside suffix).names ∨
      t.find (p.beside suffix).text = .error .nameTooLong := by
  -- The way to both paths is the same but for the last name.
  have hdown : t.follow [] p.names.dropLast = .ok p.names.dropLast ∧
      t.get? p.names.dropLast = some .directory := by
    rw [find_text t hp] at h
    split at h
    · simp at h
    split at h
    · simp at h
    have habove := (follow_eq_ok hp h).2 p.names.dropLast.length (by
      have := List.length_pos_iff.2 hne
      rw [List.length_dropLast]
      omega)
    rw [names_eq hne, follow_append] at h
    cases hd : t.follow [] p.names.dropLast with
    | error c => simp [hd, Bind.bind, Except.bind] at h
    | ok m =>
      have hm : m = p.names.dropLast := by
        simpa using (follow_eq_ok (fun n hn => hp n (List.mem_of_mem_dropLast hn)) hd).1
      rw [hm]
      exact ⟨rfl, by simpa [List.dropLast_eq_take] using habove⟩
  have hnull : '\x00' ∉ (p.beside suffix).text.toList := by
    rw [text_beside hne, String.toList_append, List.mem_append, not_or]
    exact ⟨not_mem_of_find h, hsuffix⟩
  rw [find_text t hq, if_neg hnull]
  split
  · exact .inr rfl
  have hlast : IsName (p.names.getLastD [] ++ suffix.toList) := hq _ (by simp [beside])
  have hfollow := follow_singleton hlast hdown.2
  rw [beside, follow_append, hdown.1]
  simp only [Bind.bind, Except.bind, hfollow]
  split
  · exact .inr rfl
  · exact .inl rfl

/-! ## What stands where a path leads -/

theorem lookup_eq_ok {path : String} {e : Entry} :
    t.lookup path = .ok (l, e) ↔ t.find path = .ok l ∧ t.get? l = some e := by
  rw [lookup]
  cases t.find path with
  | error c => simp
  | ok m =>
    simp only [Except.ok.injEq]
    constructor
    · intro h
      split at h
      · simp at h
      · next f hm =>
        simp only [Except.ok.injEq, Prod.mk.injEq] at h
        obtain ⟨rfl, rfl⟩ := h
        exact ⟨rfl, hm⟩
    · rintro ⟨rfl, hm⟩
      rw [hm]

theorem lookup_of_get?_eq_none {path : String} (hf : t.find path = .ok l)
    (hl : t.get? l = none) : t.lookup path = .error .notFound := by
  simp [lookup, hf, hl]

/-- What is read is the content of the file where the path leads. -/
theorem lookup_of_read {path : String} {c : Bytes} (h : t.read path = .ok c) :
    ∃ l mode, t.lookup path = .ok (l, .file c mode) := by
  rw [read] at h
  split at h
  · simp at h
  · simp at h
  · next l c' mode hl =>
    obtain rfl := Except.ok.inj h
    exact ⟨l, mode, hl⟩

/-- A path that is read holds no character that no path holds. -/
theorem not_mem_of_read {path : String} {c : Bytes} (h : t.read path = .ok c) :
    '\x00' ∉ path.toList := by
  obtain ⟨l, mode, hl⟩ := lookup_of_read h
  exact not_mem_of_find (lookup_eq_ok.1 hl).1

theorem read_eq {path : String} {c : Bytes} {mode : Nat}
    (h : t.lookup path = .ok (l, .file c mode)) : t.read path = .ok c := by
  rw [read, h]

theorem fill_eq {path : String} {c new : Bytes} {mode : Nat}
    (h : t.lookup path = .ok (l, .file c mode)) :
    t.fill path new = .ok (t.put l (.file new mode)) := by
  simp [fill, h]

/-- A place that holds a file or nothing is not that of the root directory. -/
theorem ne_nil_of_get? (h : t.get? l ≠ some .directory) : l ≠ [] := by
  rintro rfl
  exact h (get?_nil t)

theorem ne_nil_of_lookup {path : String} {c : Bytes} {mode : Nat}
    (h : t.lookup path = .ok (l, .file c mode)) : l ≠ [] :=
  ne_nil_of_get? (t := t) (by simp [(lookup_eq_ok.1 h).2])

/-! ## Trees with an entry set -/

theorem insert_insert (l : Location) (e f : Entry) (es : List (Location × Entry)) :
    insert l f (insert l e es) = insert l f es := by
  induction es with
  | nil => simp [insert]
  | cons p es ih =>
    obtain ⟨k, g⟩ := p
    by_cases hk : k = l <;> simp [insert, hk, ih]

/-- Of two entries set at one place the second stays. -/
theorem put_put (t : FileTree) (l : Location) (e f : Entry) :
    (t.put l e).put l f = t.put l f := by
  simp [put, insert_insert]

theorem filter_insert {es : List (Location × Entry)} (h : es.lookup l = none) (e : Entry) :
    (insert l e es).filter (·.1 ≠ l) = es := by
  induction es with
  | nil => simp [insert]
  | cons p es ih =>
    obtain ⟨k, f⟩ := p
    rw [List.lookup_cons] at h
    split at h
    · simp at h
    · next hk =>
      have hne : k ≠ l := by
        rintro rfl
        simp at hk
      rw [insert, if_neg hne, List.filter_cons_of_pos (by simpa using hne), ih h]

/-- An entry set where nothing was, and taken away, leaves nothing behind. -/
theorem erase_put (h : t.get? l = none) (e : Entry) : (t.put l e).erase l = t := by
  have hne : l ≠ [] := by
    rintro rfl
    simp at h
  rw [get?, if_neg hne] at h
  rw [erase, put, filter_insert h]

/-- An entry does not change where paths lead that go no further down. -/
theorem find_put (hl : l ≠ []) (hp : p.Normal) (hlen : p.names.length ≤ l.length) (e : Entry) :
    (t.put l e).find p.text = t.find p.text := by
  refine find_congr hp fun i hi => ?_
  rw [get?_put t hl, if_neg]
  intro heq
  have := congrArg List.length heq
  rw [List.length_take] at this
  omega

/-! ## Trees that hold more -/

/-- All directories of `t` are directories of `t'`, so all paths lead where they led. -/
structure KeepsDirectories (t t' : FileTree) : Prop where
  home : t'.home = t.home
  get? : ∀ l, t.get? l = some .directory → t'.get? l = some .directory

/-- All that stands in `t` stands in `t'`. -/
structure Extends (t t' : FileTree) : Prop where
  home : t'.home = t.home
  get? : ∀ l e, t.get? l = some e → t'.get? l = some e

theorem Extends.refl (t : FileTree) : Extends t t := ⟨rfl, fun _ _ h => h⟩

theorem Extends.trans {t'' : FileTree} (h : Extends t t') (h' : Extends t' t'') :
    Extends t t'' :=
  ⟨h'.home.trans h.home, fun l e hl => h'.get? l e (h.get? l e hl)⟩

theorem KeepsDirectories.trans {t'' : FileTree} (h : KeepsDirectories t t')
    (h' : KeepsDirectories t' t'') : KeepsDirectories t t'' :=
  ⟨h'.home.trans h.home, fun l hl => h'.get? l (h.get? l hl)⟩

theorem Extends.keepsDirectories (h : Extends t t') : KeepsDirectories t t' :=
  ⟨h.home, fun l => h.get? l .directory⟩

/-- An entry set where nothing was takes nothing away. -/
theorem extends_put (h : t.get? l = none) (e : Entry) : Extends t (t.put l e) := by
  refine ⟨rfl, fun m f hm => ?_⟩
  rw [get?_put _ (ne_nil_of_get? (t := t) (by simp [h])), if_neg]
  · exact hm
  · rintro rfl
    simp [h] at hm

theorem keepsDirectories_put (h : t.get? l ≠ some .directory) (e : Entry) :
    KeepsDirectories t (t.put l e) := by
  refine ⟨rfl, fun m hm => ?_⟩
  rw [get?_put _ (ne_nil_of_get? h), if_neg]
  · exact hm
  · rintro rfl
    exact h hm

theorem KeepsDirectories.follow (h : KeepsDirectories t t') {ns : List Name}
    (hf : t.follow l ns = .ok m) : t'.follow l ns = .ok m := by
  induction ns generalizing l with
  | nil => exact hf
  | cons n ns ih =>
    -- Only from a directory does the way go on.
    rw [FileTree.follow] at hf ⊢
    split at hf
    · simp at hf
    · simp at hf
    next hl =>
    rw [h.get? l hl]
    repeat' split at hf
    all_goals first | simp at hf | simp [*]

theorem KeepsDirectories.find (h : KeepsDirectories t t') {path : String}
    (hf : t.find path = .ok l) : t'.find path = .ok l := by
  simp only [FileTree.find] at hf ⊢
  repeat' split at hf
  all_goals first | simp at hf | simp only [*, if_true, if_false]
  · exact h.follow hf
  · rw [h.home]
    exact h.follow hf

theorem Extends.lookup (h : Extends t t') {path : String} {e : Entry}
    (hl : t.lookup path = .ok (l, e)) : t'.lookup path = .ok (l, e) := by
  rw [lookup_eq_ok] at hl ⊢
  exact ⟨h.keepsDirectories.find hl.1, h.get? l e hl.2⟩

theorem Extends.read (h : Extends t t') {path : String} {c : Bytes} (hr : t.read path = .ok c) :
    t'.read path = .ok c := by
  obtain ⟨l, mode, hl⟩ := lookup_of_read hr
  rw [read_eq hl] at hr
  rw [read_eq (h.lookup hl), hr]

theorem Extends.put (h : Extends t t') (hl : l ≠ []) (e : Entry) :
    Extends (t.put l e) (t'.put l e) := by
  refine ⟨h.home, fun m f hm => ?_⟩
  rw [get?_put _ hl] at hm ⊢
  split
  · next heq => simpa [heq] using hm
  · next hne => exact h.get? m f (by simpa [hne] using hm)

theorem Extends.fill (h : Extends t t') {path : String} {new : Bytes} {t₁ : FileTree}
    (hf : t.fill path new = .ok t₁) : ∃ t₁', t'.fill path new = .ok t₁' ∧ Extends t₁ t₁' := by
  rw [FileTree.fill] at hf
  split at hf
  · simp at hf
  · simp at hf
  · next l c mode hl =>
    obtain rfl := Except.ok.inj hf
    exact ⟨_, fill_eq (h.lookup hl), h.put (ne_nil_of_lookup hl) _⟩

end Mender.FileTree
