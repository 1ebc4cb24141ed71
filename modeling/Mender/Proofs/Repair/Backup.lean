import Mathlib.Data.List.Nodup
import Mathlib.Data.List.Perm.Subperm
import Mender.Proofs.Neighbours
import Mender.Proofs.Text.Numeral
import Mender.Repair.Replacement

/-!
# Names of copies

A copy stands beside the file that it was taken from, with `.backup.`, the time and maybe
a number behind the name (`backupSuffix`). The name tells which file that is
(`livePath?`), and no temporary file has such a name, whatever the number of the process is
(`backup_ne_temporary`).

There is always a name left for a copy, among those that are tried, and the first one
that is free is taken (`freshBackupName_eq`), however many more could be tried
(`exists_isFirstFree`).
-/

namespace Mender.Repair

open Text AbsolutePath

variable {t : FileTree} {p : AbsolutePath} {process : Nat}

/-! ## What stands behind the name of a file -/

/-- The time of a copy, and its number among those of the same time. -/
def stamp (time : Int) (n : Nat) : String :=
  toString time ++ if n = 0 then "" else "-" ++ toString n

/-- What the name of a copy has behind that of the file. -/
def backupSuffix (time : Int) (n : Nat) : String := ".backup." ++ stamp time n

/-- What the name of a temporary file has behind that of the file, in the process of the given
    number. -/
def temporarySuffix (process : Nat) : String := ".tmp." ++ toString process

/-- A stamp is made of digits and hyphens. -/
theorem isDigit_or_of_mem_stamp {time : Int} {n : Nat} {c : Char}
    (h : c ∈ (stamp time n).toList) : c.isDigit = true ∨ c = '-' := by
  rw [stamp, String.toList_append] at h
  rcases List.mem_append.1 h with h | h
  · exact isDigit_or_of_mem_toString h
  · split at h
    · simp at h
    · rw [String.toList_append] at h
      rcases List.mem_append.1 h with h | h
      · exact .inr (by simpa using h)
      · exact .inl (isDigit_of_mem_toString h)

theorem not_mem_stamp {time : Int} {n : Nat} {c : Char} (hc : c.isDigit = false) (hd : c ≠ '-') :
    c ∉ (stamp time n).toList := by
  intro h
  rcases isDigit_or_of_mem_stamp h with h | h
  · simp [hc] at h
  · exact hd h

/-- What is put behind a path for a copy makes a name of the last name. -/
theorem isSuffix_backup (time : Int) (n : Nat) : IsSuffix (backupSuffix time n) :=
  ⟨by simp [backupSuffix], by simp [backupSuffix, not_mem_stamp]⟩

/-- No path is spoilt by the characters that make the name of a copy. -/
theorem nullByte_not_mem_backupSuffix (time : Int) (n : Nat) :
    '\x00' ∉ (backupSuffix time n).toList := by
  simp [backupSuffix, not_mem_stamp]

theorem not_mem_temporarySuffix {c : Char} (hc : c.isDigit = false) (hd : c ∉ ".tmp.".toList) :
    c ∉ (temporarySuffix process).toList := by
  rw [temporarySuffix, String.toList_append, List.mem_append, not_or]
  refine ⟨hd, fun h => ?_⟩
  simp [isDigit_of_mem_toString h] at hc

/-- What is put behind a path for the temporary file makes a name of the last name. -/
theorem isSuffix_temporary (process : Nat) : IsSuffix (temporarySuffix process) :=
  ⟨by simp [temporarySuffix], not_mem_temporarySuffix (by decide) (by decide)⟩

/-- The path of a copy is in normal form if that of the file is. -/
theorem normal_beside_backup (hp : p.Normal) (hne : p.names ≠ []) (time : Int) (n : Nat) :
    (p.beside (backupSuffix time n)).Normal := by
  refine hp.beside hne ?_ ?_
  · simp [backupSuffix]
  · simp [backupSuffix, not_mem_stamp]

/-- The path of the temporary file is in normal form if that of the file is. -/
theorem normal_beside_temporary (hp : p.Normal) (hne : p.names ≠ []) (process : Nat) :
    (p.beside (temporarySuffix process)).Normal :=
  hp.beside hne (le_trans (by decide) (isSuffix_temporary process).long)
    (isSuffix_temporary process).no_slash

/-- The path of the temporary file is that of the file, with more behind it. -/
theorem temporaryName_eq (process : Nat) (path : String) :
    temporaryName process path = path ++ temporarySuffix process := by
  rw [temporaryName, temporarySuffix, String.append_assoc]

/-- The temporary file is beside the file. -/
theorem isNeighbour_temporary (process : Nat) (path : String) :
    IsNeighbour path (temporaryName process path) :=
  ⟨temporarySuffix process, isSuffix_temporary process, temporaryName_eq process path⟩

/-- The temporary file stands beside the file. -/
theorem temporaryName_text (hne : p.names ≠ []) (process : Nat) :
    temporaryName process p.text = (p.beside (temporarySuffix process)).text := by
  rw [temporaryName_eq, text_beside hne]

/-! ## Which file a copy was taken from -/

/-- The path of the file that a path names a copy of: what stands before the last
    `.backup.`, if no more dots follow that. -/
def livePath? (path : String) : Option String :=
  let before := path.toList.reverse.dropWhile (· ≠ '.')
  if ".backup.".toList.reverse.isPrefixOf before then
    some (String.ofList (before.drop ".backup.".toList.length).reverse)
  else none

theorem dropWhile_reverse_append {s s' : List Char} (h : '.' ∉ s') :
    (s ++ '.' :: s').reverse.dropWhile (· ≠ '.') = '.' :: s.reverse := by
  have hall : ∀ c ∈ s'.reverse, (c ≠ '.' : Bool) := by
    intro c hc
    simp only [decide_eq_true_eq]
    rintro rfl
    exact h (List.mem_reverse.1 hc)
  rw [List.reverse_append, List.reverse_cons, List.append_assoc,
    List.dropWhile_append_of_pos hall]
  rfl

/-- The path of a copy tells that of the file. -/
theorem livePath?_backup (path : String) (time : Int) (n : Nat) :
    livePath? (path ++ backupSuffix time n) = some path := by
  have hdot : '.' ∉ (stamp time n).toList := not_mem_stamp (by decide) (by decide)
  have hsplit : (path ++ backupSuffix time n).toList =
      (path.toList ++ ".backup".toList) ++ '.' :: (stamp time n).toList := by
    simp [backupSuffix]
  simp only [livePath?, hsplit, dropWhile_reverse_append hdot]
  simp

/-- The name of a temporary file is not that of a copy, whatever the number of the process is. -/
theorem livePath?_temporary (path : String) (process : Nat) :
    livePath? (path ++ temporarySuffix process) = none := by
  have hsplit : (path ++ temporarySuffix process).toList =
      (path.toList ++ ".tmp".toList) ++ '.' :: (toString process).toList := by
    simp [temporarySuffix]
  have hdot : '.' ∉ (toString process).toList := fun h => by
    simpa using isDigit_of_mem_toString h
  simp only [livePath?, hsplit, dropWhile_reverse_append hdot]
  simp

/-- No name is that of a copy and of a temporary file at once. -/
theorem backup_ne_temporary (s s' : List Char) (time : Int) (n process : Nat) :
    s ++ (backupSuffix time n).toList ≠ s' ++ (temporarySuffix process).toList := by
  intro h
  have hlive := livePath?_backup (String.ofList s) time n
  have hname : String.ofList s ++ backupSuffix time n =
      String.ofList s' ++ temporarySuffix process := by
    apply String.toList_injective
    simpa using h
  rw [hname, livePath?_temporary] at hlive
  simp at hlive

/-! ## Free names -/

/-- The names that are tried for a copy, in order. -/
theorem backup_eq (path : String) (time : Int) (n : Nat) :
    (if n = 0 then backupName path time else backupName path time ++ "-" ++ toString n) =
      path ++ backupSuffix time n := by
  apply String.toList_injective
  split <;> simp [backupName, backupSuffix, stamp, *]

/-- The copies of one time are told apart by their numbers. -/
theorem stamp_injective (time : Int) {n n' : Nat} (h : stamp time n = stamp time n') : n = n' := by
  have htail : (if n = 0 then "" else "-" ++ toString n) =
      (if n' = 0 then "" else "-" ++ toString n') := by
    apply String.toList_injective
    simpa [stamp] using congrArg String.toList h
  have hdigits : ∀ {m m' : Nat}, "-" ++ toString m = "-" ++ toString m' → m = m' := by
    intro m m' hm
    have hm' := congrArg String.toList hm
    simp only [String.toList_append, List.append_cancel_left_eq, Nat.toString_eq_repr,
      Nat.toList_repr] at hm'
    simpa using congrArg (Nat.ofDigitChars 10 · 0) hm'
  have hlong : ∀ {m : Nat}, "" ≠ "-" ++ toString m := by
    intro m hm
    simpa using congrArg String.toList hm
  -- A number takes up room, so both stamps have one or neither has.
  split at htail <;> split at htail
  · omega
  · exact absurd htail hlong
  · exact absurd htail.symm hlong
  · exact hdigits htail

/-- The names of the copies of one time are told apart by their numbers. -/
theorem backupSuffix_injective (time : Int) {n n' : Nat}
    (h : backupSuffix time n = backupSuffix time n') : n = n' := by
  refine stamp_injective time ?_
  apply String.toList_injective
  simpa [backupSuffix] using congrArg String.toList h

/-- The first of the names that are tried is taken that is free, if one is. -/
theorem firstFree_eq (t : FileTree) (path : String) (time : Int) :
    ∀ (tries n : Nat),
      (∃ i < tries, t.isPresent (path ++ backupSuffix time (n + i)) = false) →
      ∃ i, firstFree t (backupName path time) n tries = path ++ backupSuffix time (n + i) ∧
        t.isPresent (path ++ backupSuffix time (n + i)) = false ∧
        ∀ j < i, t.isPresent (path ++ backupSuffix time (n + j)) = true
  | 0, _, h => by simp at h
  | tries + 1, n, h => by
    rw [firstFree]
    simp only [backup_eq]
    split
    · next hhere =>
      -- The name is taken, so the free one is among those that are left.
      obtain ⟨i, hi, hfree⟩ := h
      have hmore : ∃ i < tries, t.isPresent (path ++ backupSuffix time (n + 1 + i)) = false := by
        cases i with
        | zero => simp [hhere] at hfree
        | succ i => exact ⟨i, by omega, by rwa [Nat.add_assoc, Nat.add_comm 1]⟩
      obtain ⟨i, heq, hfree, hbefore⟩ := firstFree_eq t path time tries (n + 1) hmore
      rw [Nat.add_assoc, Nat.add_comm 1] at heq hfree
      refine ⟨i + 1, heq, hfree, fun j hj => ?_⟩
      cases j with
      | zero => exact hhere
      | succ j =>
        have := hbefore j (by omega)
        rwa [Nat.add_assoc, Nat.add_comm 1] at this
    · next hhere => exact ⟨0, rfl, by simpa using hhere, nofun⟩

/-- What stands at a path is among the entries of the tree. -/
theorem mem_entries_of_lookup {path : String} {l : Location} {e : Entry}
    (h : t.lookup path = .ok (l, e)) (hne : l ≠ []) : l ∈ t.entries.map Prod.fst := by
  have hget := (FileTree.lookup_eq_ok.1 h).2
  rw [FileTree.get?, if_neg hne, List.lookup_eq_some_iff] at hget
  obtain ⟨before, behind, hsplit, -⟩ := hget
  simp [hsplit]

/-- As more names are tried than there are entries, one of them is free. -/
theorem exists_free (t : FileTree) (path : String) (time : Int) :
    ∃ i < t.entries.length + 1, t.isPresent (path ++ backupSuffix time i) = false := by
  by_contra hall
  push Not at hall
  have hthere : ∀ i < t.entries.length + 1, ∃ m, t.above path = .ok m ∧
      m ++ [lastName path ++ (backupSuffix time i).toList] ∈ t.entries.map Prod.fst := by
    intro i hi
    have hpresent := hall i hi
    rw [FileTree.isPresent] at hpresent
    split at hpresent
    · next found hl =>
      obtain ⟨l, e⟩ := found
      obtain ⟨m, ha, -, rfl⟩ :=
        FileTree.find_append (isSuffix_backup time i) (FileTree.lookup_eq_ok.1 hl).1
      exact ⟨m, ha, mem_entries_of_lookup hl (by simp)⟩
    · simp at hpresent
  -- All of them are in one directory.
  obtain ⟨m, ha, -⟩ := hthere 0 (Nat.succ_pos _)
  -- The names are all different, and too many to be those of the entries.
  have hnodup : ((List.range (t.entries.length + 1)).map
      fun i => m ++ [lastName path ++ (backupSuffix time i).toList]).Nodup := by
    refine List.Nodup.map (fun i j hij => backupSuffix_injective time ?_) List.nodup_range
    exact String.toList_injective (by simpa using hij)
  have hsub : ((List.range (t.entries.length + 1)).map
      fun i => m ++ [lastName path ++ (backupSuffix time i).toList]) ⊆
        t.entries.map Prod.fst := by
    intro l hl
    obtain ⟨i, hi, rfl⟩ := List.mem_map.1 hl
    obtain ⟨m', ha', hmem⟩ := hthere i (List.mem_range.1 hi)
    rwa [Except.ok.inj (ha.symm.trans ha')]
  have := (List.subperm_of_subset hnodup hsub).length_le
  simp only [List.length_map, List.length_range] at this
  omega

/-- The name with this number is the first that is free for a copy. -/
structure IsFirstFree (t : FileTree) (path : String) (time : Int) (n : Nat) : Prop where
  free : t.isPresent (path ++ backupSuffix time n) = false
  taken : ∀ j < n, t.isPresent (path ++ backupSuffix time j) = true

/-- No number below the first free one is free. -/
theorem IsFirstFree.le {path : String} {time : Int} {n m : Nat} (h : IsFirstFree t path time n)
    (hm : t.isPresent (path ++ backupSuffix time m) = false) : n ≤ m := by
  by_contra hlt
  rw [h.taken m (by omega)] at hm
  simp at hm

/-- The search for a free name is over after as many names as there are entries, at the latest:
    to try more of them makes no difference. -/
theorem exists_isFirstFree (t : FileTree) (path : String) (time : Int) :
    ∃ n ≤ t.entries.length, IsFirstFree t path time n ∧
      ∀ tries > t.entries.length,
        firstFree t (backupName path time) 0 tries = path ++ backupSuffix time n := by
  obtain ⟨i, hi, hfree⟩ := exists_free t path time
  have hsearch : ∀ tries > t.entries.length, ∃ n,
      firstFree t (backupName path time) 0 tries = path ++ backupSuffix time n ∧
        IsFirstFree t path time n := by
    intro tries htries
    have h := firstFree_eq t path time tries 0 ⟨i, by omega, by simpa using hfree⟩
    simp only [Nat.zero_add] at h
    obtain ⟨n, hname, hn, htaken⟩ := h
    exact ⟨n, hname, hn, htaken⟩
  obtain ⟨n, -, hfirst⟩ := hsearch (t.entries.length + 1) (Nat.lt_succ_self _)
  refine ⟨n, (hfirst.le hfree).trans (by omega), hfirst, fun tries htries => ?_⟩
  obtain ⟨m, hname, hfirst'⟩ := hsearch tries htries
  rw [hname, Nat.le_antisymm (hfirst'.le hfirst.free) (hfirst.le hfirst'.free)]

/-- A copy gets the first name that is free. -/
theorem freshBackupName_eq (t : FileTree) (path : String) (time : Int) :
    ∃ n, freshBackupName t path time = path ++ backupSuffix time n ∧
      t.isPresent (path ++ backupSuffix time n) = false ∧
      ∀ j < n, t.isPresent (path ++ backupSuffix time j) = true := by
  obtain ⟨n, -, hfirst, hname⟩ := exists_isFirstFree t path time
  exact ⟨n, hname _ (Nat.lt_succ_self _), hfirst.free, hfirst.taken⟩

/-- The copy is beside the file. -/
theorem isNeighbour_freshBackupName (t : FileTree) (path : String) (time : Int) :
    IsNeighbour path (freshBackupName t path time) := by
  obtain ⟨n, hname, -⟩ := freshBackupName_eq t path time
  exact ⟨_, isSuffix_backup time n, hname⟩

end Mender.Repair
