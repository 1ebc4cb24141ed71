import Mender.Proofs.Repair.Confinement
import Mender.Proofs.Session.Course

/-!
# Sessions stay below their root

A diagnostic may name any path, but a session works only on files below its root: it
changes nothing outside, and what it does and reports depends on nothing outside
(`run_confined`). The root itself is a directory, so no diagnostic that names it is worked
on, and no copy or temporary file stands beside it.
-/

namespace Mender

open Repair Text

/-- The place `root` holds a directory, and so do all places on the way down to it. -/
def FileTree.Rooted (t : FileTree) (root : Location) : Prop :=
  ∀ l, l <+: root → t.get? l = some .directory

theorem not_below_of_above {root l : Location} (h : l <+: root) : ¬Below root l := fun hb =>
  hb.2 (h.eq_of_length_le hb.1.length_le)

/-- What changes nothing but below a root leaves a root. -/
theorem FileTree.Rooted.of_frame {t t' : FileTree} {root : Location} (h : t.Rooted root)
    (hframe : ∀ l, ¬Below root l → t'.get? l = t.get? l) : t'.Rooted root := by
  intro l hl
  rw [hframe l (not_below_of_above hl), h l hl]

/-- A directory of the tree is one that the tree is rooted at. -/
theorem FileTree.rooted_of_isDirectory {t : FileTree} {p : AbsolutePath} (hp : p.Normal)
    (h : t.isDirectory p.text = true) : t.Rooted p.names := by
  rw [isDirectory] at h
  split at h
  · next l hlookup =>
    obtain ⟨hf, hget⟩ := lookup_eq_ok.1 hlookup
    obtain rfl := eq_names_of_find hp hf
    rw [find_text t hp] at hf
    split at hf
    · simp at hf
    split at hf
    · simp at hf
    have habove := (follow_eq_ok hp hf).2
    intro l hl
    rcases hl.length_le.lt_or_eq with hlt | heq
    · rw [List.prefix_iff_eq_take.1 hl]
      simpa using habove l.length hlt
    · rwa [hl.eq_of_length heq]
  · simp at h

namespace Session

/-- The worlds differ in nothing but what is outside `root` in their trees. -/
structure World.AgreeAt (root : Location) (w w' : World) : Prop where
  process : w'.process = w.process
  tree : FileTree.AgreeAt root w.tree w'.tree
  clock : w'.clock = w.clock
  faults : w'.faults = w.faults
  builder : w'.builder = w.builder
  selector : w'.selector = w.selector
  journal : w'.journal = w.journal

/-- Work in the world `w` and in one that agrees with it at `root` comes to the same, leads to
    worlds that agree again, and changes nothing but below `root`. -/
structure Alike {α : Type} (root : Location) (w : World) (x x' : α × World) : Prop where
  result : x'.1 = x.1
  world : World.AgreeAt root x.2 x'.2
  frame : ∀ l, ¬Below root l → x.2.tree.get? l = w.tree.get? l

section

variable {root p : AbsolutePath} {d : Diagnostic} {w w' : World}

/-- A file that is worked on lies below the root. -/
theorem below_of_readText {t : FileTree} {content : String} (hroot : root.Normal)
    (hrooted : t.Rooted root.names) (hpath : root.resolve? d.file = some p)
    (hread : t.readText p.text = .ok content) : Below root.names p.names := by
  refine ⟨(AbsolutePath.resolve?_eq_some hpath).2, fun heq => ?_⟩
  obtain ⟨old, mode, -, -, hlookup⟩ := FileTree.file_of_readText (hroot.of_resolve? hpath) hread
  have hget := (FileTree.lookup_eq_ok.1 hlookup).2
  rw [heq, hrooted _ (List.prefix_refl _)] at hget
  simp at hget

/-! ## Nothing changes outside -/

/-- A replacement below a directory leaves all that is not below it as it was. -/
theorem get?_of_replaced {r : Replacement} {result : Except ReplaceFailure (Option Record)}
    {base l : Location} (hp : p.Normal) (hb : Below base p.names) (hpath : r.path = p.text)
    (hr : w.Replaced r result w') (hl : ¬Below base l) : w'.tree.get? l = w.tree.get? l := by
  have htree : (w.applied r).2 = w'.tree := congrArg Prod.snd hr.applied
  rw [← htree]
  exact (confined_apply hp hb hpath).frame _ l hl

/-- The work on a diagnostic leaves all that is not below the root of the session as it was. -/
theorem get?_of_attempt {result : Except Breakage Result} (hroot : root.Normal)
    (hrooted : w.tree.Rooted root.names) (ha : attempt root d w = (result, w')) :
    ∀ l, ¬Below root.names l → w'.tree.get? l = w.tree.get? l := by
  intro l hl
  have hcases := ha ▸ attempted root d w
  cases hcases with
  | outOfScope | unread => rfl
  | unchanged _ _ hs _ => rw [hs.tree]
  | replaced hpath hread hs _ hr | failed hpath hread hs _ hr | broken hpath hread hs _ hr =>
    have hb := below_of_readText hroot hrooted hpath hread
    rw [get?_of_replaced (hroot.of_resolve? hpath) hb rfl hr hl, hs.tree]

/-! ## Nothing outside is looked at -/

/-- What is selected does not depend on what is outside of a directory. -/
theorem select_congr {base : Location} (h : World.AgreeAt base w w') (d : Diagnostic)
    (content : String) :
    (w'.select d content).1 = (w.select d content).1 ∧
      World.AgreeAt base (w.select d content).2 (w'.select d content).2 := by
  simp only [World.select, World.note, h.selector]
  exact ⟨trivial, h.process, h.tree, h.clock, h.faults, h.builder, rfl, by rw [h.journal]⟩

/-- What a build says does not depend on what is outside of a directory. -/
theorem build_congr {base : Location} (h : World.AgreeAt base w w') (n : Nat) :
    (w'.build n).1 = (w.build n).1 ∧
      World.AgreeAt base (w.build n).2 (w'.build n).2 := by
  simp only [World.build, World.note, h.builder]
  exact ⟨trivial, h.process, h.tree, h.clock, h.faults, rfl, h.selector, by rw [h.journal]⟩

/-- A replacement below a directory goes the same way whatever is outside of it. -/
theorem replace_congr {base : Location} {r : Replacement} (h : World.AgreeAt base w w')
    (hp : p.Normal) (hb : Below base p.names) (hpath : r.path = p.text) :
    (w'.replace r).1 = (w.replace r).1 ∧
      World.AgreeAt base (w.replace r).2 (w'.replace r).2 := by
  have happlied : (w'.applied r).1 = (w.applied r).1 ∧
      FileTree.AgreeAt base (w.applied r).2 (w'.applied r).2 := by
    simp only [World.applied, h.process, h.faults, h.clock]
    exact (confined_apply hp hb hpath).congr _ _ h.tree
  rw [World.replace_eq, World.replace_eq]
  refine ⟨happlied.1, h.process, happlied.2, ?_, ?_, h.builder, h.selector, ?_⟩
  · simp only [h.clock]
  · simp only [h.faults]
  · simp only [h.journal, happlied.1]

/-- The work on a diagnostic goes the same way in worlds that differ outside of the root only. -/
theorem attempt_alike (hroot : root.Normal) (hrooted : w.tree.Rooted root.names)
    (h : World.AgreeAt root.names w w') (d : Diagnostic) :
    Alike root.names w (attempt root d w) (attempt root d w') := by
  have hcongr : (attempt root d w').1 = (attempt root d w).1 ∧
      World.AgreeAt root.names (attempt root d w).2 (attempt root d w').2 := by
    rw [attempt, attempt]
    cases hpath : root.resolve? d.file with
    | none => exact ⟨rfl, h⟩
    | some p =>
      have hp := hroot.of_resolve? hpath
      have hreads : w'.readText p.text = w.readText p.text := by
        rw [World.readText, World.readText,
          h.tree.read hp (AbsolutePath.resolve?_eq_some hpath).2]
      simp only [repairFile, hreads]
      cases hread : w.readText p.text with
      | error why => exact ⟨rfl, h⟩
      | ok content =>
        have hb := below_of_readText hroot hrooted hpath hread
        obtain ⟨ho, hselected⟩ := select_congr h d content
        simp only
        rcases hs : w.select d content with ⟨o, w₁⟩
        rcases hs' : w'.select d content with ⟨o', w₁'⟩
        rw [hs, hs'] at ho hselected
        obtain rfl : o' = o := ho
        simp only
        split
        · exact ⟨rfl, hselected⟩
        · -- The same content replaces the old one in both trees, below the root.
          obtain ⟨hresult, hreplaced⟩ :=
            replace_congr (r := replacement p d content o') hselected hp hb rfl
          rcases hr : w₁.replace (replacement p d content o') with ⟨result, w₂⟩
          rcases hr' : w₁'.replace (replacement p d content o') with ⟨result', w₂'⟩
          rw [hr, hr'] at hresult hreplaced
          obtain rfl : result' = result := hresult
          rcases result' with (e | e) | (_ | record) <;> exact ⟨rfl, hreplaced⟩
  exact ⟨hcongr.1, hcongr.2, get?_of_attempt hroot hrooted rfl⟩

/-- A round goes the same way in worlds that differ outside of the root only. -/
theorem repairAll_alike (hroot : root.Normal) (ds : List Diagnostic) (s : State) :
    ∀ {w w' : World}, w.tree.Rooted root.names → World.AgreeAt root.names w w' →
      Alike root.names w (repairAll root ds s w) (repairAll root ds s w') := by
  induction ds generalizing s with
  | nil => exact fun _ h => ⟨rfl, h, fun _ _ => rfl⟩
  | cons d ds ih =>
    intro w w' hrooted h
    have hone := attempt_alike hroot hrooted h d
    rw [repairAll, repairAll]
    generalize attempt root d w = x at hone ⊢
    generalize attempt root d w' = x' at hone ⊢
    obtain ⟨result, w₁⟩ := x
    obtain ⟨result', w₁'⟩ := x'
    obtain ⟨rfl, hworld, hframe⟩ := hone
    cases result' with
    | error e => exact ⟨rfl, hworld, hframe⟩
    | ok r =>
      have hrest := ih (s.book d r) (hrooted.of_frame hframe) hworld
      exact ⟨hrest.result, hrest.world, fun l hl => (hrest.frame l hl).trans (hframe l hl)⟩

/-- Any number of rounds go the same way in worlds that differ outside of the root only. -/
theorem rounds_alike (hroot : root.Normal) (left : Nat) :
    ∀ (done : Nat) (previous : Option (List Diagnostic)) (s : State) {w w' : World},
      w.tree.Rooted root.names → World.AgreeAt root.names w w' →
      Alike root.names w (rounds root left done previous s w)
        (rounds root left done previous s w') := by
  induction left with
  | zero => exact fun _ _ _ _ _ _ h => ⟨rfl, h, fun _ _ => rfl⟩
  | succ left ih =>
    intro done previous s w w' hrooted h
    obtain ⟨ho, hbuilt⟩ := build_congr h (done + 1)
    have htree : (w.build (done + 1)).2.tree = w.tree := rfl
    rw [rounds, rounds]
    generalize w.build (done + 1) = b at ho hbuilt htree ⊢
    generalize w'.build (done + 1) = b' at ho hbuilt ⊢
    obtain ⟨o, w₁⟩ := b
    obtain ⟨o', w₁'⟩ := b'
    obtain rfl : o' = o := ho
    -- A build changes no file, so only the work of the round has to be followed.
    have hsame : ∀ l, ¬Below root.names l → w₁.tree.get? l = w.tree.get? l := fun l _ => by
      rw [← htree]
    simp only
    split
    · exact ⟨rfl, hbuilt, hsame⟩
    split
    · exact ⟨rfl, hbuilt, hsame⟩
    split
    · exact ⟨rfl, hbuilt, hsame⟩
    have hround := repairAll_alike hroot (BuildLog.read o'.output) s (hrooted.of_frame hsame) hbuilt
    generalize repairAll root (BuildLog.read o'.output) s w₁ = x at hround ⊢
    generalize repairAll root (BuildLog.read o'.output) s w₁' = x' at hround ⊢
    obtain ⟨result, w₂⟩ := x
    obtain ⟨result', w₂'⟩ := x'
    obtain ⟨rfl, hworld, hframe⟩ := hround
    have hframe' : ∀ l, ¬Below root.names l → w₂.tree.get? l = w.tree.get? l := fun l hl =>
      (hframe l hl).trans (hsame l hl)
    cases result' with
    | error e => exact ⟨rfl, hworld, hframe'⟩
    | ok s' =>
      have hrest := ih (done + 1) (some (BuildLog.read o'.output)) s'
        (hrooted.of_frame hframe') hworld
      exact ⟨hrest.result, hrest.world, fun l hl => (hrest.frame l hl).trans (hframe' l hl)⟩

end

/-- A session on a directory changes nothing but what lies below it, whatever the builds name,
    and what it reports and leaves there is the same whatever lies elsewhere. -/
theorem run_confined (home directory : String) (maxBuilds : Int) (w : World)
    (hroot : w.tree.isDirectory (AbsolutePath.absolute home directory).text = true) :
    (∀ l, ¬Below (AbsolutePath.absolute home directory).names l →
      (run (.absolute home directory) maxBuilds w).2.tree.get? l = w.tree.get? l) ∧
    ∀ t : FileTree, t.isDirectory (AbsolutePath.absolute home directory).text = true →
      (∀ l, (AbsolutePath.absolute home directory).names <+: l → t.get? l = w.tree.get? l) →
      (run (.absolute home directory) maxBuilds { w with tree := t }).1 =
        (run (.absolute home directory) maxBuilds w).1 ∧
      ∀ l, (AbsolutePath.absolute home directory).names <+: l →
        (run (.absolute home directory) maxBuilds { w with tree := t }).2.tree.get? l =
          (run (.absolute home directory) maxBuilds w).2.tree.get? l := by
  have hnormal := AbsolutePath.normal_absolute home directory
  have hrooted := FileTree.rooted_of_isDirectory hnormal hroot
  constructor
  · have hsame : World.AgreeAt (AbsolutePath.absolute home directory).names w w :=
      ⟨rfl, fun _ _ => rfl, rfl, rfl, rfl, rfl, rfl⟩
    exact (rounds_alike hnormal _ _ _ _ hrooted hsame).frame
  · intro t ht hinside
    have hrooted' := FileTree.rooted_of_isDirectory hnormal ht
    have hagree : World.AgreeAt (AbsolutePath.absolute home directory).names w
        { w with tree := t } := by
      refine ⟨rfl, fun l hl => ?_, rfl, rfl, rfl, rfl, rfl⟩
      -- Both trees have the root, so they agree on the way down to it, too.
      rcases hl with hl | hl
      · exact hinside l hl
      · exact (hrooted' l hl).trans (hrooted l hl).symm
    have halike := rounds_alike hnormal (budget maxBuilds) 0 none .empty hrooted hagree
    exact ⟨halike.result, fun l hl => halike.world.tree l (.inl hl)⟩

/-- A world in which every build names a file in `/p2`, by a path that leads there from `/p`. -/
def outside : World where
  process := 4242
  tree := ⟨[([['p']], .directory), ([['p', '2']], .directory),
    ([['p', '2'], "a.ts".toList], .file (Utf8.encode "import b from 'c';\n".toList) 0o644)], []⟩
  clock := .always 7
  faults := .always .none
  builder := .given (.always (.ok
    ⟨false, "./../p2/a.ts\n1:8  Error: 'b' is defined but never used.  no-unused-vars\n", 1, false,
      none⟩))
  selector := .standard none false
  journal := []

/-- In the world `outside`, the file beside the root stays as it is, and the report would be the
    same without it. -/
theorem run_confined_outside :
    (run (.absolute "/" "p") 3 outside).2.tree.get? [['p', '2'], "a.ts".toList] =
        some (.file (Utf8.encode "import b from 'c';\n".toList) 0o644) ∧
      (run (.absolute "/" "p") 3 { outside with tree := ⟨[([['p']], .directory)], []⟩ }).1 =
        (run (.absolute "/" "p") 3 outside).1 := by
  obtain ⟨hframe, hsame⟩ := run_confined "/" "p" 3 outside (by rfl)
  have hnames : (AbsolutePath.absolute "/" "p").names = [['p']] := by rfl
  rw [hnames] at hframe hsame
  refine ⟨(hframe _ ?_).trans (by rfl), (hsame _ (by rfl) fun l hl => ?_).1⟩
  · exact fun hb => absurd hb.1 (by decide)
  · obtain ⟨rest, rfl⟩ := hl
    cases rest with
    | nil => rfl
    | cons n rest => simp [FileTree.get?, outside, List.lookup_cons]

end Session

end Mender
