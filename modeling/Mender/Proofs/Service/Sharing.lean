import Mender.Proofs.PathText
import Mender.Proofs.Service.Scene

/-!
# What sessions share

Sessions on one directory exclude each other, but sessions on directories of which one lies
in the other do not, and these accept the same paths (`exists_shared_iff`). So one of them
may replace a file that the other has read, and then the other overwrites what the first one
wrote (`nested_session_overwrites`).

A session is safe from those on directories that are not nested with its own and whose
reports go elsewhere: what it has read from a file is still in the file when it goes on,
whatever these did in between (`sharing_iff_nested`).
-/

namespace Mender

open Text

namespace AbsolutePath

/-- One of the places lies in the other, or they are the same. -/
def Nested (p q : AbsolutePath) : Prop := p.names <+: q.names ∨ q.names <+: p.names

instance (p q : AbsolutePath) : Decidable (p.Nested q) :=
  inferInstanceAs (Decidable (p.names <+: q.names ∨ q.names <+: p.names))

/-- Where one place is above another, both of them are above what is below the second. -/
theorem nested_of_prefix {p q : AbsolutePath} {l : Location} (hp : p.names <+: l)
    (hq : q.names <+: l) : p.Nested q := List.prefix_or_prefix_of_prefix hp hq

theorem doubled_of_resolve? {root p : AbsolutePath} {path : String}
    (h : root.resolve? path = some p) : root.doubled = false := by
  simp only [resolve?, Option.ite_none_right_eq_some, Bool.and_eq_true, Bool.not_eq_true'] at h
  exact h.1.1

/-- A path below a root is resolved to itself. -/
theorem resolve?_text {root p : AbsolutePath} (hp : p.Normal) (hdoubled : root.doubled = false)
    (hin : root.names <+: p.names) : root.resolve? p.text = some p := by
  simp [resolve?, PathText.join_of_text hp, hdoubled, hin]

/-- Two directories accept paths that lead to one place exactly if one lies in the other and
    both accept any. -/
theorem exists_shared_iff {root root' : AbsolutePath} (h : root.Normal) (h' : root'.Normal) :
    (∃ f g p q, root.resolve? f = some p ∧ root'.resolve? g = some q ∧ p.names = q.names) ↔
      root.doubled = false ∧ root'.doubled = false ∧ root.Nested root' := by
  constructor
  · rintro ⟨f, g, p, q, hp, hq, heq⟩
    have hin := (resolve?_eq_some hp).2
    rw [heq] at hin
    exact ⟨doubled_of_resolve? hp, doubled_of_resolve? hq,
      nested_of_prefix hin (resolve?_eq_some hq).2⟩
  · rintro ⟨hd, hd', hin | hin⟩
    · exact ⟨root'.text, root'.text, root', root', resolve?_text h' hd hin,
        resolve?_text h' hd' List.prefix_rfl, rfl⟩
    · exact ⟨root.text, root.text, root, root, resolve?_text h hd List.prefix_rfl,
        resolve?_text h hd' hin, rfl⟩

end AbsolutePath

namespace FileTree

variable {root : Location} {t t' t'' : FileTree}

theorem AgreeAt.trans (h : AgreeAt root t t') (h' : AgreeAt root t' t'') : AgreeAt root t t'' :=
  fun l hl => (h' l hl).trans (h l hl)

theorem AgreeAt.rooted (h : AgreeAt root t t') (hrooted : t.Rooted root) : t'.Rooted root :=
  fun l hl => (h l (.inr hl)).trans (hrooted l hl)

/-- Trees that agree at a root have the same texts there. -/
theorem AgreeAt.readText (h : AgreeAt root t t') {p : AbsolutePath} (hp : p.Normal)
    (hin : root <+: p.names) : t'.readText p.text = t.readText p.text := by
  rw [FileTree.readText, FileTree.readText, h.read hp hin]

end FileTree

/-- What a session has read is still there if nothing has changed at its directory. -/
theorem Session.Pause.IsCurrent.of_agreeAt {root : AbsolutePath} {t t' : FileTree}
    {p : Session.Pause} (hroot : root.Normal) (h : p.IsCurrent root t)
    (hagree : FileTree.AgreeAt root.names t t') : p.IsCurrent root t' := by
  cases p with
  | build s => trivial
  | decision s d others path content =>
    obtain ⟨hpath, hread⟩ := h
    refine ⟨hpath, ?_⟩
    rw [hagree.readText (hroot.of_resolve? hpath) (AbsolutePath.resolve?_eq_some hpath).2, hread]

namespace Service

open Session FileTree

/-! ## Sessions beside each other -/

/-- What a session on another directory does between two waits is not seen. -/
theorem agreeAt_of_resume {process : Nat} {root other : AbsolutePath} {p : Pause} {a : Answer}
    {stage : Stage} {t t' : FileTree} (hp : p.IsInside root)
    (h : resume process root p a t = some (stage, t')) (hapart : ¬root.Nested other) :
    AgreeAt other.names t t' := by
  intro l hl
  -- A place below the root that is on the other directory's way, or in it, nests the two.
  refine get?_of_resume hp h fun hb => hapart ?_
  rcases hl with hl | hl
  · exact AbsolutePath.nested_of_prefix hb.1 hl
  · exact .inl (hb.1.trans hl)

/-- A report that goes elsewhere is not seen. -/
theorem agreeAt_conclude {other : AbsolutePath} {reportPath : Option String} {t : FileTree}
    (writing : Writing) (result : Except Repair.Breakage Report)
    (hhome : (AbsolutePath.mk false t.home).Normal) (hrooted : t.Rooted other.names)
    (hapart : ∀ path ∈ reportPath,
      ¬other.names <+: ((AbsolutePath.mk false t.home).join path).names) :
    AgreeAt other.names t (conclude reportPath writing result t).2 := by
  have hchanges := Scene.changesOnly_conclude reportPath writing result t
  rintro l (hl | hl)
  · -- Only the report can have changed, and it stands elsewhere.
    by_contra hne
    obtain ⟨text, htext, hfind⟩ := hchanges.get? l hne
    obtain ⟨path, hpath, rfl⟩ := List.mem_map.1 htext
    obtain rfl := eq_names_of_find (hhome.join path) hfind
    exact hapart path (Option.mem_toList.1 hpath) hl
  · rw [hrooted l hl]
    exact (hchanges.directory l).2 (hrooted l hl)

/-- The session of the call is running. A call whose session is over may not have returned yet, as
    its client is still to be closed. -/
def Call.isRunning (c : Call) : Bool := c.key?.isSome

/-- The file that the session of a call has read and not yet written back, and what was
    in it. -/
def Call.reading? (c : Call) : Option (AbsolutePath × String) :=
  match c.phase with
  | .running (.decision _ _ _ path content) => some (path, content)
  | _ => none

/-- The directory of the call and the other do not lie in each other, and the report of the
    call does not go there. -/
structure Call.Spares (home : Location) (other : AbsolutePath) (c : Call) : Prop where
  root : ¬c.root.Nested other
  report : ∀ path ∈ c.reportPath, ¬other.names <+: ((AbsolutePath.mk false home).join path).names

instance (home : Location) (other : AbsolutePath) (c : Call) : Decidable (c.Spares home other) :=
  decidable_of_iff (¬c.root.Nested other ∧
    ∀ path ∈ c.reportPath, ¬other.names <+: ((AbsolutePath.mk false home).join path).names)
    ⟨fun h => ⟨h.1, h.2⟩, fun h => ⟨h.root, h.report⟩⟩

namespace Scene

/-- All running sessions are on directories, and those on others than this one spare it. -/
def Spares (s : Scene) (other : AbsolutePath) : Prop :=
  ∀ c ∈ s.calls, c.isRunning → s.tree.isDirectory c.root.text = true ∧
    (c.root ≠ other → c.Spares s.tree.home other)

instance (s : Scene) (other : AbsolutePath) : Decidable (s.Spares other) :=
  inferInstanceAs (Decidable (∀ c ∈ s.calls, c.isRunning →
    s.tree.isDirectory c.root.text = true ∧ (c.root ≠ other → c.Spares s.tree.home other)))

/-- All running sessions replace files below their directories only, and what the one on
    this directory has read is the text of the file. -/
structure Current (s : Scene) (other : AbsolutePath) : Prop where
  isInside : ∀ c ∈ s.calls, ∀ p, c.phase = .running p → p.IsInside c.root
  isCurrent : ∀ c ∈ s.calls, c.root = other → ∀ p, c.phase = .running p → p.IsCurrent other s.tree

theorem key?_of_isRunning {c : Call} (hc : c.isRunning) : c.key? = some c.root.text := by
  obtain ⟨root, reportPath, phase⟩ := c
  cases phase <;> simp_all [Call.isRunning]

section

variable {s s' : Scene} {other root : AbsolutePath} {before after : List Call} {c c' : Call}
  {registry : Registry} {tree : FileTree} {m : Move}

/-! ### One session on a directory -/

/-- Running sessions are on different directories. -/
theorem Orderly.pairwise (h : s.Orderly) :
    s.calls.Pairwise fun c c' => c.isRunning → c'.isRunning → c.root.text ≠ c'.root.text := by
  have hpairwise := h.nodup
  rw [h.running, List.Nodup, List.pairwise_filterMap] at hpairwise
  exact hpairwise.imp fun hne hc hc' =>
    hne _ (key?_of_isRunning hc) _ (key?_of_isRunning hc')

/-- Two running sessions are on directories with different texts. -/
theorem Orderly.text_ne (h : s.Orderly) {i j : Nat} (hij : i ≠ j) (hi : s.calls[i]? = some c)
    (hj : s.calls[j]? = some c') (hc : c.isRunning) (hc' : c'.isRunning) :
    c.root.text ≠ c'.root.text := by
  obtain ⟨hilt, rfl⟩ := List.getElem?_eq_some_iff.1 hi
  obtain ⟨hjlt, rfl⟩ := List.getElem?_eq_some_iff.1 hj
  have hpairwise := List.pairwise_iff_getElem.1 h.pairwise
  rcases Nat.lt_or_gt_of_ne hij with hlt | hlt
  · exact hpairwise i j hilt hjlt hlt hc hc'
  · exact (hpairwise j i hjlt hilt hlt hc' hc).symm

theorem Orderly.root_ne_of_split (h : s.Orderly) (hcalls : s.calls = before ++ c :: after)
    (hc : c.isRunning) : ∀ d ∈ before ++ after, d.isRunning → d.root ≠ c.root := by
  have hpairwise := h.pairwise
  rw [hcalls, List.pairwise_middle fun hne hc hc' => (hne hc' hc).symm,
    List.pairwise_cons] at hpairwise
  intro d hd hrunning heq
  exact hpairwise.1 d hd hc hrunning (congrArg AbsolutePath.text heq.symm)

/-! ### Sessions that are told something -/

/-- The directory of a running session is one of the tree. -/
theorem Spares.rooted (h : s.Spares other) (ho : s.Orderly) (hc : c ∈ s.calls)
    (hrunning : c.isRunning) : s.tree.Rooted c.root.names :=
  rooted_of_isDirectory (ho.normal c hc) (h c hc hrunning).1

/-- A directory is spared as before when one of the sessions goes on or ends. -/
theorem Spares.of_split (h : s.Spares other) (hcalls : s.calls = before ++ c :: after)
    (hroot : c'.root = c.root) (hreport : c'.reportPath = c.reportPath)
    (hrunning : c'.isRunning → c.isRunning) {paths : List String}
    (hchanges : ChangesOnly paths s.tree tree) :
    Spares ⟨s.process, tree, registry, before ++ c' :: after⟩ other := by
  intro d hd hrun
  rw [hchanges.isDirectory_iff, hchanges.home]
  rcases mem_split_iff.1 hd with rfl | hd
  · obtain ⟨hdirectory, hspares⟩ := h c (hcalls ▸ mem_split_iff.2 (.inl rfl)) (hrunning hrun)
    rw [hroot]
    exact ⟨hdirectory, fun hne => ⟨hroot ▸ (hspares hne).root, hreport ▸ (hspares hne).report⟩⟩
  · exact h d (hcalls ▸ mem_split_iff.2 (.inr hd)) hrun

/-- Sessions that spare a directory still do after a move that is no call. -/
theorem Spares.moved (h : s.Spares other) (hm : s.Moved m s')
    (hcall : ∀ directory maxBuilds reportPath, m ≠ .call directory maxBuilds reportPath) :
    s'.Spares other := by
  cases hm with
  | nothing => exact h
  | refused | admitted => exact absurd rfl (hcall _ _ _)
  | resumed hcalls hresume =>
    obtain ⟨paths, hchanges⟩ := changesOnly_of_resume hresume
    exact h.of_split hcalls rfl rfl (fun _ => rfl) hchanges
  | ended hcalls hresume =>
    obtain ⟨paths, hchanges⟩ := changesOnly_of_resume hresume
    exact h.of_split hcalls rfl rfl (fun _ => rfl)
      ((hchanges.mono (List.subset_append_left _ _)).trans
        ((changesOnly_conclude _ _ _ _).mono (List.subset_append_right _ _)))
  | interrupted hcalls => exact h.of_split hcalls rfl rfl (fun _ => rfl) (.refl [] s.tree)
  | closed hcalls => exact h.of_split hcalls rfl rfl (fun hrun => hrun) (.refl [] s.tree)

/-- A call that is new has read nothing. -/
theorem Current.call (h : s.Current other)
    (hc : ∀ p, c.phase = .running p → ∃ standing, p = .build standing) :
    Current ⟨s.process, s.tree, registry, s.calls ++ [c]⟩ other := by
  constructor
  · rw [List.forall_mem_append, List.forall_mem_singleton]
    refine ⟨h.isInside, fun p hp => ?_⟩
    obtain ⟨standing, rfl⟩ := hc p hp
    trivial
  · rw [List.forall_mem_append, List.forall_mem_singleton]
    refine ⟨h.isCurrent, fun _ p hp => ?_⟩
    obtain ⟨standing, rfl⟩ := hc p hp
    trivial

/-- After a move of one call, all is as it was read if this holds for that call, and if the
    move was not seen where another session is running on the directory. -/
theorem Current.of_split (h : s.Current other) (ho : s.Orderly)
    (hcalls : s.calls = before ++ c :: after)
    (hinside : ∀ p, c'.phase = .running p → p.IsInside c'.root)
    (hcurrent : ∀ p, c'.phase = .running p → p.IsCurrent c'.root tree)
    (hagree : ∀ d ∈ before ++ after, d.isRunning → d.root = other →
      AgreeAt other.names s.tree tree) :
    Current ⟨s.process, tree, registry, before ++ c' :: after⟩ other := by
  constructor
  · intro d hd
    rcases mem_split_iff.1 hd with rfl | hd
    · exact hinside
    · exact h.isInside d (hcalls ▸ mem_split_iff.2 (.inr hd))
  · intro d hd heq p hp
    rcases mem_split_iff.1 hd with rfl | hd
    · exact heq ▸ hcurrent p hp
    · have hmem : d ∈ s.calls := hcalls ▸ mem_split_iff.2 (.inr hd)
      have hrunning : d.isRunning := by simp [Call.isRunning, Call.key?, hp]
      exact (h.isCurrent d hmem heq p hp).of_agreeAt (heq ▸ ho.normal d hmem)
        (hagree d hd hrunning heq)

/-- Where another session is running on the directory, nothing is seen of one that goes on. -/
theorem Spares.agreeAt_of_running {reportPath : Option String} {p : Pause} {a : Answer}
    {stage : Stage} (hs : s.Spares other) (h : s.Current other) (ho : s.Orderly)
    (hcalls : s.calls = before ++ ⟨root, reportPath, .running p⟩ :: after)
    (hresume : resume s.process root p a s.tree = some (stage, tree)) :
    ∀ d ∈ before ++ after, d.isRunning → d.root = other →
      Call.Spares s.tree.home other ⟨root, reportPath, .running p⟩ ∧
        s.tree.Rooted other.names ∧ AgreeAt other.names s.tree tree := by
  rintro d hd hrunning rfl
  have hmem : ⟨root, reportPath, .running p⟩ ∈ s.calls := hcalls ▸ mem_split_iff.2 (.inl rfl)
  have hdmem : d ∈ s.calls := hcalls ▸ mem_split_iff.2 (.inr hd)
  have hspares := (hs _ hmem rfl).2 (ho.root_ne_of_split hcalls rfl d hd hrunning).symm
  exact ⟨hspares, hs.rooted ho hdmem hrunning,
    agreeAt_of_resume (h.isInside _ hmem p rfl) hresume hspares.root⟩

/-- What the others have read is still in the tree after a move. -/
theorem Current.moved (h : s.Current other) (ho : s.Orderly) (hs : s.Spares other)
    (hm : s.Moved m s') : s'.Current other := by
  cases hm with
  | nothing => exact h
  | refused => exact h.call fun p hp => by simp at hp
  | admitted => exact h.call fun p hp => ⟨_, (Phase.running.inj hp).symm⟩
  | resumed hcalls hresume =>
    have hmem := hcalls ▸ mem_split_iff.2 (.inl rfl)
    have hnormal := ho.normal _ hmem
    obtain ⟨paths, hchanges⟩ := changesOnly_of_resume hresume
    -- What the session waits with now, it has read from the tree as it is now.
    have hcurrent := isCurrent_of_resume hresume rfl
    refine h.of_split ho hcalls (fun p hp => ?_) (fun p hp => ?_) fun d hd hrunning heq =>
      (hs.agreeAt_of_running h ho hcalls hresume d hd hrunning heq).2.2
    · obtain rfl := Phase.running.inj hp
      refine hcurrent.isInside hnormal (rooted_of_isDirectory hnormal ?_)
      rw [hchanges.isDirectory_iff]
      exact (hs _ hmem rfl).1
    · obtain rfl := Phase.running.inj hp
      exact hcurrent
  | ended hcalls hresume =>
    refine h.of_split ho hcalls (fun p hp => by simp at hp) (fun p hp => by simp at hp)
      fun d hd hrunning heq => ?_
    obtain ⟨hspares, hrooted, hagree⟩ :=
      hs.agreeAt_of_running h ho hcalls hresume d hd hrunning heq
    obtain ⟨paths, hchanges⟩ := changesOnly_of_resume hresume
    refine hagree.trans (agreeAt_conclude _ _ (hchanges.home ▸ ho.home) (hagree.rooted hrooted) ?_)
    rw [hchanges.home]
    exact hspares.report
  | interrupted hcalls | closed hcalls =>
    exact h.of_split ho hcalls (fun p hp => by simp at hp) (fun p hp => by simp at hp)
      fun _ _ _ _ _ _ => rfl

end

/-- Whenever a call is made, the sessions on other directories spare this one. -/
def AlwaysSpares (home : String) (process : Nat) (t : FileTree) (moves : List Move)
    (other : AbsolutePath) : Prop :=
  ∀ ms directory maxBuilds reportPath, ms ++ [.call directory maxBuilds reportPath] <+: moves →
    ((opened home process t).play (ms ++ [.call directory maxBuilds reportPath])).Spares other

section

variable {home : String} {process : Nat} {t : FileTree} {moves more : List Move}
  {other : AbsolutePath}

/-- Moves that spare a directory throughout do so up to any of them. -/
theorem AlwaysSpares.of_append (h : AlwaysSpares home process t (moves ++ more) other) :
    AlwaysSpares home process t moves other :=
  fun ms d n r hms => h ms d n r (hms.trans (List.prefix_append moves more))

/-- A directory that is spared whenever a call is made is always spared. -/
theorem spares_play (hs : AlwaysSpares home process t moves other) :
    ((opened home process t).play moves).Spares other := by
  induction moves using List.reverseRecOn with
  | nil => exact fun c hc => absurd hc List.not_mem_nil
  | append_singleton moves m ih =>
    have hbefore := ih hs.of_append
    cases m with
    | call directory maxBuilds reportPath => exact hs moves _ _ _ List.prefix_rfl
    | answer | interrupt | close =>
      rw [play_concat]
      exact hbefore.moved (Scene.moved _ _) (by simp)

/-- What the session on a directory has read stays as it is, as long as the directory
    is spared. -/
theorem current_play (hs : AlwaysSpares home process t moves other) :
    ((opened home process t).play moves).Current other := by
  induction moves using List.reverseRecOn with
  | nil =>
    exact ⟨fun c hc => absurd hc List.not_mem_nil, fun c hc => absurd hc List.not_mem_nil⟩
  | append_singleton moves m ih =>
    have hbefore := hs.of_append
    rw [play_concat]
    exact (ih hbefore).moved (orderly_play home process t moves) (spares_play hbefore)
      (Scene.moved _ m)

end

/-- Whatever calls are made and however they take turns, any two running sessions are on
    different directories, and they accept paths to one place exactly if one of these lies in
    the other, and none is behind two slashes. What a session has read from a file and not yet
    written back is still in the file, if the sessions on other directories spared its own
    whenever a call was made. -/
theorem sharing_iff_nested (home : String) (process : Nat) (t : FileTree) (moves : List Move) :
    let s := (opened home process t).play moves
    (∀ (i j : Nat) (c c' : Call), i ≠ j → s.calls[i]? = some c → s.calls[j]? = some c' →
      c.isRunning → c'.isRunning →
      c.root.text ≠ c'.root.text ∧
        ((∃ f g p q, c.root.resolve? f = some p ∧ c'.root.resolve? g = some q ∧
            p.names = q.names) ↔
          c.root.doubled = false ∧ c'.root.doubled = false ∧ c.root.Nested c'.root)) ∧
    ∀ c ∈ s.calls, AlwaysSpares home process t moves c.root →
      ∀ path content, c.reading? = some (path, content) →
        s.tree.readText path.text = .ok content := by
  have horderly := orderly_play home process t moves
  refine ⟨fun i j c c' hij hi hj hc hc' => ⟨horderly.text_ne hij hi hj hc hc', ?_⟩,
    fun c hc hs path content hread => ?_⟩
  · exact AbsolutePath.exists_shared_iff (horderly.normal c (List.mem_of_getElem? hi))
      (horderly.normal c' (List.mem_of_getElem? hj))
  · rw [Call.reading?] at hread
    split at hread
    · next hphase =>
      obtain ⟨rfl, rfl⟩ := Prod.mk.inj (Option.some.inj hread)
      exact ((current_play hs).isCurrent c hc rfl _ hphase).2
    · simp at hread

/-! ## Two sessions -/

/-- The content of a file that is repaired. -/
def faulty : String := "let x: any = 1;\n"

/-- A tree with a directory in another one, and a third one beside it. -/
def directories : FileTree :=
  ⟨[(["p".toList], .directory), (["p".toList, "sub".toList], .directory),
    (["p".toList, "sub".toList, "a.ts".toList], .file (Repair.Replacement.bytes faulty) 0o644),
    (["q".toList], .directory),
    (["q".toList, "a.ts".toList], .file (Repair.Replacement.bytes faulty) 0o644)], []⟩

/-- The decision on its repair. -/
def decision : Repair.Outcome :=
  .ofContent Repair.byModel none faulty (.whole "let x: unknown = 1;\n")

/-- The log of a build that fails at a file. -/
def logOf (file : String) : String :=
  file ++ "\n1:8  Error: Unexpected any.  @typescript-eslint/no-explicit-any\n"

/-- The diagnostic in this log. -/
def faultIn (file : String) : Diagnostic :=
  ⟨file, 1, 8, "Unexpected any.", some "@typescript-eslint/no-explicit-any", .error, .lint⟩

/-- Sessions on two directories. While the second waits for a decision on its file, the first
    repairs its own. -/
def turns (directory file directory' file' : String) : List Move :=
  [.call directory 3 none, .call directory' 3 none,
    .answer 0 (.built ⟨false, logOf file, 1, false, none⟩) (.broken none),
    .answer 1 (.built ⟨false, logOf file', 1, false, none⟩) (.broken none),
    .answer 0 (.decided decision .none 7) (.broken none)]

/-- What the two sessions come to. -/
theorem play_turns {process : Nat} {t t' : FileTree} {directory file directory' file' : String}
    {root root' path path' : AbsolutePath} {r : Repair.Record}
    (hroot : (AbsolutePath.mk false t.home).join directory = root)
    (hroot' : (AbsolutePath.mk false t.home).join directory' = root') (hne : root'.text ≠ root.text)
    (hpath : root.resolve? file = some path) (hpath' : root'.resolve? file' = some path')
    (hread : t.readText path.text = .ok faulty) (hread' : t.readText path'.text = .ok faulty)
    (hlog : BuildLog.read (logOf file) = [faultIn file])
    (hlog' : BuildLog.read (logOf file') = [faultIn file'])
    (happly : (replacement path (faultIn file) faulty decision).apply process .none 7 t =
      (.ok (some r), t')) :
    (mk process t .empty []).play (turns directory file directory' file') =
      ⟨process, t', ⟨[root.text, root'.text]⟩,
        [⟨root, none, .running (.build
            ⟨1, 1, some [faultIn file], State.empty.bookFixed r (some (faultIn file))⟩)⟩,
          ⟨root', none, .running (.decision ⟨2, 1, some [faultIn file'], .empty⟩ (faultIn file') []
            path' faulty)⟩]⟩ := by
  have hchanged : decision.changed = true := by decide
  -- Behind a failed build, a session waits for a decision on the file that the log names.
  have hbuilt : ∀ {root p : AbsolutePath} {file : String}, root.resolve? file = some p →
      t.readText p.text = .ok faulty → BuildLog.read (logOf file) = [faultIn file] →
      resume process root (firstPause 3) (.built ⟨false, logOf file, 1, false, none⟩) t =
        some (.waiting (.decision ⟨2, 1, some [faultIn file], .empty⟩ (faultIn file) [] p faulty),
          t) := by
    intro root p file hp hread hlog
    have hresolve : root.resolve? (faultIn file).file = some p := hp
    simp [firstPause, resume, afterBuild, hlog, isStalled, work, hresolve, hread]
    rfl
  have hdecided : resume process root
      (.decision ⟨2, 1, some [faultIn file], .empty⟩ (faultIn file) [] path faulty)
      (.decided decision .none 7) t =
      some (.waiting (.build ⟨1, 1, some [faultIn file],
        State.empty.bookFixed r (some (faultIn file))⟩), t') := by
    simp [resume, settle, hchanged, happly, Result.ofReplacement, afterDecision, work, nextRound,
      Standing.book, State.book]
  have hcalls : ((mk process t .empty []).move (.call directory 3 none)).move
      (.call directory' 3 none) = ⟨process, t, ⟨[root.text, root'.text]⟩,
        [⟨root, none, .running (firstPause 3)⟩, ⟨root', none, .running (firstPause 3)⟩]⟩ := by
    simp [move, rootOf, hroot, hroot', Registry.admit?, Registry.empty, hne]
  rw [turns, play_cons, play_cons, hcalls]
  simp [play, move, hbuilt hpath hread hlog, hbuilt hpath' hread' hlog', hdecided]

theorem readText_directories {path : String} {l : Location}
    (h : directories.lookup path = .ok (l, .file (Repair.Replacement.bytes faulty) 0o644)) :
    directories.readText path = .ok faulty := by
  exact @readText_of_lookup directories path faulty l 0o644 h

/-- The file that is repaired. -/
def repairedPath : AbsolutePath := ⟨false, ["p".toList, "sub".toList, "a.ts".toList]⟩

/-- The tree with the file repaired. -/
def repaired : FileTree :=
  ((replacement repairedPath (faultIn "sub/a.ts") faulty decision).apply 4242 .none 7 directories).2

theorem readText_repaired : repaired.readText repairedPath.text = .ok "let x: unknown = 1;\n" := by
  have hlookup : repaired.lookup repairedPath.text = .ok (repairedPath.names,
      .file (Repair.Replacement.bytes "let x: unknown = 1;\n") 0o644) := rfl
  exact readText_of_lookup hlookup

/-- A session that begins while the one on `/p` is running waits for a decision on its file when
    the other has repaired its own. -/
theorem play_directories {directory file : String} {root path : AbsolutePath}
    (hroot : (AbsolutePath.mk false directories.home).join directory = root)
    (hne : root.text ≠ "/p") (hpath : root.resolve? file = some path)
    (hread : directories.readText path.text = .ok faulty)
    (hlog : BuildLog.read (logOf file) = [faultIn file]) :
    ∃ p, (opened "/" 4242 directories).play (turns "p" "sub/a.ts" directory file) =
      ⟨4242, repaired, ⟨["/p", root.text]⟩,
        [⟨⟨false, ["p".toList]⟩, none, .running (.build p)⟩,
          ⟨root, none, .running (.decision ⟨2, 1, some [faultIn file], .empty⟩ (faultIn file) []
            path faulty)⟩]⟩ := by
  have happly : (replacement repairedPath (faultIn "sub/a.ts") faulty decision).apply 4242 .none
      7 directories = (.ok (some ⟨"sub/a.ts", "Unexpected any.", "/p/sub/a.ts.backup.7",
        "generative", none⟩), repaired) := rfl
  have hfirst : directories.readText repairedPath.text = .ok faulty :=
    readText_directories rfl
  have hp : (AbsolutePath.mk false directories.home).join "p" = ⟨false, ["p".toList]⟩ := rfl
  exact ⟨_, play_turns hp hroot hne rfl hpath hfirst hread rfl hlog happly⟩

/-- A session spares a directory beside its own. -/
theorem alwaysSpares_turns :
    AlwaysSpares "/" 4242 directories (turns "p" "sub/a.ts" "q" "a.ts") ⟨false, ["q".toList]⟩ := by
  intro ms directory maxBuilds reportPath hms
  rw [← List.mem_inits] at hms
  simp only [turns, List.inits, List.map_cons, List.map_nil, List.mem_cons, List.not_mem_nil,
    or_false] at hms
  rcases hms with hms | hms | hms | hms | hms | hms
  · simp at hms
  · rw [hms]
    decide +kernel
  · rw [hms]
    decide +kernel
  all_goals
    have hlast := congrArg List.getLast? hms
    simp at hlast

/-- A session that waits while one on a directory beside its own writes finds its file as it
    was. -/
theorem sharing_iff_nested_beside :
    let s := (opened "/" 4242 directories).play (turns "p" "sub/a.ts" "q" "a.ts")
    let path : AbsolutePath := ⟨false, ["q".toList, "a.ts".toList]⟩
    s.calls.map Call.reading? = [none, some (path, faulty)] ∧
      s.tree.readText path.text = .ok faulty := by
  obtain ⟨-, hcurrent⟩ :=
    sharing_iff_nested "/" 4242 directories (turns "p" "sub/a.ts" "q" "a.ts")
  have hroot : (AbsolutePath.mk false directories.home).join "q" = ⟨false, ["q".toList]⟩ := rfl
  have hpath : (AbsolutePath.mk false ["q".toList]).resolve? "a.ts" =
    some ⟨false, ["q".toList, "a.ts".toList]⟩ := rfl
  obtain ⟨p, hplay⟩ := play_directories hroot (by decide) hpath
    (readText_directories rfl) rfl
  rw [hplay] at hcurrent ⊢
  exact ⟨rfl, hcurrent _ (List.mem_cons_of_mem _ List.mem_cons_self) alwaysSpares_turns _ _ rfl⟩

/-- A session on a directory and one on a directory in it accept the same path. The one writes
    the file after the other has read it. -/
theorem nested_session_overwrites :
    let s := (opened "/" 4242 directories).play (turns "p" "sub/a.ts" "p/sub" "a.ts")
    let path : AbsolutePath := ⟨false, ["p".toList, "sub".toList, "a.ts".toList]⟩
    s.calls.map Call.isRunning = [true, true] ∧
      s.calls.map (fun c => c.root.resolve? path.text) = [some path, some path] ∧
      s.calls.map Call.reading? = [none, some (path, faulty)] ∧
      s.tree.readText path.text = .ok "let x: unknown = 1;\n" := by
  have hroot : (AbsolutePath.mk false directories.home).join "p/sub" =
    ⟨false, ["p".toList, "sub".toList]⟩ := rfl
  have hpath : (AbsolutePath.mk false ["p".toList, "sub".toList]).resolve? "a.ts" =
    some repairedPath := rfl
  obtain ⟨p, hplay⟩ := play_directories hroot (by decide) hpath
    (readText_directories rfl) rfl
  rw [hplay]
  exact ⟨rfl, rfl, rfl, readText_repaired⟩

end Scene

end Service

end Mender
