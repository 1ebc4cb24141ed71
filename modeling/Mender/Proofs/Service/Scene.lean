import Mender.Proofs.Session.Pauses
import Mender.Service.Job

/-!
# Calls side by side

Calls for sessions share a file tree and the registry of sessions (`Scene`). Whenever the
sessions of all calls wait, one of them may be told what it waits for, another call may
be made, or what a call waits for may break off (`Scene.move`). Nothing is said about
whose turn it is, or about what a session is told.

* `moved`: all that a move can do.
* `orderly_play`: after any moves, the registry holds the directories of the calls whose
  sessions are running, each of them once.
* `play_job`: a call that has the scene to itself comes to what its job comes to.
-/

namespace Mender.Service

open Session

/-- How far a call has come. -/
inductive Phase
  /-- A session was running on the directory. -/
  | refused
  /-- The session waits. -/
  | running (p : Pause)
  /-- The session is over, with a report unless it broke off. The call has not returned yet, as
      it waits for its client to be closed. -/
  | closing (report : Option Report)
  /-- The call has returned, with the report if there is one. -/
  | left (report : Option Report)

/-- A call for a session. -/
structure Call where
  root : AbsolutePath
  reportPath : Option String
  phase : Phase

/-- What calls act on, and all calls that were made, in the order of their beginning. -/
structure Scene where
  /-- The number of the process that all calls are made in. -/
  process : Nat
  tree : FileTree
  registry : Registry
  calls : List Call

/-- How the writing of a report goes. -/
inductive Writing
  /-- It comes to an end at the given time, even if the file cannot be written, unless its path is
      none. -/
  | ended (timestamp : String)
  /-- It breaks off, before the file is opened or with these bytes in it. -/
  | broken (written : Option Text.Bytes)

/-- What happens next. Calls are told apart by their numbers. -/
inductive Move
  | call (directory : String) (maxBuilds : Int) (reportPath : Option String)
  /-- A call is told what its session waits for. A report may be written then. -/
  | answer (i : Nat) (a : Answer) (writing : Writing)
  /-- What a call waits for breaks off. -/
  | interrupt (i : Nat)
  /-- The client of a call has been closed. -/
  | close (i : Nat)

/-- What a session waits for first. -/
def firstPause (maxBuilds : Int) : Pause := .build ⟨budget maxBuilds - 1, 0, none, .empty⟩

/-- The report that a call for a session comes to, and the tree then. -/
def conclude (reportPath : Option String) (writing : Writing)
    (result : Except Repair.Breakage Report) (t : FileTree) : Option Report × FileTree :=
  match result, reportPath with
  | .error _, _ => (none, t)
  | .ok r, none => (some r, t)
  | .ok r, some path =>
    if path = "" then (some r, t)
    else
      match writing with
      | .ended timestamp =>
        match writeReport timestamp path r t with
        | .ok u => (some r, u.getD t)
        | .error _ => (none, t)
      | .broken none => (none, t)
      | .broken (some bytes) => (none, (t.write (reportPlace path t) bytes).toOption.getD t)

namespace Scene

/-- A scene without calls, in the working directory `home`. -/
def opened (home : String) (process : Nat) (t : FileTree) : Scene :=
  ⟨process, { t with home := (AbsolutePath.ofText home).names }, .empty, []⟩

/-- The directory that a path leads to. -/
def rootOf (s : Scene) (directory : String) : AbsolutePath :=
  (AbsolutePath.mk false s.tree.home).join directory

/-- The scene after a move. A move that is out of place changes nothing. -/
def move (s : Scene) : Move → Scene
  | .call directory maxBuilds reportPath =>
    match s.registry.admit? (s.rootOf directory).text with
    | none => { s with calls := s.calls ++ [⟨s.rootOf directory, reportPath, .refused⟩] }
    | some registry =>
      { s with
        registry
        calls := s.calls ++ [⟨s.rootOf directory, reportPath, .running (firstPause maxBuilds)⟩] }
  | .answer i a writing =>
    match s.calls[i]? with
    | some ⟨root, reportPath, .running p⟩ =>
      match resume s.process root p a s.tree with
      | some (.waiting p, tree) =>
        { s with tree, calls := s.calls.set i ⟨root, reportPath, .running p⟩ }
      | some (.ended result, tree) =>
        let (report, tree) := conclude reportPath writing result tree
        { s with
          tree
          registry := s.registry.release root.text
          calls := s.calls.set i ⟨root, reportPath, .closing report⟩ }
      | none => s
    | _ => s
  | .interrupt i =>
    match s.calls[i]? with
    | some ⟨root, reportPath, .running _⟩ =>
      { s with
        registry := s.registry.release root.text
        calls := s.calls.set i ⟨root, reportPath, .closing none⟩ }
    | some ⟨root, reportPath, .closing _⟩ =>
      { s with calls := s.calls.set i ⟨root, reportPath, .left none⟩ }
    | _ => s
  | .close i =>
    match s.calls[i]? with
    | some ⟨root, reportPath, .closing report⟩ =>
      { s with calls := s.calls.set i ⟨root, reportPath, .left report⟩ }
    | _ => s

/-- The scene after moves, one after another. -/
def play (s : Scene) (moves : List Move) : Scene := moves.foldl move s

theorem play_cons (s : Scene) (m : Move) (moves : List Move) :
    s.play (m :: moves) = (s.move m).play moves := rfl

theorem play_concat (s : Scene) (moves : List Move) (m : Move) :
    s.play (moves ++ [m]) = (s.play moves).move m := by
  simp [play]

/-! ## What a move can do -/

/-- The ways from a scene to the next. -/
inductive Moved (s : Scene) : Move → Scene → Prop
  | nothing {m : Move} : Moved s m s
  | refused {directory : String} {maxBuilds : Int} {reportPath : Option String} :
      (s.rootOf directory).text ∈ s.registry.running →
      Moved s (.call directory maxBuilds reportPath)
        { s with calls := s.calls ++ [⟨s.rootOf directory, reportPath, .refused⟩] }
  | admitted {directory : String} {maxBuilds : Int} {reportPath : Option String} :
      (s.rootOf directory).text ∉ s.registry.running →
      Moved s (.call directory maxBuilds reportPath) { s with
        registry := ⟨s.registry.running ++ [(s.rootOf directory).text]⟩
        calls := s.calls ++ [⟨s.rootOf directory, reportPath, .running (firstPause maxBuilds)⟩] }
  | resumed {before after : List Call} {root : AbsolutePath} {reportPath : Option String}
      {p p' : Pause} {i : Nat} {a : Answer} {writing : Writing} {tree : FileTree} :
      s.calls = before ++ ⟨root, reportPath, .running p⟩ :: after →
      resume s.process root p a s.tree = some (.waiting p', tree) →
      Moved s (.answer i a writing)
        { s with tree, calls := before ++ ⟨root, reportPath, .running p'⟩ :: after }
  | ended {before after : List Call} {root : AbsolutePath} {reportPath : Option String}
      {p : Pause} {i : Nat} {a : Answer} {result : Except Repair.Breakage Report}
      {tree : FileTree} {writing : Writing} :
      s.calls = before ++ ⟨root, reportPath, .running p⟩ :: after →
      resume s.process root p a s.tree = some (.ended result, tree) →
      Moved s (.answer i a writing)
        { s with
          tree := (conclude reportPath writing result tree).2
          registry := s.registry.release root.text
          calls := before ++
            ⟨root, reportPath, .closing (conclude reportPath writing result tree).1⟩ :: after }
  | interrupted {before after : List Call} {root : AbsolutePath} {reportPath : Option String}
      {p : Pause} {i : Nat} :
      s.calls = before ++ ⟨root, reportPath, .running p⟩ :: after →
      Moved s (.interrupt i) { s with
        registry := s.registry.release root.text
        calls := before ++ ⟨root, reportPath, .closing none⟩ :: after }
  | closed {before after : List Call} {root : AbsolutePath} {reportPath : Option String}
      {report report' : Option Report} {m : Move} :
      s.calls = before ++ ⟨root, reportPath, .closing report⟩ :: after →
      Moved s m { s with calls := before ++ ⟨root, reportPath, .left report'⟩ :: after }

/-- The calls are those before one, itself, and those after it. -/
theorem split_calls {calls : List Call} {i : Nat} {c : Call} (h : calls[i]? = some c) :
    ∃ before after, calls = before ++ c :: after ∧
      ∀ c', calls.set i c' = before ++ c' :: after := by
  obtain ⟨hi, rfl⟩ := List.getElem?_eq_some_iff.1 h
  refine ⟨calls.take i, calls.drop (i + 1), ?_, fun c' => ?_⟩
  · rw [← List.drop_eq_getElem_cons hi, List.take_append_drop]
  · rw [List.set_eq_take_append_cons_drop, if_pos hi]

theorem mem_split_iff {before after : List Call} {c d : Call} :
    d ∈ before ++ c :: after ↔ d = c ∨ d ∈ before ++ after := by
  simp only [List.mem_append, List.mem_cons]
  exact or_left_comm

/-- Each move is one of these. -/
theorem moved (s : Scene) (m : Move) : s.Moved m (s.move m) := by
  cases m with
  | call directory maxBuilds reportPath =>
    rw [move]
    split
    · next h => exact .refused (by simpa [Registry.admit?] using h)
    · next h =>
      simp only [Registry.admit?, Option.ite_none_left_eq_some, Option.some.injEq] at h
      obtain ⟨hout, rfl⟩ := h
      exact .admitted hout
  | answer i a writing =>
    rw [move]
    split
    · next hcall =>
      obtain ⟨before, after, hcalls, hset⟩ := split_calls hcall
      split
      · next hresume =>
        rw [hset]
        exact .resumed hcalls hresume
      · next hresume =>
        simp only [hset]
        exact .ended hcalls hresume
      · exact .nothing
    · exact .nothing
  | interrupt i =>
    rw [move]
    split
    · next hcall =>
      obtain ⟨before, after, hcalls, hset⟩ := split_calls hcall
      rw [hset]
      exact .interrupted hcalls
    · next hcall =>
      obtain ⟨before, after, hcalls, hset⟩ := split_calls hcall
      rw [hset]
      exact .closed hcalls
    · exact .nothing
  | close i =>
    rw [move]
    split
    · next hcall =>
      obtain ⟨before, after, hcalls, hset⟩ := split_calls hcall
      rw [hset]
      exact .closed hcalls
    · exact .nothing

end Scene

/-! ## The registry -/

/-- The directory that is registered for a call whose session is running. -/
def Call.key? (c : Call) : Option String :=
  match c.phase with
  | .running _ => some c.root.text
  | _ => none

section

variable {root : AbsolutePath} {reportPath : Option String} {report : Option Report}

@[simp]
theorem key?_refused : Call.key? ⟨root, reportPath, .refused⟩ = none := rfl

@[simp]
theorem key?_running {p : Pause} :
    Call.key? ⟨root, reportPath, .running p⟩ = some root.text := rfl

@[simp]
theorem key?_closing : Call.key? ⟨root, reportPath, .closing report⟩ = none := rfl

@[simp]
theorem key?_left : Call.key? ⟨root, reportPath, .left report⟩ = none := rfl

end

namespace Scene

/-- The registry holds the directories of the running sessions, each of them once. The
    directories are paths of names that lead down, and so is the working directory. -/
structure Orderly (s : Scene) : Prop where
  home : (AbsolutePath.mk false s.tree.home).Normal
  normal : ∀ c ∈ s.calls, c.root.Normal
  running : s.registry.running = s.calls.filterMap Call.key?
  nodup : s.registry.running.Nodup

/-- Before any call, the scene is orderly. -/
theorem orderly_opened (home : String) (process : Nat) (t : FileTree) :
    (opened home process t).Orderly :=
  ⟨fun n hn => AbsolutePath.normal_ofText home n hn, fun _ hc => absurd hc List.not_mem_nil, rfl,
    List.nodup_nil⟩

/-- What a call does at its end changes nothing but the file of the report. -/
theorem changesOnly_conclude (reportPath : Option String) (writing : Writing)
    (result : Except Repair.Breakage Report) (t : FileTree) :
    FileTree.ChangesOnly
      (reportPath.toList.map (reportPlace · t)) t
      (conclude reportPath writing result t).2 := by
  have hwrite : ∀ (path : String) (bytes : Text.Bytes), FileTree.ChangesOnly
      [reportPlace path t] t ((t.write (reportPlace path t) bytes).toOption.getD t) := by
    intro path bytes
    cases hw : t.write (reportPlace path t) bytes with
    | error e => exact .refl _ t
    | ok u => exact FileTree.changesOnly_write hw
  rcases result with e | r
  · exact .refl _ t
  rcases reportPath with _ | path
  · exact .refl _ t
  simp only [conclude]
  split
  · exact .refl _ t
  rcases writing with timestamp | _ | bytes
  · simp only [writeReport]
    by_cases hnull : '\x00' ∈ (reportPlace path t).toList
    · simp only [if_pos hnull]
      exact .refl _ t
    · simp only [if_neg hnull]
      exact hwrite path _
  · exact .refl _ t
  · exact hwrite path bytes

/-- The process stays the same. -/
theorem Moved.process {s s' : Scene} {m : Move} (h : s.Moved m s') : s'.process = s.process := by
  cases h <;> rfl

/-- The working directory stays where it is. -/
theorem Moved.home {s s' : Scene} {m : Move} (h : s.Moved m s') : s'.tree.home = s.tree.home := by
  cases h with
  | resumed _ hresume =>
    obtain ⟨paths, hchanges⟩ := changesOnly_of_resume hresume
    exact hchanges.home
  | ended _ hresume =>
    obtain ⟨paths, hchanges⟩ := changesOnly_of_resume hresume
    exact (changesOnly_conclude _ _ _ _).home.trans hchanges.home
  | _ => rfl

theorem filter_ne_eq_self {ks : List String} {k : String} (hk : k ∉ ks) :
    ks.filter (· ≠ k) = ks :=
  List.filter_eq_self.2 fun k' hk' => by
    rw [decide_eq_true_eq]
    rintro rfl
    exact hk hk'

/-- A directory that is released goes out of the registry, and the others stay in order. -/
theorem running_release {r : Registry} {before after : List String} {k : String}
    (hnodup : r.running.Nodup) (h : r.running = before ++ k :: after) :
    (r.release k).running = before ++ after := by
  rw [h, List.nodup_append, List.nodup_cons] at hnodup
  obtain ⟨-, ⟨hafter, -⟩, hbefore⟩ := hnodup
  rw [Registry.release, h, List.filter_append, List.filter_cons_of_neg (by simp),
    filter_ne_eq_self fun hk => hbefore k hk k List.mem_cons_self rfl, filter_ne_eq_self hafter]

section

variable {s s' : Scene} {m : Move} {before after : List Call} {c c' : Call} {k : String}

theorem normal_of_split (h : ∀ c ∈ s.calls, c.root.Normal) (hcalls : s.calls = before ++ c :: after)
    (hroot : c'.root = c.root) : ∀ d ∈ before ++ c' :: after, d.root.Normal := by
  intro d hd
  rw [hcalls] at h
  rcases mem_split_iff.1 hd with rfl | hd
  · rw [hroot]
    exact h c (mem_split_iff.2 (.inl rfl))
  · exact h d (mem_split_iff.2 (.inr hd))

theorem Orderly.normal_call (h : s.Orderly) {directory : String}
    (hroot : c.root = s.rootOf directory) : ∀ d ∈ s.calls ++ [c], d.root.Normal := by
  rw [List.forall_mem_append, List.forall_mem_singleton, hroot]
  exact ⟨h.normal, h.home.join _⟩

/-- A call that is over takes its directory out of the registry, and no other. -/
theorem Orderly.released (h : s.Orderly) (hcalls : s.calls = before ++ c :: after)
    (hc : c.key? = some k) (hc' : c'.key? = none) :
    (s.registry.release k).running = (before ++ c' :: after).filterMap Call.key? ∧
      (s.registry.release k).running.Nodup := by
  have hrunning := h.running
  rw [hcalls, List.filterMap_append, List.filterMap_cons_some hc] at hrunning
  constructor
  · rw [running_release h.nodup hrunning, List.filterMap_append, List.filterMap_cons_none hc']
  · exact h.nodup.filter _

/-- An orderly scene is orderly after a move. -/
theorem Orderly.moved (h : s.Orderly) (hm : s.Moved m s') : s'.Orderly := by
  have hhome : (AbsolutePath.mk false s'.tree.home).Normal := by
    rw [hm.home]
    exact h.home
  cases hm with
  | nothing => exact h
  | refused hbusy =>
    refine ⟨hhome, h.normal_call rfl, ?_, h.nodup⟩
    simpa [List.filterMap_cons] using h.running
  | admitted hfree =>
    refine ⟨hhome, h.normal_call rfl, ?_, ?_⟩
    · simpa [List.filterMap_cons] using h.running
    · rw [List.nodup_append]
      exact ⟨h.nodup, by simp, fun k hk k' hk' heq => hfree (List.mem_singleton.1 hk' ▸ heq ▸ hk)⟩
  | resumed hcalls =>
    refine ⟨hhome, normal_of_split h.normal hcalls rfl, ?_, h.nodup⟩
    simpa [hcalls, List.filterMap_cons] using h.running
  | ended hcalls | interrupted hcalls =>
    obtain ⟨hrunning, hnodup⟩ := h.released hcalls key?_running key?_closing
    exact ⟨hhome, normal_of_split h.normal hcalls rfl, hrunning, hnodup⟩
  | closed hcalls =>
    refine ⟨hhome, normal_of_split h.normal hcalls rfl, ?_, h.nodup⟩
    simpa [hcalls, List.filterMap_cons] using h.running

end

/-- After any moves the scene is orderly. -/
theorem orderly_play (home : String) (process : Nat) (t : FileTree) (moves : List Move) :
    ((opened home process t).play moves).Orderly := by
  induction moves using List.reverseRecOn with
  | nil => exact orderly_opened home process t
  | append_singleton moves m ih =>
    rw [play_concat]
    exact ih.moved (moved _ m)

/-! ## A call by itself -/

/-- The phase that a job comes to. -/
def phaseOf : Except JobError Report → Phase
  | .error (.busy _) => .refused
  | .error (.broken _) => .left none
  | .ok r => .left (some r)

theorem start_eq (maxBuilds : Int) : start maxBuilds = .waiting (firstPause maxBuilds) := by
  obtain ⟨n, hn⟩ : ∃ n, budget maxBuilds = n + 1 :=
    ⟨budget maxBuilds - 1, by rw [budget]; omega⟩
  rw [start, firstPause, hn]
  rfl

/-- A session that nobody disturbs goes on to its end. -/
theorem play_alone {root : AbsolutePath} {stage : Stage} {w w' : World}
    {result : Except Repair.Breakage Report} (h : Alone root stage w result w')
    (registry : Registry) (reportPath : Option String) (writing : Writing) :
    ∀ p, stage = .waiting p → ∃ moves,
      (mk w.process w.tree registry [⟨root, reportPath, .running p⟩]).play moves =
        ⟨w.process, (conclude reportPath writing result w'.tree).2, registry.release root.text,
          [⟨root, reportPath, .closing (conclude reportPath writing result w'.tree).1⟩]⟩ := by
  induction h with
  | ended => exact fun p hp => nomatch hp
  | @waiting p stage w w' result hresume h ih =>
    intro p' hp
    obtain rfl := Stage.waiting.inj hp
    -- The call is told what its world says, and there is no other that could move.
    have hmove : ∀ s', resume w.process root p (w.answer p).1 w.tree = some s' →
        (mk w.process w.tree registry [⟨root, reportPath, .running p⟩]).move
            (.answer 0 (w.answer p).1 writing) =
          match s' with
          | (.waiting p, tree) => ⟨w.process, tree, registry, [⟨root, reportPath, .running p⟩]⟩
          | (.ended result, tree) =>
            ⟨w.process, (conclude reportPath writing result tree).2, registry.release root.text,
              [⟨root, reportPath, .closing (conclude reportPath writing result tree).1⟩]⟩ := by
      rintro ⟨stage | result, tree⟩ hs' <;> simp [move, hs']
    have hfirst := hmove _ hresume
    cases stage with
    | waiting p' =>
      obtain ⟨moves, hmoves⟩ := ih p' rfl
      rw [World.process_answer] at hmoves
      exact ⟨.answer 0 (w.answer p).1 writing :: moves, by rw [play_cons, hfirst, hmoves]⟩
    | ended result' =>
      cases h with
      | ended => exact ⟨[.answer 0 (w.answer p).1 writing], hfirst⟩

/-- A report whose writing comes to its end is filed. -/
theorem conclude_ended (reportPath : Option String) (timestamp : String)
    (result : Except Repair.Breakage Report) (t : FileTree) :
    conclude reportPath (.ended timestamp) result t =
      ((filed timestamp reportPath result t).1.toOption,
        (filed timestamp reportPath result t).2) := by
  rcases result with e | r
  · rfl
  rcases reportPath with _ | path
  · rfl
  by_cases hpath : path = ""
  · subst hpath
    rfl
  · simp only [conclude, if_neg hpath, filed]
    cases writeReport timestamp path r t <;> rfl

/-- A job on a directory on which a session is running does nothing. -/
theorem run_of_busy (j : Job) (settings : Settings) (timestamp : String) {s : Site}
    (h : (s.home.join j.directory).text ∈ s.registry.running) :
    j.run settings timestamp s = (.error (.busy (s.home.join j.directory).text), s, j.client) := by
  have hnone : s.registry.admit? (s.home.join j.directory).text = none := if_pos h
  rw [Job.run, hnone]

/-- A call that has a scene to itself comes to what its job comes to. -/
theorem play_job (j : Job) (settings : Settings) (timestamp : String) (s : Site) :
    ∃ moves, (mk s.process s.tree s.registry []).play moves =
      ⟨s.process, (j.run settings timestamp s).2.1.tree,
        (j.run settings timestamp s).2.1.registry,
        [⟨s.home.join j.directory, j.reportPath, phaseOf (j.run settings timestamp s).1⟩]⟩ := by
  have hcall : (mk s.process s.tree s.registry []).move (
      .call j.directory j.maxBuilds j.reportPath) =
      match s.registry.admit? (s.home.join j.directory).text with
      | none => ⟨s.process, s.tree, s.registry, [⟨s.home.join j.directory, j.reportPath, .refused⟩]⟩
      | some registry => ⟨s.process, s.tree, registry,
          [⟨s.home.join j.directory, j.reportPath, .running (firstPause j.maxBuilds)⟩]⟩ := rfl
  rw [Job.run]
  cases hadmission : s.registry.admit? (s.home.join j.directory).text with
  | none =>
    rw [hadmission] at hcall
    exact ⟨[.call j.directory j.maxBuilds j.reportPath], hcall⟩
  | some registry =>
    rw [hadmission] at hcall
    simp only
    generalize hw : j.world settings (s.home.join j.directory).text { s with registry } = w
    have htree : w.tree = s.tree := by rw [← hw]; rfl
    have hprocess : w.process = s.process := by rw [← hw]; rfl
    rcases hrun : run (s.home.join j.directory) j.maxBuilds w with ⟨result, w'⟩
    obtain ⟨moves, hmoves⟩ := play_alone ((alone_iff_run _ _ _ _ _).2 hrun) registry j.reportPath
      (.ended timestamp) _ (start_eq j.maxBuilds)
    rw [htree, hprocess] at hmoves
    refine ⟨.call j.directory j.maxBuilds j.reportPath :: (moves ++ [.close 0]), ?_⟩
    rw [play_cons, hcall, play_concat, hmoves, conclude_ended]
    simp only [Job.siteAfter]
    rcases filed timestamp j.reportPath result w'.tree with ⟨_ | _, _⟩ <;> rfl

end Scene

end Mender.Service
