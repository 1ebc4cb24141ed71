import Mender.Proofs.Repair.Bystanders
import Mender.Proofs.Session.Confinement

/-!
# Where sessions wait

A session waits for two things only: the result of a build, and the decision on a repair
(`Pause`). What it does between two waits is settled by the answer to the first of them
and by the file tree as it is then (`resume`), so that others can have their turn
whenever it waits. A session that goes from wait to wait in a world of its own does what
a run does (`alone_iff_run`).
-/

namespace Mender.Session

open Repair

/-! ## From wait to wait -/

/-- How a session stands between two diagnostics. -/
structure Standing where
  /-- The number of builds that it may still run. -/
  left : Nat
  /-- The number of builds that it has run. -/
  done : Nat
  /-- The diagnostics of the latest build. -/
  previous : Option (List Diagnostic)
  books : State

/-- What a session waits for. -/
inductive Pause
  /-- A build, which is not among those that are counted yet. -/
  | build (s : Standing)
  /-- The decision on the repair of `d`, with the content that was read from its file at
      `path`. The other diagnostics of the round come next. -/
  | decision (s : Standing) (d : Diagnostic) (others : List Diagnostic) (path : AbsolutePath)
      (content : String)

/-- What a session is told. -/
inductive Answer
  | built (o : Build.Outcome)
  /-- A decision, with what a replacement that it asks for meets with. -/
  | decided (o : Outcome) (faults : Faults) (time : Int)

/-- Where a session has come to. -/
inductive Stage
  | waiting (p : Pause)
  | ended (result : Except Breakage Report)

/-- The standing after the work on a diagnostic. -/
def Standing.book (s : Standing) (d : Diagnostic) (r : Result) : Standing :=
  { s with books := s.books.book d r }

/-- A new round, if there may be one. -/
def nextRound (s : Standing) : Stage :=
  match s.left with
  | 0 => .ended (.ok (report s.books s.done .budgetExhausted (s.previous.getD [])))
  | left + 1 => .waiting (.build { s with left })

/-- The beginning of a session that may run the given number of builds. -/
def start (maxBuilds : Int) : Stage := nextRound ⟨budget maxBuilds, 0, none, .empty⟩

/-- The work on the diagnostics of a round, up to the first that asks for a decision. -/
def work (root : AbsolutePath) (t : FileTree) : Standing → List Diagnostic → Stage
  | s, [] => nextRound s
  | s, d :: ds =>
    match root.resolve? d.file with
    | none => work root t (s.book d (.because .outOfScope "")) ds
    | some path =>
      match t.readText path.text with
      | .error why => work root t (s.book d (.because .readFailed why)) ds
      | .ok content => .waiting (.decision s d ds path content)

/-- What a session does behind a build. -/
def afterBuild (root : AbsolutePath) (t : FileTree) (s : Standing) (o : Build.Outcome) : Stage :=
  if o.success then .ended (.ok (report s.books (s.done + 1) .success []))
  else
    let ds := BuildLog.read o.output
    if ds = [] then
      .ended (.ok (report s.books (s.done + 1) .noDiagnostics (s.previous.getD [])))
    else if isStalled ds s.previous then .ended (.ok (report s.books (s.done + 1) .stalled ds))
    else work root t { s with done := s.done + 1, previous := some ds } ds

/-- What comes of a replacement. -/
def Result.ofReplacement :
    Except ReplaceFailure (Option Record) → Except Breakage Result
  | .error (.broken why) => .error why
  | .error (.operation e) => .ok (.because .applyFailed e.message)
  | .ok none => .ok .untouched
  | .ok (some r) => .ok (.fixed r)

/-- What comes of a decision on a diagnostic. -/
def settle (process : Nat) (d : Diagnostic) (path : AbsolutePath) (content : String)
    (o : Outcome) (faults : Faults) (time : Int) (t : FileTree) :
    Except Breakage Result × FileTree :=
  if !o.changed then (.ok (.unfixed o.reason o.detail), t)
  else
    let (result, t) := (replacement path d content o).apply process faults time t
    (Result.ofReplacement result, t)

/-- What a session does behind the work on a diagnostic, unless it breaks off. -/
def afterDecision (root : AbsolutePath) (t : FileTree) (s : Standing) (d : Diagnostic)
    (others : List Diagnostic) : Except Breakage Result → Stage
  | .error why => .ended (.error why)
  | .ok r => work root t (s.book d r) others

/-- Where a session in the process of the given number comes to when it is told what it waits
    for, and the tree then. -/
def resume (process : Nat) (root : AbsolutePath) :
    Pause → Answer → FileTree → Option (Stage × FileTree)
  | .build s, .built o, t => some (afterBuild root t s o, t)
  | .decision s d others path content, .decided o faults time, t =>
    let (result, t) := settle process d path content o faults time t
    some (afterDecision root t s d others result, t)
  | _, _, _ => none

/-! ## Sessions in worlds of their own -/

/-- What a session is told by its world, and the world then. -/
def World.answer (w : World) : Pause → Answer × World
  | .build s =>
    let (o, w) := w.build (s.done + 1)
    (.built o, w)
  | .decision _ d _ path content =>
    let (o, w) := w.select d content
    let r := replacement path d content o
    (.decided o (w.faults.answer w.faults.taken)
        (if r.isNeeded then w.clock.answer w.clock.taken else 0),
      if o.changed then (w.replace r).2 else w)

theorem World.process_answer (w : World) (p : Pause) : (w.answer p).2.process = w.process := by
  cases p with
  | build s => rfl
  | decision s d others path content =>
    simp only [World.answer]
    rcases hs : w.select d content with ⟨o, w₁⟩
    simp only
    split
    · rw [World.replace_eq]
      exact (World.selected hs).process
    · exact (World.selected hs).process

/-- A session that has come to a stage in the world `w` goes on to the given result, and
    then the world is `w'`. Nobody else changes the tree. -/
inductive Alone (root : AbsolutePath) :
    Stage → World → Except Breakage Report → World → Prop
  | ended {result : Except Breakage Report} {w : World} :
      Alone root (.ended result) w result w
  | waiting {p : Pause} {stage : Stage} {w w' : World} {result : Except Breakage Report} :
      resume w.process root p (w.answer p).1 w.tree = some (stage, (w.answer p).2.tree) →
      Alone root stage (w.answer p).2 result w' → Alone root (.waiting p) w result w'

section

variable {root path : AbsolutePath} {w w' w'' : World} {s : Standing} {d : Diagnostic}
  {ds : List Diagnostic} {content : String} {stage : Stage}
  {result result' : Except Breakage Report}

/-- The world and the stage settle what a session comes to. -/
theorem Alone.unique (h : Alone root stage w result w') (h' : Alone root stage w result' w'') :
    result = result' ∧ w' = w'' := by
  induction h with
  | ended =>
    cases h'
    exact ⟨rfl, rfl⟩
  | waiting hresume _ ih =>
    cases h' with
    | waiting hresume' h' =>
      -- Both go on from the answer that the world gives, so they come to one stage.
      rw [hresume, Option.some.injEq, Prod.mk.injEq] at hresume'
      obtain ⟨rfl, -⟩ := hresume'
      exact ih h'

/-- A file that can be read is repaired as is decided for its content. -/
theorem repairFile_of_read (hread : w.readText path.text = .ok content) :
    repairFile path d w =
      let (o, w) := w.select d content
      if !o.changed then (.ok (.unfixed o.reason o.detail), w)
      else
        let (result, w) := w.replace (replacement path d content o)
        (Result.ofReplacement result, w) := by
  simp only [repairFile, hread]
  rcases w.select d content with ⟨o, w₁⟩
  simp only
  split
  · rfl
  · rcases w₁.replace (replacement path d content o) with ⟨(e | why) | (_ | r), w₂⟩ <;> rfl

/-- Work on a file is what comes of the decision that the world takes. -/
theorem settle_answer (hread : w.readText path.text = .ok content) (s : Standing)
    (ds : List Diagnostic) :
    ∃ o faults time, w.answer (.decision s d ds path content) =
        (.decided o faults time, (repairFile path d w).2) ∧
      settle w.process d path content o faults time w.tree =
        ((repairFile path d w).1, (repairFile path d w).2.tree) := by
  rw [repairFile_of_read hread]
  rcases hs : w.select d content with ⟨o, w₁⟩
  have htree : w₁.tree = w.tree := (World.selected hs).tree
  have hprocess : w₁.process = w.process := (World.selected hs).process
  simp only [World.answer, hs, settle, ← htree, ← hprocess]
  refine ⟨o, w₁.faults.answer w₁.faults.taken,
    if (replacement path d content o).isNeeded then w₁.clock.answer w₁.clock.taken else 0, ?_⟩
  cases o.changed with
  | false => exact ⟨rfl, rfl⟩
  | true =>
    simp only [Bool.not_true, Bool.false_eq_true, if_false, if_true, World.replace_eq]
    exact ⟨trivial, rfl⟩

/-- A session that waits for a decision goes on with the work on the file. -/
theorem resume_answer (root : AbsolutePath) (hread : w.readText path.text = .ok content)
    (s : Standing) (d : Diagnostic) (ds : List Diagnostic) :
    (w.answer (.decision s d ds path content)).2 = (repairFile path d w).2 ∧
      resume w.process root (.decision s d ds path content)
          (w.answer (.decision s d ds path content)).1 w.tree =
        some (afterDecision root (repairFile path d w).2.tree s d ds (repairFile path d w).1,
          (repairFile path d w).2.tree) := by
  obtain ⟨o, faults, time, hanswer, hsettle⟩ := settle_answer (d := d) hread s ds
  rw [hanswer, resume, hsettle]
  exact ⟨rfl, rfl⟩

/-- Work on the diagnostics of a round goes from decision to decision. -/
theorem alone_work (ds : List Diagnostic) :
    ∀ {s : Standing} {w w' : World} {result : Except Breakage Report},
      (match repairAll root ds s.books w with
        | (.error why, w₁) => result = .error why ∧ w' = w₁
        | (.ok books, w₁) => Alone root (nextRound { s with books }) w₁ result w') →
      Alone root (work root w.tree s ds) w result w' := by
  induction ds with
  | nil => exact fun h => h
  | cons d ds ih =>
    intro s w w' result h
    rw [repairAll, attempt] at h
    rw [work]
    cases hpath : root.resolve? d.file with
    | none =>
      rw [hpath] at h
      exact ih (s := s.book d (.because .outOfScope "")) h
    | some path =>
      simp only [hpath] at h ⊢
      cases hread : w.readText path.text with
      | error why =>
        simp only [repairFile, hread] at h
        rw [World.readText_eq] at hread
        rw [hread]
        exact ih (s := s.book d (.because .readFailed why)) h
      | ok content =>
        -- The only wait of the three: the session goes on once the world has decided.
        obtain ⟨hworld, hresume⟩ := resume_answer root hread s d ds
        rw [World.readText_eq] at hread
        rw [hread]
        refine .waiting (by rw [hresume, hworld]) ?_
        rw [hworld]
        generalize repairFile path d w = x at h
        rcases x with ⟨e | r, w₁⟩
        · obtain ⟨rfl, rfl⟩ := h
          exact .ended
        · exact ih (s := s.book d r) h

/-- By induction on the rounds that are left: played alone, a session comes to what its rounds
    come to. -/
theorem alone_rounds (left : Nat) :
    ∀ (done : Nat) (previous : Option (List Diagnostic)) (books : State) (w : World),
      Alone root (nextRound ⟨left, done, previous, books⟩) w
        (rounds root left done previous books w).1 (rounds root left done previous books w).2 := by
  induction left with
  | zero => exact fun _ _ _ _ => .ended
  | succ left ih =>
    intro done previous books w
    -- A build leaves the tree alone, so the round works on the tree that the session saw.
    have htree : (w.build (done + 1)).2.tree = w.tree := rfl
    have hresume : resume w.process root (.build ⟨left, done, previous, books⟩)
        (w.answer (.build ⟨left, done, previous, books⟩)).1 w.tree =
        some (afterBuild root w.tree ⟨left, done, previous, books⟩ (w.build (done + 1)).1,
          (w.answer (.build ⟨left, done, previous, books⟩)).2.tree) := rfl
    refine .waiting hresume ?_
    rw [rounds, afterBuild]
    simp only [World.answer]
    rw [← htree]
    rcases w.build (done + 1) with ⟨o, w₁⟩
    simp only
    split
    · exact .ended
    split
    · exact .ended
    split
    · exact .ended
    refine alone_work _ ?_
    simp only
    rcases repairAll root (BuildLog.read o.output) books w₁ with ⟨e | books', w₂⟩
    · exact ⟨rfl, rfl⟩
    · exact ih (done + 1) _ books' w₂

/-- A session that is left alone comes to what a run comes to. -/
theorem alone_iff_run (root : AbsolutePath) (maxBuilds : Int) (w : World)
    (result : Except Breakage Report) (w' : World) :
    Alone root (start maxBuilds) w result w' ↔ run root maxBuilds w = (result, w') := by
  have hrun : Alone root (start maxBuilds) w (run root maxBuilds w).1 (run root maxBuilds w).2 :=
    alone_rounds (budget maxBuilds) 0 none .empty w
  constructor
  · intro h
    obtain ⟨hresult, hworld⟩ := hrun.unique h
    exact Prod.ext hresult hworld
  · intro h
    rwa [h] at hrun

end

/-! ## Between two waits -/

/-- What has been read from a file is the text of the file. -/
def Pause.IsCurrent (root : AbsolutePath) (t : FileTree) : Pause → Prop
  | .build _ => True
  | .decision _ d _ path content =>
    root.resolve? d.file = some path ∧ t.readText path.text = .ok content

/-- The file that is to be replaced lies below the root. -/
def Pause.IsInside (root : AbsolutePath) : Pause → Prop
  | .build _ => True
  | .decision _ _ _ path _ => path.Normal ∧ Below root.names path.names

section

variable {process : Nat} {root : AbsolutePath} {t t' : FileTree} {p p' : Pause} {a : Answer}
  {stage : Stage}

/-- A session that begins a round waits for a build, and has read nothing. -/
theorem isCurrent_of_nextRound {s : Standing} (h : nextRound s = .waiting p) :
    p.IsCurrent root t := by
  rw [nextRound] at h
  split at h
  · simp at h
  · obtain rfl := Stage.waiting.inj h
    trivial

/-- What the work on a round waits with, it has just read. -/
theorem isCurrent_of_work {ds : List Diagnostic} :
    ∀ {s : Standing}, work root t s ds = .waiting p → p.IsCurrent root t := by
  induction ds with
  | nil => exact isCurrent_of_nextRound
  | cons d ds ih =>
    intro s h
    rw [work] at h
    split at h
    · exact ih h
    · next hpath =>
      split at h
      · exact ih h
      · next hread =>
        obtain rfl := Stage.waiting.inj h
        exact ⟨hpath, hread⟩

/-- The ways that a session can go on. A decision leaves the tree alone, or it leads to a
    replacement. -/
inductive Resumed (process : Nat) (root : AbsolutePath) (t : FileTree) :
    Pause → Stage → FileTree → Prop
  | built {s : Standing} {o : Build.Outcome} :
      Resumed process root t (.build s) (afterBuild root t s o) t
  | decided {s : Standing} {d : Diagnostic} {others : List Diagnostic} {path : AbsolutePath}
      {content : String} {result : Except Breakage Result} {t' : FileTree} :
      (t' = t ∨ ∃ o faults time,
        t' = ((replacement path d content o).apply process faults time t).2) →
      Resumed process root t (.decision s d others path content)
        (afterDecision root t' s d others result) t'

/-- A session goes on in one of these ways. -/
theorem resumed (h : resume process root p a t = some (stage, t')) :
    Resumed process root t p stage t' := by
  cases p with
  | build s =>
    cases a with
    | built o =>
      obtain ⟨rfl, rfl⟩ := Prod.mk.inj (Option.some.inj h)
      exact .built
    | decided o faults time => simp [resume] at h
  | decision s d others path content =>
    cases a with
    | built o => simp [resume] at h
    | decided o faults time =>
      rw [resume] at h
      rcases hsettle : settle process d path content o faults time t with ⟨result, u⟩
      simp only [hsettle, Option.some.injEq, Prod.mk.injEq] at h
      obtain ⟨rfl, rfl⟩ := h
      refine .decided ?_
      rw [settle] at hsettle
      split at hsettle
      · exact .inl (Prod.mk.inj hsettle).2.symm
      · exact .inr ⟨o, faults, time, (Prod.mk.inj hsettle).2.symm⟩

/-- A session that waits after a build has read what is in the tree. -/
theorem isCurrent_of_afterBuild {s : Standing} {o : Build.Outcome}
    (h : afterBuild root t s o = .waiting p) : p.IsCurrent root t := by
  simp only [afterBuild] at h
  split at h
  · simp at h
  split at h
  · simp at h
  split at h
  · simp at h
  exact isCurrent_of_work h

/-- What a session waits with when it has gone on, it has just read. -/
theorem isCurrent_of_resume (h : resume process root p a t = some (stage, t'))
    (hstage : stage = .waiting p') : p'.IsCurrent root t' := by
  cases resumed h with
  | built => exact isCurrent_of_afterBuild hstage
  | @decided _ _ _ _ _ result _ _ =>
    cases result with
    | error why => simp [afterDecision] at hstage
    | ok r => exact isCurrent_of_work hstage

/-- What can be read lies below the root, as the root is a directory. -/
theorem Pause.IsCurrent.isInside (hroot : root.Normal) (hrooted : t.Rooted root.names)
    (hp : p.IsCurrent root t) : p.IsInside root := by
  cases p with
  | build s => trivial
  | decision s d others path content =>
    obtain ⟨hpath, hread⟩ := hp
    exact ⟨hroot.of_resolve? hpath, below_of_readText hroot hrooted hpath hread⟩

/-- A session that goes on changes nothing but what lies below its root. -/
theorem get?_of_resume (hp : p.IsInside root) (h : resume process root p a t = some (stage, t'))
    {l : Location} (hl : ¬Below root.names l) : t'.get? l = t.get? l := by
  cases resumed h with
  | built => rfl
  | decided htree =>
    obtain ⟨hpath, hb⟩ := hp
    rcases htree with rfl | ⟨o, faults, time, rfl⟩
    · rfl
    · exact (confined_apply hpath hb rfl).frame t l hl

/-- A session that goes on leaves all directories where they are. -/
theorem changesOnly_of_resume (h : resume process root p a t = some (stage, t')) :
    ∃ paths, FileTree.ChangesOnly paths t t' := by
  cases resumed h with
  | built => exact ⟨[], .refl _ t⟩
  | decided htree =>
    rcases htree with rfl | ⟨o, faults, time, rfl⟩
    · exact ⟨[], .refl _ _⟩
    · exact ⟨_, (Replacement.course_apply _ process faults time t).changesOnly⟩

/-- The working directory stays where it is. -/
theorem Alone.home {w w' : World} {result : Except Breakage Report}
    (h : Alone root stage w result w') : w'.tree.home = w.tree.home := by
  induction h with
  | ended => rfl
  | waiting hresume _ ih =>
    obtain ⟨paths, hchanges⟩ := changesOnly_of_resume hresume
    exact ih.trans hchanges.home

end

end Mender.Session
